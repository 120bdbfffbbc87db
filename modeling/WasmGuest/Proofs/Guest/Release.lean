import WasmGuest.Proofs.Guest.Calls
import WasmGuest.Proofs.Guest.Lists

/-!
# Every recorded block is released once

An invocation that reaches guest memory hands back every block that it was
given: the blocks of the list arguments that got into memory, in the order of
the arguments, and behind them the block that a list result was read from.
`Instance.Exchanges.handsBack` says so for every instance and every invocation,
whatever fails on the way.

* `Received` says that the export returned a list to read, and where it is.
* `HandsBack` lists what is promised about the calls and about the result.
* `blocks_exchange` finds the block of the result among those that the exchange
  recorded, and `size_of_received` is the size that it is released with.
-/

namespace WasmGuest

open Wasm (Val)
open Machine (Code Store Halt)
open Guest (Passing)

/-- The invocation wants a list, and the export returned the place and the length of one that can
be read; `returned` is the store at that moment. -/
structure Received (c : Code) (g : Guest) (f : Nat) (i : Invocation) (store : Store) (b : Block)
    (returned : Store) : Prop where
  wanted : i.returns = .list
  returns : ∃ params, (passArgs c (some g) i.args store).result = .ok params ∧
    Machine.call c f params (passArgs c (some g) i.args store).store
      = .values [.i32 b.ptr.toUInt32, .i32 b.len.toUInt32] returned
  readable : ∃ xs, g.readList returned b = .ok xs

/-- The list arguments of an invocation on their way into guest memory. -/
def Instance.passings (a : Instance) (i : Invocation) (g : Guest) : List Passing :=
  g.passings a.prepared.code i.args a.store.refuel

/-- What an invocation that uses guest memory does with its blocks: `result` is the block of the
result, `entered` the parameters of the export if it was called, and `frees` the releases. -/
structure HandsBack (a : Instance) (i : Invocation) (f : Nat) (g : Guest) (result : Option Block)
    (entered : Option (List Val)) (frees : List HostCall) : Prop where
  /-- There is a block of the result if and only if the export returned a list that was read. -/
  result_iff : ∀ b, result = some b ↔
    ∃ returned, Received a.prepared.code g f i a.store.refuel b returned
  /-- The size of that block is not clamped in a memory below two gibibytes. -/
  result_size : ∀ b returned, Received a.prepared.code g f i a.store.refuel b returned →
    returned.memorySize g.memory < 2 ^ 31 → b.size.toInt = 4 * b.len.toInt
  /-- The block of an argument has the place and the size of the one call to `alloc` that was made
  for it. -/
  argument_size : ∀ w ∈ a.passings i g, ∀ b, w.block? a.prepared.code g = some b →
    (w.copy a.prepared.code g).calls = [.alloc b.size (.ok b.ptr)]
  /-- The calls are those that pass the arguments, perhaps that of the export, and the releases. -/
  calls_eq : (a.invoke i).calls =
    (a.passings i g).flatMap (fun w => (w.copy a.prepared.code g).calls) ++
      entered.toList.map .export ++ frees
  /-- Each block is released by one call: first those of the arguments, in order, then that of the
  result. -/
  frees_eq : g.free.isSome → frees.map HostCall.freed? =
    ((a.passings i g).filterMap (Passing.block? a.prepared.code g) ++ result.toList).map
      fun b => some (b.ptr, b.size)
  /-- Without a usable `free` nothing is released. -/
  frees_eq_nil : g.free = none → frees = []
  /-- No other call of the invocation is one to `free`. -/
  freed_eq : (a.invoke i).calls.filterMap HostCall.freed? = frees.filterMap HostCall.freed?
  /-- The result is the error of the exchange, or else that of the first release that failed. -/
  result_eq : (a.invoke i).result =
    match (exchange a.prepared.code (some g) f i a.store.refuel).result with
    | .error e => .error (.invocation i.target e)
    | .ok outcome =>
      match frees.findSome? HostCall.failedFree? with
      | some (ptr, h) => .error (.invocation i.target (.guest (.free ptr h)))
      | none => .ok outcome
  /-- The recorded calls are those that were made, and nothing else ran. -/
  transcript : Transcript a.prepared.code g f (a.invoke i).calls a.store.refuel
    (a.invoke i).after.store

/-! ## The block of the result -/

section Result

variable {c : Code} {g : Guest} {f : Nat} {i : Invocation} {store : Store}

/-- A block is determined by the results that name it. -/
theorem eq_of_results {b b' : Block} (h : [Val.i32 b.ptr.toUInt32, .i32 b.len.toUInt32] =
    [.i32 b'.ptr.toUInt32, .i32 b'.len.toUInt32]) : b = b' := by
  simp only [List.cons.injEq, Val.i32.injEq, and_true] at h
  have hptr : b.ptr = b'.ptr := congrArg UInt32.toInt32 h.1
  have hlen : b.len = b'.len := congrArg UInt32.toInt32 h.2
  cases b
  cases b'
  exact congr (congrArg Block.mk hptr) hlen

/-- The exchange records the blocks of the arguments and behind them the block of the result. -/
theorem blocks_exchange (c : Code) (g : Guest) (f : Nat) (i : Invocation) (store : Store) :
    ∃ result : Option Block,
      (exchange c (some g) f i store).blocks =
        (passArgs c (some g) i.args store).blocks ++ result.toList ∧
      ∀ b, result = some b ↔ ∃ returned, Received c g f i store b returned := by
  have hexchanged := exchanged_exchange c (some g) f i store
  generalize exchange c (some g) f i store = done at hexchanged ⊢
  cases hexchanged with
  | refused hpassed =>
    refine ⟨none, by simp, fun b => ⟨nofun, ?_⟩⟩
    rintro ⟨_, hreceived⟩
    obtain ⟨params, hparams, -⟩ := hreceived.returns
    rw [hpassed] at hparams
    cases hparams
  | halts hpassed hcall =>
    refine ⟨none, by simp, fun b => ⟨nofun, ?_⟩⟩
    rintro ⟨_, hreceived⟩
    obtain ⟨params, hparams, hreturns⟩ := hreceived.returns
    cases hpassed.symm.trans hparams
    cases hcall.symm.trans hreturns
  | unreadable hpassed hcall hlift =>
    refine ⟨none, by simp, fun b => ⟨nofun, ?_⟩⟩
    rintro ⟨_, hreceived⟩
    obtain ⟨params, hparams, hreturns⟩ := hreceived.returns
    obtain ⟨xs, hread⟩ := hreceived.readable
    cases hpassed.symm.trans hparams
    cases hcall.symm.trans hreturns
    simp only [liftResults, hreceived.wanted, Int32.toInt32_toUInt32, hread] at hlift
    cases hlift
  | @returns _ results after _ blocks hpassed hcall hlift =>
    have hreceived (b : Block) (returned : Store) (h : Received c g f i store b returned) :
        returned = after ∧ results = [.i32 b.ptr.toUInt32, .i32 b.len.toUInt32] := by
      obtain ⟨params, hparams, hreturns⟩ := h.returns
      cases hpassed.symm.trans hparams
      cases hcall.symm.trans hreturns
      exact ⟨rfl, rfl⟩
    rcases blocks_liftResults hlift with ⟨rfl, hnone⟩ | ⟨b, xs, rfl, -, hwanted, hresults, hread⟩
    · refine ⟨none, by simp, fun b => ⟨nofun, ?_⟩⟩
      rintro ⟨returned, h⟩
      exact absurd ⟨h.wanted, (hreceived b returned h).2⟩ (hnone b)
    · refine ⟨some b, rfl, fun b' => ⟨?_, ?_⟩⟩
      · rintro ⟨⟩
        rw [hresults] at hcall
        exact ⟨after, hwanted, ⟨_, hpassed, hcall⟩, xs, hread⟩
      · rintro ⟨returned, h⟩
        have hsame := hresults.symm.trans (hreceived b' returned h).2
        rw [eq_of_results hsame]

/-- In a memory below two gibibytes the block of the result is released with its own size. -/
theorem size_of_received {b : Block} {returned : Store}
    (h : Received c g f i store b returned) (hsize : returned.memorySize g.memory < 2 ^ 31) :
    b.size.toInt = 4 * b.len.toInt := by
  obtain ⟨xs, hread⟩ := h.readable
  obtain ⟨-, hlen, -, hin, -⟩ := Guest.readList_eq_ok_iff.1 hread
  have hpos : 0 ≤ b.len.toInt := by
    simpa [Int32.lt_iff_toInt_lt] using hlen
  have hfit : b.len.toInt * itemSize ≤ int32Max := by
    simp only [itemSize, int32Max] at hin ⊢
    omega
  rw [Guest.size_eq hpos hfit, Int32.toInt_ofInt_of_le]
  · simp only [itemSize]
    omega
  · simp only [itemSize]
    omega
  · simp only [int32Max] at hfit
    omega

end Result

/-! ## The whole invocation -/

/-- An invocation that uses guest memory hands back every block that it was given, once, and reports
the error of the exchange before those of the releases. -/
theorem Instance.Exchanges.handsBack {a : Instance} {i : Invocation} {f : Nat} {g : Guest}
    (h : a.Exchanges i f g) : ∃ result entered frees, HandsBack a i f g result entered frees := by
  obtain ⟨hresult, hafter, hcalls⟩ := h.invoke_eq
  obtain ⟨start, hstart, hwhole⟩ :=
    callWithMemory_eq a.prepared.code g f i a.store.refuel
  have hentered := calls_exchange a.prepared.code (some g) f i a.store.refuel
  generalize hparams : (passArgs a.prepared.code (some g) i.args a.store.refuel).result.toOption
    = entered at hentered
  obtain ⟨result, hblocks, hiff⟩ := blocks_exchange a.prepared.code g f i a.store.refuel
  simp only [hwhole] at hresult hafter hcalls
  refine ⟨result, entered, (g.releaseAll a.prepared.code
    (exchange a.prepared.code (some g) f i a.store.refuel).blocks start).calls, ?_⟩
  constructor
  case result_iff => exact hiff
  case result_size => exact fun b returned => size_of_received
  case argument_size => exact fun w _ b => Guest.calls_of_block?
  case calls_eq => rw [hcalls, hentered, Guest.calls_passArgs, Instance.passings]
  case frees_eq =>
    intro hfree
    obtain ⟨k, hk⟩ := Option.isSome_iff_exists.1 hfree
    rw [Guest.freed?_releaseAll hk, hblocks, Guest.blocks_passArgs, Instance.passings]
  case frees_eq_nil =>
    intro hnone
    rw [Guest.releaseAll_of_free_eq_none hnone]
  case freed_eq =>
    have hpassed : (passArgs a.prepared.code (some g) i.args a.store.refuel).calls.filterMap
        HostCall.freed? = [] :=
      List.filterMap_eq_nil_iff.2 fun x hx => by
        obtain ⟨size, result, rfl⟩ := Guest.exists_of_mem_passArgs hx
        rfl
    have hexport : (entered.toList.map HostCall.export).filterMap HostCall.freed? = [] := by
      cases entered <;> rfl
    rw [hcalls, hentered, List.filterMap_append, List.filterMap_append, hpassed, hexport]
    rfl
  case result_eq =>
    rw [hresult, Guest.result_releaseAll]
    cases (exchange a.prepared.code (some g) f i a.store.refuel).result with
    | error e => rfl
    | ok outcome =>
      cases (g.releaseAll a.prepared.code (exchange a.prepared.code (some g) f i
        a.store.refuel).blocks start).calls.findSome? HostCall.failedFree? <;> rfl
  case transcript =>
    rw [hcalls, hafter]
    refine (transcript_exchange a.prepared.code g f i a.store.refuel).append ?_
    have hreleased := Guest.transcript_releaseAll a.prepared.code g f
      (exchange a.prepared.code (some g) f i a.store.refuel).blocks start
    rcases hstart with rfl | rfl
    · exact hreleased
    · exact .refuel hreleased

/-! ## A release that fails -/

/-- A module that hands out blocks one after the other, whose `free` always halts, and whose `echo`
returns its parameters. -/
def stubbornModule : Wasm.Module where
  funcs := [
    ⟨⟨[.i32], [.i32]⟩, [], [.globalGet 0, .globalGet 0, .localGet 0,
      .numeric (.intBinary .w32 .add), .globalSet 0]⟩,
    ⟨⟨[.i32, .i32], []⟩, [], [.unreachable]⟩,
    ⟨⟨[.i32, .i32], [.i32, .i32]⟩, [], [.localGet 0, .localGet 1]⟩]
  memories := [⟨⟨1, none⟩, .w32⟩]
  globals := [⟨⟨true, .i32⟩, [.const (.i32 8)]⟩]
  exports := [⟨"memory", .memory 0⟩, ⟨"alloc", .func 0⟩, ⟨"free", .func 1⟩, ⟨"echo", .func 2⟩]

def stubborn : Instance :=
  ⟨⟨{}, stubbornModule⟩, ⟨⟨[.ofPages 1 none], #[.i32 8], [], [], []⟩, 0, 0⟩⟩

/-- Pass a list and take it back. -/
def echoCall : Invocation where
  target := "echo"
  args := [.list [7, -1]]
  returns := .list

/-- The argument and the result are one block here: both are released, each release fails, and the
first failure is the error. -/
theorem handsBack_stubborn :
    stubborn.Exchanges echoCall 2 ⟨0, 0, some 1⟩ ∧
      (∃ result entered frees,
        HandsBack stubborn echoCall 2 ⟨0, 0, some 1⟩ result entered frees) ∧
      (stubborn.invoke echoCall).calls.filterMap HostCall.freed? = [(8, 8), (8, 8)] ∧
      (stubborn.invoke echoCall).result =
        .error (.invocation "echo" (.guest (.free 8 (.trap .unreachable)))) := by
  have h : stubborn.Exchanges echoCall 2 ⟨0, 0, some 1⟩ :=
    ⟨⟨⟨[.i32, .i32], [.i32, .i32]⟩, rfl, rfl⟩, rfl, rfl⟩
  exact ⟨h, h.handsBack, by rfl, by rfl⟩

end WasmGuest
