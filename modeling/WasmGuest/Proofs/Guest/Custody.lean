import WasmGuest.Proofs.Guest.Release
import WasmGuest.Proofs.Instance.Session
import WasmGuest.Proofs.Scenario.Reading

/-!
# Which blocks are handed out and which are handed back

An invocation is handed blocks by the guest's `alloc` and hands blocks back to
its `free`.  This module compares the two lists.  In the order of the arguments
they are the same but for two blocks.

* A place that `alloc` hands out is refused if it is negative, or if the list does
  not fit behind it.  The invocation then fails, and hands this block back to
  nobody; `Guest.Passing.Refused` says when, and `Guest.Passing.refusal` is the error.
* The block of a list result is handed back behind those of the arguments, and
  nobody asks whether it is one of them.

`Guest.exists_books` keeps the books while arguments are passed, by induction over
them, and `Instance.exists_custody` of a whole invocation.  What follows for the
blocks of the arguments is `Instance.hands_back_arguments`, and for blocks that are
handed back twice `Instance.releases_apart`.
-/

namespace WasmGuest

open Wasm (Val)
open Machine (Code Store Halt)
open Guest (Passing)

/-! ## The books -/

/-- The block that a call to `alloc` handed out, by its place and size. -/
def HostCall.allocated? : HostCall → Option (Int32 × Int32)
  | .alloc size (.ok ptr) => some (ptr, size)
  | _ => none

/-- A block by its place and size, as it stands in the books. -/
def Block.entry (b : Block) : Int32 × Int32 :=
  (b.ptr, b.size)

namespace Reply

/-- The blocks that `alloc` handed out, in order. -/
def allocated (r : Reply) : List (Int32 × Int32) :=
  r.calls.filterMap HostCall.allocated?

/-- The blocks that were handed back to `free`, in order, whatever came of it. -/
def freed (r : Reply) : List (Int32 × Int32) :=
  r.calls.filterMap HostCall.freed?

end Reply

/-! ## Places that are refused -/

namespace Guest

/-- `alloc` hands out a place for the list that the host refuses: it is negative, or the list does
not fit into the memory behind it. -/
structure Passing.Refused (c : Code) (g : Guest) (w : Passing) (ptr : Int32) : Prop where
  short : ¬ int32Max < (w.items.length * itemSize : Nat)
  handed : ∃ after, g.allocate c w.items w.before = .values [.i32 ptr.toUInt32] after ∧
    (ptr < 0 ∨ after.memorySize g.memory < ptr.toUInt32.toNat + w.items.length * itemSize)

/-- The error with which a place is refused. -/
def Passing.refusal (w : Passing) (ptr : Int32) : GuestError :=
  if ptr < 0 then .invalidBlock ptr (Int32.ofNat w.items.length)
  else .outOfBounds ptr (w.items.length * itemSize)

section Books

variable {c : Code} {g : Guest}

/-- What came of copying a list, in the books: a block was handed out and is kept, or none was
handed out, or one was handed out and is refused. -/
inductive CopyEnds (c : Code) (g : Guest) (w : Passing) : Prop where
  | kept {b : Block} (hresult : (w.copy c g).result = .ok b)
      (hallocated : (w.copy c g).calls.filterMap HostCall.allocated? = [b.entry])
      (hnone : ∀ ptr, ¬ w.Refused c g ptr)
  | nothing {e : GuestError} (hresult : (w.copy c g).result = .error e)
      (hallocated : (w.copy c g).calls.filterMap HostCall.allocated? = [])
      (hnone : ∀ ptr, ¬ w.Refused c g ptr)
  | refused {ptr : Int32} (hresult : (w.copy c g).result = .error (w.refusal ptr))
      (hallocated : (w.copy c g).calls.filterMap HostCall.allocated? = [(ptr, bytesAsked w.items)])
      (hrefused : ∀ ptr', w.Refused c g ptr' ↔ ptr' = ptr)

/-- The place that is refused is the one that `alloc` returned. -/
theorem Passing.refused_iff {w : Passing} {ptr : Int32} {p : UInt32} {after : Store}
    (hshort : ¬ int32Max < (w.items.length * itemSize : Nat))
    (hcall : g.allocate c w.items w.before = .values [.i32 p] after) :
    w.Refused c g ptr ↔ ptr = p.toInt32 ∧
      (p.toInt32 < 0 ∨ after.memorySize g.memory < p.toNat + w.items.length * itemSize) := by
  constructor
  · intro h
    obtain ⟨after', hhanded, hbad⟩ := h.handed
    cases hcall.symm.trans hhanded
    exact ⟨(Int32.toInt32_toUInt32 ptr).symm, hbad⟩
  · rintro ⟨rfl, hbad⟩
    exact ⟨hshort, after, hcall, hbad⟩

/-- A list for which `alloc` is not called, or returns no place, is refused none. -/
theorem Passing.not_refused {w : Passing} {ptr : Int32}
    (h : ∀ p after, g.allocate c w.items w.before ≠ .values [.i32 p] after) :
    ¬ w.Refused c g ptr := by
  intro hrefused
  obtain ⟨after, hhanded, -⟩ := hrefused.handed
  exact h _ _ hhanded

theorem copyEnds (c : Code) (g : Guest) (w : Passing) : CopyEnds c g w := by
  have hcopies := copies_writeList c g w.items w.before
  generalize hcopy : g.writeList c w.items w.before = copy at hcopies
  cases hcopies with
  | tooLong hlong =>
    exact .nothing (by rw [Passing.copy, hcopy]) (by rw [Passing.copy, hcopy]; rfl)
      fun ptr h => h.short hlong
  | halts hshort hcall =>
    exact .nothing (by rw [Passing.copy, hcopy]) (by rw [Passing.copy, hcopy]; rfl)
      fun ptr => Passing.not_refused (by simp [hcall])
  | illTyped hshort hcall hvs =>
    exact .nothing (by rw [Passing.copy, hcopy]) (by rw [Passing.copy, hcopy]; rfl)
      fun ptr => Passing.not_refused (by simp [hcall, hvs])
  | @negative p after hshort hcall hneg =>
    have hresult : (w.copy c g).result = .error (w.refusal p.toInt32) := by
      rw [Passing.copy, hcopy, Passing.refusal, if_pos hneg]
    refine .refused hresult (by rw [Passing.copy, hcopy]; rfl) fun ptr => ?_
    simp [Passing.refused_iff hshort hcall, hneg]
  | @outside p after hshort hcall hpos hout =>
    have hresult : (w.copy c g).result = .error (w.refusal p.toInt32) := by
      rw [Passing.copy, hcopy, Passing.refusal, if_neg hpos]
    refine .refused hresult (by rw [Passing.copy, hcopy]; rfl) fun ptr => ?_
    simp [Passing.refused_iff hshort hcall, Nat.lt_of_not_le hout]
  | @fills p after hshort hcall hpos hin =>
    refine .kept (by rw [Passing.copy, hcopy]) ?_ fun ptr => ?_
    · rw [Passing.copy, hcopy, Block.entry, size_ofNat_length hshort]
      rfl
    · rw [Passing.refused_iff hshort hcall, not_and, not_or, Nat.not_lt]
      exact fun _ => ⟨hpos, hin⟩

/-- A place that is refused is the error of passing the arguments. -/
theorem passArgs_of_refused {vs : List Value} {store : Store} {w : Passing} {ptr : Int32}
    (hw : w ∈ g.passings c vs store) (h : w.Refused c g ptr) :
    (passArgs c (some g) vs store).result = .error (.guest (w.refusal ptr)) := by
  rw [passArgs_eq_error_iff]
  cases copyEnds c g w with
  | kept _ _ hnone => exact absurd h (hnone ptr)
  | nothing _ _ hnone => exact absurd h (hnone ptr)
  | refused hresult _ hrefused =>
    obtain rfl := (hrefused ptr).1 h
    exact ⟨w, hw, _, hresult, rfl⟩

/-- The books of passing arguments: the blocks that are kept, and behind them the one that is
refused. -/
structure Books (c : Code) (g : Guest) (vs : List Value) (store : Store)
    (refused : Option (Int32 × Int32)) : Prop where
  allocated_eq : (passArgs c (some g) vs store).calls.filterMap HostCall.allocated? =
    (passArgs c (some g) vs store).blocks.map Block.entry ++ refused.toList
  refused_iff : ∀ ptr size, refused = some (ptr, size) ↔
    ∃ w ∈ g.passings c vs store, w.Refused c g ptr ∧ size = bytesAsked w.items

theorem exists_books (c : Code) (g : Guest) (vs : List Value) (store : Store) :
    ∃ refused, Books c g vs store refused := by
  induction vs generalizing store with
  | nil => exact ⟨none, rfl, by simp [passings]⟩
  | cons v vs ih =>
    cases hv : v.isList with
    | false =>
      obtain ⟨refused, hbooks⟩ := ih store
      refine ⟨refused, ?_, ?_⟩
      · rw [passArgs_scalar _ hv]
        exact hbooks.allocated_eq
      · rw [passings_scalar hv]
        exact hbooks.refused_iff
    | true =>
      obtain ⟨xs, rfl⟩ := Value.eq_list_of_isList hv
      cases copyEnds c g ⟨xs, store⟩ with
      | kept hresult hallocated hnone =>
        obtain ⟨refused, hbooks⟩ := ih (g.writeList c xs store).store
        refine ⟨refused, ?_, ?_⟩
        · rw [passArgs_list_ok hresult, List.filterMap_append, hbooks.allocated_eq]
          exact congrArg (· ++ _) hallocated
        · rw [passings_list_ok hresult]
          simpa [hnone] using hbooks.refused_iff
      | nothing hresult hallocated hnone =>
        refine ⟨none, ?_, ?_⟩
        · rw [passArgs_list_error hresult]
          exact hallocated
        · rw [passings_list_error hresult]
          simp [hnone]
      | @refused place hresult hallocated hrefused =>
        refine ⟨some (place, bytesAsked xs), ?_, ?_⟩
        · rw [passArgs_list_error hresult]
          exact hallocated
        · rw [passings_list_error hresult]
          simp [hrefused, eq_comm]

/-- A guest takes blocks back if the module exports a usable `free`. -/
theorem free_of_resolve {m : Wasm.Module} {k : Nat} (hresolve : resolve m = .ok g)
    (hfree : function? m "free" = some (k, freeType)) : g.free = some k := by
  rw [resolve, hfree] at hresolve
  split at hresolve
  · cases hresolve
  split at hresolve
  · cases hresolve
  split at hresolve
  · cases hresolve
    rfl
  · cases hresolve

end Books

end Guest

/-! ## The books of an invocation -/

namespace Instance

/-- The module exports a `free` that takes blocks back. -/
def Frees (a : Instance) : Prop :=
  ∃ k, Guest.function? a.prepared.module "free" = some (k, Guest.freeType)

/-- The host refuses the place that `alloc` hands out for a list argument. -/
def Refuses (a : Instance) (i : Invocation) (w : Passing) (ptr : Int32) : Prop :=
  ∃ f g, a.Exchanges i f g ∧ w ∈ a.passings i g ∧ w.Refused a.prepared.code g ptr

/-- The export returns the place and the length of a list that is asked for and can be read. -/
def ReturnsBlock (a : Instance) (i : Invocation) (b : Block) : Prop :=
  ∃ f g returned, a.Exchanges i f g ∧ Received a.prepared.code g f i a.store.refuel b returned

/-- The books of an invocation: `kept` are the blocks that the lists were copied into, `refused` is
the one that the host does not take, and `result` the one that the export returned. -/
structure Custody (a : Instance) (i : Invocation) (kept : List (Int32 × Int32))
    (refused : Option (Int32 × Int32)) (result : Option Block) : Prop where
  allocated_eq : (a.invoke i).allocated = kept ++ refused.toList
  freed_eq : (a.invoke i).freed = kept ++ (result.map Block.entry).toList
  refused_iff : ∀ ptr size, refused = some (ptr, size) ↔
    ∃ w, a.Refuses i w ptr ∧ size = Guest.bytesAsked w.items
  refused_error : ∀ w ptr, a.Refuses i w ptr →
    (a.invoke i).result = .error (.invocation i.target (.guest (w.refusal ptr)))
  result_iff : ∀ b, result = some b ↔ a.ReturnsBlock i b

variable {a : Instance} {i : Invocation} {f : Nat} {g : Guest}

/-- The function that is called and the guest are determined by the invocation. -/
theorem Exchanges.unique {f' : Nat} {g' : Guest} (h : a.Exchanges i f g)
    (h' : a.Exchanges i f' g') : f' = f ∧ g' = g := by
  obtain ⟨type, hfunction, -⟩ := h.checked
  obtain ⟨type', hfunction', -⟩ := h'.checked
  rw [hfunction] at hfunction'
  have hresolved := h.resolved.symm.trans h'.resolved
  cases hfunction'
  cases hresolved
  exact ⟨rfl, rfl⟩

theorem Exchanges.refuses_iff (h : a.Exchanges i f g) {w : Passing} {ptr : Int32} :
    a.Refuses i w ptr ↔ w ∈ a.passings i g ∧ w.Refused a.prepared.code g ptr := by
  constructor
  · rintro ⟨f', g', h', hw⟩
    obtain ⟨rfl, rfl⟩ := h.unique h'
    exact hw
  · exact fun hw => ⟨f, g, h, hw⟩

theorem Exchanges.returnsBlock_iff (h : a.Exchanges i f g) {b : Block} :
    a.ReturnsBlock i b ↔ ∃ returned, Received a.prepared.code g f i a.store.refuel b returned := by
  constructor
  · rintro ⟨f', g', returned, h', hreceived⟩
    obtain ⟨rfl, rfl⟩ := h.unique h'
    exact ⟨returned, hreceived⟩
  · rintro ⟨returned, hreceived⟩
    exact ⟨f, g, returned, h, hreceived⟩

/-- Behind a place that is refused the export is not called, so no block comes back from it. -/
theorem Refuses.not_returnsBlock {w : Passing} {ptr : Int32} (h : a.Refuses i w ptr) (b : Block) :
    ¬ a.ReturnsBlock i b := by
  obtain ⟨f, g, hexchanges, hw, hrefused⟩ := h
  have herror := Guest.passArgs_of_refused hw hrefused
  intro hreturns
  obtain ⟨_, hreceived⟩ := hexchanges.returnsBlock_iff.1 hreturns
  obtain ⟨params, hpassed, -⟩ := hreceived.returns
  rw [herror] at hpassed
  cases hpassed

/-- What is handed out is handed out while the arguments are passed. -/
theorem Exchanges.allocated_eq (h : a.Exchanges i f g) :
    (a.invoke i).allocated =
      (passArgs a.prepared.code (some g) i.args a.store.refuel).calls.filterMap
        HostCall.allocated? := by
  have hreaches : a.Reaches i f (some g) := h
  obtain ⟨frees, hcalls, hfrees⟩ := hreaches.calls_eq
  have hreleased : frees.filterMap HostCall.allocated? = [] := by
    refine List.filterMap_eq_nil_iff.2 fun x hx => ?_
    obtain ⟨ptr, size, result, rfl⟩ := hfrees x hx
    rfl
  have hexported (params : Option (List Val)) :
      (params.toList.map HostCall.export).filterMap HostCall.allocated? = [] := by
    cases params <;> rfl
  rw [Reply.allocated, hcalls, List.filterMap_append, List.filterMap_append, hreleased, hexported,
    List.append_nil, List.append_nil]

/-- What is handed back are the blocks that the exchange recorded. -/
theorem Exchanges.freed_eq (h : a.Exchanges i f g) (hfree : a.Frees) :
    (a.invoke i).freed =
      (exchange a.prepared.code (some g) f i a.store.refuel).blocks.map Block.entry := by
  obtain ⟨-, -, hcalls⟩ := h.invoke_eq
  obtain ⟨start, -, hwhole⟩ := callWithMemory_eq a.prepared.code g f i a.store.refuel
  obtain ⟨k, hk⟩ := hfree
  have hdone : (exchange a.prepared.code (some g) f i a.store.refuel).calls.filterMap
      HostCall.freed? = [] :=
    List.filterMap_eq_nil_iff.2 fun x hx => freed?_of_mem_exchange hx
  have hreleased (bs : List Block) : (g.releaseAll a.prepared.code bs start).calls.filterMap
      HostCall.freed? = bs.map Block.entry := by
    have hfreed := Guest.freed?_releaseAll (c := a.prepared.code)
      (Guest.free_of_resolve h.resolved hk) bs start
    calc (g.releaseAll a.prepared.code bs start).calls.filterMap HostCall.freed?
      _ = ((g.releaseAll a.prepared.code bs start).calls.map HostCall.freed?).filterMap id := by
        rw [List.filterMap_map]
        rfl
      _ = (bs.map fun b => some b.entry).filterMap id := congrArg (List.filterMap id) hfreed
      _ = bs.map Block.entry := by
        rw [List.filterMap_map]
        exact congrFun List.filterMap_eq_map bs
  simp only [hwhole] at hcalls
  rw [Reply.freed, hcalls, List.filterMap_append, hdone, hreleased, List.nil_append]

/-- An invocation that does not get as far as exchanging lists is handed nothing, and hands nothing
back. -/
theorem books_eq_nil (h : ∀ f g, ¬ a.Exchanges i f g) :
    (a.invoke i).allocated = [] ∧ (a.invoke i).freed = [] := by
  rcases a.reaches_or_rejects i with ⟨f, guest, hreaches⟩ | ⟨-, hcalls, -⟩
  · cases guest with
    | some g => exact absurd hreaches (h f g)
    | none =>
      obtain ⟨-, -, hcalls⟩ := Bypasses.invoke_eq hreaches
      rw [Reply.allocated, Reply.freed, hcalls, calls_exchange, Guest.passArgs_none]
      exact ⟨rfl, rfl⟩
  · rw [Reply.allocated, Reply.freed, hcalls]
    exact ⟨rfl, rfl⟩

/-- With a block from the export no place was refused. -/
theorem Custody.refused_eq_none {kept : List (Int32 × Int32)} {refused : Option (Int32 × Int32)}
    {result : Option Block} {b : Block} (h : a.Custody i kept refused result)
    (hb : result = some b) : refused = none := by
  rw [Option.eq_none_iff_forall_ne_some]
  rintro ⟨ptr, size⟩ hsome
  obtain ⟨w, hrefuses, -⟩ := (h.refused_iff ptr size).1 hsome
  exact hrefuses.not_returnsBlock b ((h.result_iff b).1 hb)

theorem exists_custody (hfree : a.Frees) (i : Invocation) :
    ∃ kept refused result, a.Custody i kept refused result := by
  by_cases hexchanges : ∃ f g, a.Exchanges i f g
  · obtain ⟨f, g, h⟩ := hexchanges
    obtain ⟨refused, hbooks⟩ := Guest.exists_books a.prepared.code g i.args a.store.refuel
    obtain ⟨result, hblocks, hresult⟩ := blocks_exchange a.prepared.code g f i a.store.refuel
    refine ⟨(passArgs a.prepared.code (some g) i.args a.store.refuel).blocks.map Block.entry,
      refused, result, ?_⟩
    constructor
    case allocated_eq => rw [h.allocated_eq, hbooks.allocated_eq]
    case freed_eq =>
      rw [h.freed_eq hfree, hblocks, List.map_append]
      cases result <;> rfl
    case refused_iff =>
      intro ptr size
      simp only [hbooks.refused_iff, h.refuses_iff, passings, and_assoc]
    case refused_error =>
      intro w ptr hrefuses
      obtain ⟨hw, hrefused⟩ := h.refuses_iff.1 hrefuses
      have hpassed := Guest.passArgs_of_refused hw hrefused
      have hdone : (exchange a.prepared.code (some g) f i a.store.refuel).result =
          .error (.guest (w.refusal ptr)) := by
        simp only [exchange, hpassed]
      rw [h.invoke_eq.1, callWithMemory_of_error hdone]
      rfl
    case result_iff =>
      intro b
      rw [hresult, h.returnsBlock_iff]
  · have hnone : ∀ f g, ¬ a.Exchanges i f g := fun f g h => hexchanges ⟨f, g, h⟩
    obtain ⟨hallocated, hfreed⟩ := books_eq_nil hnone
    refine ⟨[], none, none, hallocated, hfreed, ?_, ?_, ?_⟩
    · simp [Refuses, hnone]
    · rintro w ptr ⟨f, g, h, -⟩
      exact absurd h (hnone f g)
    · simp [ReturnsBlock, hnone]

/-! ## Every block that is kept is handed back -/

/-- What becomes of the blocks that `alloc` hands out for the arguments of an invocation. -/
structure HandsBackArguments (a : Instance) (i : Invocation) : Prop where
  /-- If no place is refused, each of them is handed back by one call, in order, and behind them
  the block of the result and nothing else. -/
  kept : (∀ w ptr, ¬ a.Refuses i w ptr) → ∃ result : Option Block,
    (∀ b, result = some b ↔ a.ReturnsBlock i b) ∧
      (a.invoke i).freed = (a.invoke i).allocated ++ (result.map Block.entry).toList
  /-- A place that is refused is the last one that is handed out, and the only one that is not
  handed back; the invocation fails because of it. -/
  refused : ∀ w ptr, a.Refuses i w ptr →
    (a.invoke i).allocated = (a.invoke i).freed ++ [(ptr, Guest.bytesAsked w.items)] ∧
      (a.invoke i).result = .error (.invocation i.target (.guest (w.refusal ptr)))

/-- Where `free` is usable every block that is handed out for an argument is handed back once,
unless its place is refused. -/
theorem hands_back_arguments (a : Instance) (i : Invocation) (hfree : a.Frees) :
    a.HandsBackArguments i := by
  obtain ⟨kept, refused, result, hcustody⟩ := exists_custody hfree i
  constructor
  case kept =>
    intro hnone
    have hrefused : refused = none := by
      rw [Option.eq_none_iff_forall_ne_some]
      rintro ⟨ptr, size⟩ hsome
      obtain ⟨w, hw, -⟩ := (hcustody.refused_iff ptr size).1 hsome
      exact hnone w ptr hw
    refine ⟨result, hcustody.result_iff, ?_⟩
    rw [hcustody.freed_eq, hcustody.allocated_eq, hrefused]
    simp
  case refused =>
    intro w ptr hrefuses
    have herror := hcustody.refused_error w ptr hrefuses
    have hsome : refused = some (ptr, Guest.bytesAsked w.items) :=
      (hcustody.refused_iff _ _).2 ⟨w, hrefuses, rfl⟩
    have hresult : result = none := by
      rw [Option.eq_none_iff_forall_ne_some]
      exact fun b hb => hrefuses.not_returnsBlock b ((hcustody.result_iff b).1 hb)
    refine ⟨?_, herror⟩
    rw [hcustody.freed_eq, hcustody.allocated_eq, hsome, hresult]
    simp

end Instance

/-- A module that hands out one block behind the other, counts the blocks that come back, and has an
export that returns the list that it is given. -/
def clerkText : String := r#"(module
  (memory (export "memory") 1)
  (global $next (mut i32) (i32.const 8))
  (global $freed (mut i32) (i32.const 0))
  (func (export "alloc") (param i32) (result i32)
    global.get $next
    (global.set $next (i32.add (global.get $next) (local.get 0))))
  (func (export "free") (param i32 i32)
    (global.set $freed (i32.add (global.get $freed) (i32.const 1))))
  (func (export "freed") (result i32)
    global.get $freed)
  (func (export "lengths") (param i32 i32 i32 i32) (result i32)
    (i32.add (local.get 1) (local.get 3)))
  (func (export "echo") (param i32 i32) (result i32 i32)
    local.get 0
    local.get 1))"#

def clerkModule : Wasm.Module where
  funcs := [
    ⟨⟨[.i32], [.i32]⟩, [], [.globalGet 0, .globalGet 0, .localGet 0,
      .numeric (.intBinary .w32 .add), .globalSet 0]⟩,
    ⟨⟨[.i32, .i32], []⟩, [], [.globalGet 1, .const (.i32 1), .numeric (.intBinary .w32 .add),
      .globalSet 1]⟩,
    ⟨⟨[], [.i32]⟩, [], [.globalGet 1]⟩,
    ⟨⟨[.i32, .i32, .i32, .i32], [.i32]⟩, [], [.localGet 1, .localGet 3,
      .numeric (.intBinary .w32 .add)]⟩,
    ⟨⟨[.i32, .i32], [.i32, .i32]⟩, [], [.localGet 0, .localGet 1]⟩]
  memories := [⟨⟨1, none⟩, .w32⟩]
  globals := [⟨⟨true, .i32⟩, [.const (.i32 8)]⟩, ⟨⟨true, .i32⟩, [.const (.i32 0)]⟩]
  exports := [⟨"memory", .memory 0⟩, ⟨"alloc", .func 0⟩, ⟨"free", .func 1⟩, ⟨"freed", .func 2⟩,
    ⟨"lengths", .func 3⟩, ⟨"echo", .func 4⟩]

/-- A new instance of the module, under a limit on fuel or without one. -/
def clerk (fuel : Option UInt64) : Instance :=
  ⟨⟨{ fuel := fuel }, clerkModule⟩, ⟨⟨[.ofPages 1 none], #[.i32 8, .i32 0], [], [], []⟩, 0, 0⟩⟩

theorem validate_clerkModule : clerkModule.validate = .ok () := by
  rfl

set_option maxRecDepth 4000 in
/-- The characters of the text are parsed as the module. -/
theorem parse_clerkText : ∃ cs, clerkText = String.ofList ('(' :: cs) ∧
    Wasm.Module.ofText ('(' :: cs) = .ok clerkModule := by
  refine ⟨_, by unfold clerkText; rfl, ?_⟩
  rfl

theorem reachable_clerk (fuel : Option UInt64) (is : List Invocation) :
    ((clerk fuel).afterAll is).Reachable := by
  obtain ⟨cs, htext, hread⟩ := parse_clerkText
  exact ⟨{ fuel := fuel }, .ofText clerkText, ⟨{ fuel := fuel }, clerkModule⟩, clerk fuel, is,
    Prepared.ofImage_ofText _ htext hread validate_clerkModule, rfl, rfl⟩

/-- Ask for a block, and do nothing with it. -/
def lendCall (size : Int32) : Invocation where
  target := "alloc"
  args := [.i32 size]

/-- Ask how many blocks were handed back. -/
def freedCall : Invocation where
  target := "freed"

/-- Pass two lists, and take back how many items they have. -/
def lengthsCall : Invocation where
  target := "lengths"
  args := [.list [1], .list [2, 3]]

/-- Two lists are copied into two blocks, and both blocks are handed back. -/
theorem hands_back_arguments_clerk :
    (clerk none).Frees ∧ (clerk none).HandsBackArguments lengthsCall ∧
      ((clerk none).invoke lengthsCall).allocated = [(8, 4), (12, 8)] ∧
      ((clerk none).invoke lengthsCall).freed = [(8, 4), (12, 8)] := by
  have hfree : (clerk none).Frees := ⟨1, rfl⟩
  exact ⟨hfree, (clerk none).hands_back_arguments lengthsCall hfree, by rfl, by rfl⟩

/-- Behind a block that reaches to the end of memory `alloc` returns, but its block is handed back
to nobody. -/
theorem refused_block_clerk :
    let a := (clerk none).afterAll [lendCall 65536]
    a.Reachable ∧ a.Frees ∧
      (a.invoke { echoCall with args := [.list [7]] }).allocated = [(65544, 4)] ∧
      (a.invoke { echoCall with args := [.list [7]] }).freed = [] ∧
      (a.invoke { echoCall with args := [.list [7]] }).result =
        .error (.invocation "echo" (.guest (.outOfBounds 65544 4))) :=
  ⟨reachable_clerk none _, ⟨1, rfl⟩, by rfl, by rfl, by rfl⟩

namespace Instance

/-! ## Blocks that are handed back twice -/

/-- The places that an invocation hands back, if `alloc` handed out no place twice. -/
structure ReleasesApart (a : Instance) (i : Invocation) : Prop where
  /-- They are all different unless the export returns the place of a block of an argument. -/
  nodup_iff : ((a.invoke i).freed.map Prod.fst).Nodup ↔
    ∀ b, a.ReturnsBlock i b → b.ptr ∉ (a.invoke i).allocated.map Prod.fst
  /-- If it does, this place is handed back twice, and no other one is. -/
  twice : ∀ b, a.ReturnsBlock i b → b.ptr ∈ (a.invoke i).allocated.map Prod.fst →
    ((a.invoke i).freed.map Prod.fst).count b.ptr = 2 ∧
      ∀ ptr, ptr ≠ b.ptr → ((a.invoke i).freed.map Prod.fst).count ptr ≤ 1

variable {a : Instance} {i : Invocation}

/-- Without a block from the export, what is handed back are the blocks of the arguments. -/
theorem Custody.releasesApart_of_none {kept : List (Int32 × Int32)}
    {refused : Option (Int32 × Int32)} (h : a.Custody i kept refused none)
    (hkept : (kept.map Prod.fst).Nodup) : a.ReleasesApart i := by
  have hfreed : (a.invoke i).freed = kept := by simpa using h.freed_eq
  have hnone (b : Block) : ¬ a.ReturnsBlock i b := by simp [← h.result_iff]
  constructor
  · simp [hfreed, hkept, hnone]
  · exact fun b hb => absurd hb (hnone b)

/-- A block from the export is handed back behind those of the arguments. -/
theorem Custody.releasesApart_of_some {kept : List (Int32 × Int32)}
    {refused : Option (Int32 × Int32)} {b : Block} (h : a.Custody i kept refused (some b))
    (hkept : (kept.map Prod.fst).Nodup) : a.ReleasesApart i := by
  have hreturns (b' : Block) : a.ReturnsBlock i b' ↔ b' = b := by
    rw [← h.result_iff, Option.some.injEq, eq_comm]
  have hallocated : (a.invoke i).allocated = kept := by
    rw [h.allocated_eq, h.refused_eq_none rfl]
    simp
  have hplaces : (a.invoke i).freed.map Prod.fst = kept.map Prod.fst ++ [b.ptr] := by
    rw [h.freed_eq]
    simp [Block.entry]
  have hcount (ptr : Int32) : (kept.map Prod.fst).count ptr ≤ 1 :=
    List.nodup_iff_count.1 hkept ptr
  constructor
  case nodup_iff =>
    rw [hplaces, hallocated, List.perm_append_comm.nodup_iff, List.singleton_append,
      List.nodup_cons]
    simp [hreturns, hkept]
  case twice =>
    intro b' hb' hmem
    obtain rfl := (hreturns b').1 hb'
    rw [hallocated, ← List.one_le_count_iff] at hmem
    rw [hplaces]
    constructor
    · rw [List.count_append, List.count_singleton_self]
      have := hcount b'.ptr
      omega
    · intro ptr hptr
      have hother : [b'.ptr].count ptr = 0 := List.count_eq_zero.2 (by simpa using hptr)
      rw [List.count_append, hother]
      exact hcount ptr

/-- Where `free` is usable and `alloc` hands out different places, a place is handed back twice
exactly if the export returns the block of an argument. -/
theorem releases_apart (a : Instance) (i : Invocation) (hfree : a.Frees)
    (happart : ((a.invoke i).allocated.map Prod.fst).Nodup) : a.ReleasesApart i := by
  obtain ⟨kept, refused, result, hcustody⟩ := exists_custody hfree i
  have hkept : (kept.map Prod.fst).Nodup := by
    rw [hcustody.allocated_eq, List.map_append] at happart
    exact (List.nodup_append.1 happart).1
  cases result with
  | none => exact hcustody.releasesApart_of_none hkept
  | some b => exact hcustody.releasesApart_of_some hkept

end Instance

/-- An export that returns the list that it is given returns the block of its argument, and this
block is handed back twice. -/
theorem releases_apart_clerk :
    (clerk none).Frees ∧ (((clerk none).invoke echoCall).allocated.map Prod.fst).Nodup ∧
      (clerk none).ReleasesApart echoCall ∧
      (clerk none).ReturnsBlock echoCall ⟨8, 2⟩ ∧
      (((clerk none).invoke echoCall).freed.map Prod.fst).count 8 = 2 := by
  have hfree : (clerk none).Frees := ⟨1, rfl⟩
  have happart : (((clerk none).invoke echoCall).allocated.map Prod.fst).Nodup := by
    have hplaces : ((clerk none).invoke echoCall).allocated.map Prod.fst = [8] := by rfl
    simp [hplaces]
  have hreleases := (clerk none).releases_apart echoCall hfree happart
  have hexchanges : (clerk none).Exchanges echoCall 4 ⟨0, 0, some 1⟩ :=
    ⟨⟨⟨[.i32, .i32], [.i32, .i32]⟩, rfl, rfl⟩, rfl, rfl⟩
  have hreturns : (clerk none).ReturnsBlock echoCall ⟨8, 2⟩ :=
    ⟨4, ⟨0, 0, some 1⟩, _, hexchanges, rfl, ⟨_, rfl, rfl⟩, ⟨_, rfl⟩⟩
  exact ⟨hfree, happart, hreleases, hreturns, (hreleases.twice _ hreturns List.mem_cons_self).1⟩

/-- So the blocks that are handed back need not be different, although those that are handed out
are. -/
theorem echoed_block_clerk :
    (clerk none).Reachable ∧ (clerk none).Frees ∧
      ((clerk none).invoke echoCall).allocated = [(8, 8)] ∧
      ((clerk none).invoke echoCall).freed = [(8, 8), (8, 8)] ∧
      ¬ (((clerk none).invoke echoCall).freed.map Prod.fst).Nodup := by
  have hfreed : ((clerk none).invoke echoCall).freed = [(8, 8), (8, 8)] := by rfl
  refine ⟨reachable_clerk none [], ⟨1, rfl⟩, by rfl, hfreed, ?_⟩
  rw [hfreed]
  decide

end WasmGuest
