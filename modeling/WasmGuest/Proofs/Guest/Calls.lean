import WasmGuest.Instance

/-!
# The calls of an invocation into the guest

A `Reply` records the calls that the host made into the guest.  This module
says what that record is worth and how it is put together.

There are four groups.

* `Made` and `Transcript` read a record as a run of the machine: every recorded
  call was made on the store that the calls before it left, with the recorded
  answer.  Between two calls the host only puts bytes into memory or refuels.
* `passings` lists the list arguments on their way into guest memory, up to and
  including the first that does not get there.  `calls_passArgs` and
  `blocks_passArgs` read the calls and the blocks of `passArgs` off that list.
* `releaseAll` calls `free` once for each block, whatever comes of it
  (`freed?_releaseAll`), and its result is that of the first call that failed
  (`result_releaseAll`).
* `Exchanges` and `Bypasses` say that an invocation gets past its checks, with
  guest memory and without; `Exchanges.invoke_eq` and `Bypasses.invoke_eq` are
  then what `Instance.invoke` does, and `Enters` is the moment the export is called.
  `Starts` lists what else an invocation may come to at its checks.
-/

namespace WasmGuest

open Wasm (Val)
open Machine (Code Store Halt CallResult)

/-! ## Records of calls -/

namespace HostCall

/-- The block that a call to `free` hands back, by its place and size. -/
def freed? : HostCall → Option (Int32 × Int32)
  | .free ptr size _ => some (ptr, size)
  | _ => none

/-- The place of the block and the cause, if the call is one to `free` that failed. -/
def failedFree? : HostCall → Option (Int32 × Halt)
  | .free ptr _ (.error h) => some (ptr, h)
  | _ => none

end HostCall

/-- A call that the host makes on a store: the answer is the recorded one, and the machine leaves
the store behind. -/
inductive Made (c : Code) (g : Guest) (f : Nat) : HostCall → Store → Store → Prop where
  | alloc {size : Int32} {p : UInt32} {before after : Store}
      (h : Machine.call c g.alloc [.i32 size.toUInt32] before = .values [.i32 p] after) :
      Made c g f (.alloc size (.ok p.toInt32)) before after
  | allocHalts {size : Int32} {cause : Halt} {before after : Store}
      (h : Machine.call c g.alloc [.i32 size.toUInt32] before = .halt cause after) :
      Made c g f (.alloc size (.error cause)) before after
  | allocIllTyped {size : Int32} {vs : List Val} {before after : Store}
      (h : Machine.call c g.alloc [.i32 size.toUInt32] before = .values vs after)
      (hvs : ∀ p, vs ≠ [.i32 p]) :
      Made c g f (.alloc size (.error .stuck)) before after
  | export {params : List Val} {before : Store} :
      Made c g f (.export params) before (Machine.call c f params before).store
  | free {k : Nat} {ptr size : Int32} {vs : List Val} {before after : Store}
      (hk : g.free = some k)
      (h : Machine.call c k [.i32 ptr.toUInt32, .i32 size.toUInt32] before = .values vs after) :
      Made c g f (.free ptr size (.ok ())) before after
  | freeHalts {k : Nat} {ptr size : Int32} {cause : Halt} {before after : Store}
      (hk : g.free = some k)
      (h : Machine.call c k [.i32 ptr.toUInt32, .i32 size.toUInt32] before = .halt cause after) :
      Made c g f (.free ptr size (.error cause)) before after

/-- Calls made one after the other; in between the host puts bytes into memory or refuels. -/
inductive Transcript (c : Code) (g : Guest) (f : Nat) : List HostCall → Store → Store → Prop where
  | nil (store : Store) : Transcript c g f [] store store
  | cons {x : HostCall} {xs : List HostCall} {before between after : Store}
      (h : Made c g f x before between) (rest : Transcript c g f xs between after) :
      Transcript c g f (x :: xs) before after
  | fill {xs : List HostCall} {before after : Store} (i : Nat) (bytes : List UInt8)
      (rest : Transcript c g f xs (before.write g.memory i bytes) after) :
      Transcript c g f xs before after
  | refuel {xs : List HostCall} {before after : Store}
      (rest : Transcript c g f xs before.refuel after) : Transcript c g f xs before after

namespace Transcript

variable {c : Code} {g : Guest} {f : Nat}

/-- Two records one after the other are one record. -/
theorem append {xs ys : List HostCall} {before between after : Store}
    (hxs : Transcript c g f xs before between) (hys : Transcript c g f ys between after) :
    Transcript c g f (xs ++ ys) before after := by
  induction hxs with
  | nil => exact hys
  | cons h _ ih => exact .cons h (ih hys)
  | fill i bytes _ ih => exact .fill i bytes (ih hys)
  | refuel _ ih => exact .refuel (ih hys)

theorem single {x : HostCall} {before after : Store} (h : Made c g f x before after) :
    Transcript c g f [x] before after :=
  .cons h (.nil after)

end Transcript

theorem Value.eq_list_of_isList {v : Value} (h : v.isList = true) : ∃ xs, v = .list xs := by
  cases v with
  | list xs => exact ⟨xs, rfl⟩
  | _ => cases h

/-! ## Copying one list -/

namespace Guest

/-- The bytes that a list takes, as they are asked of `alloc`. -/
def bytesAsked (xs : List Int32) : Int32 :=
  Int32.ofNat (xs.length * itemSize)

/-- The call to `alloc` for a list. -/
def allocate (c : Code) (g : Guest) (xs : List Int32) (store : Store) : CallResult :=
  Machine.call c g.alloc [.i32 (bytesAsked xs).toUInt32] store

/-- What comes of copying a list.  Unless the list is too long `alloc` is called once; the place it
returns is refused or filled. -/
inductive Copies (c : Code) (g : Guest) (xs : List Int32) (store : Store) : Step Block → Prop where
  | tooLong (hlong : int32Max < (xs.length * itemSize : Nat)) :
      Copies c g xs store ⟨.error (.tooLong xs.length), store, []⟩
  | halts {h : Halt} {after : Store} (hshort : ¬ int32Max < (xs.length * itemSize : Nat))
      (hcall : g.allocate c xs store = .halt h after) :
      Copies c g xs store ⟨.error (.alloc (bytesAsked xs) h), after,
        [.alloc (bytesAsked xs) (.error h)]⟩
  | illTyped {vs : List Val} {after : Store} (hshort : ¬ int32Max < (xs.length * itemSize : Nat))
      (hcall : g.allocate c xs store = .values vs after) (hvs : ∀ p, vs ≠ [.i32 p]) :
      Copies c g xs store ⟨.error (.alloc (bytesAsked xs) .stuck), after,
        [.alloc (bytesAsked xs) (.error .stuck)]⟩
  | negative {p : UInt32} {after : Store} (hshort : ¬ int32Max < (xs.length * itemSize : Nat))
      (hcall : g.allocate c xs store = .values [.i32 p] after) (hneg : p.toInt32 < 0) :
      Copies c g xs store ⟨.error (.invalidBlock p.toInt32 (Int32.ofNat xs.length)), after,
        [.alloc (bytesAsked xs) (.ok p.toInt32)]⟩
  | outside {p : UInt32} {after : Store} (hshort : ¬ int32Max < (xs.length * itemSize : Nat))
      (hcall : g.allocate c xs store = .values [.i32 p] after) (hpos : ¬ p.toInt32 < 0)
      (hout : ¬ p.toNat + xs.length * itemSize ≤ after.memorySize g.memory) :
      Copies c g xs store ⟨.error (.outOfBounds p.toInt32 (xs.length * itemSize)), after,
        [.alloc (bytesAsked xs) (.ok p.toInt32)]⟩
  | fills {p : UInt32} {after : Store} (hshort : ¬ int32Max < (xs.length * itemSize : Nat))
      (hcall : g.allocate c xs store = .values [.i32 p] after) (hpos : ¬ p.toInt32 < 0)
      (hin : p.toNat + xs.length * itemSize ≤ after.memorySize g.memory) :
      Copies c g xs store ⟨.ok ⟨p.toInt32, Int32.ofNat xs.length⟩,
        after.write g.memory p.toNat (encode xs),
        [.alloc (bytesAsked xs) (.ok p.toInt32)]⟩

/-- Copying a list comes to one of these. -/
theorem copies_writeList (c : Code) (g : Guest) (xs : List Int32) (store : Store) :
    Copies c g xs store (g.writeList c xs store) := by
  fun_cases writeList c g xs store with
  | case1 _ hlong => exact .tooLong hlong
  | case2 _ hshort _ _ _ hcall => exact .halts hshort hcall
  | case3 _ hshort _ _ _ _ _ hneg hcall => exact .negative hshort hcall hneg
  | case4 _ hshort _ _ _ _ _ hpos hin hcall => exact .fills hshort hcall hpos hin
  | case5 _ hshort _ _ _ _ _ hpos hout hcall => exact .outside hshort hcall hpos hout
  | case6 _ hshort _ _ _ hcall hvs => exact .illTyped hshort hcall hvs

/-- The calls of copying a list are those that were made. -/
theorem transcript_writeList (c : Code) (g : Guest) (f : Nat) (xs : List Int32) (store : Store) :
    Transcript c g f (g.writeList c xs store).calls store (g.writeList c xs store).store := by
  have hcopies := copies_writeList c g xs store
  generalize g.writeList c xs store = copy at hcopies ⊢
  cases hcopies with
  | tooLong => exact .nil store
  | halts _ hcall => exact .single (.allocHalts hcall)
  | illTyped _ hcall hvs => exact .single (.allocIllTyped hcall hvs)
  | negative _ hcall => exact .single (.alloc hcall)
  | outside _ hcall => exact .single (.alloc hcall)
  | @fills p after _ hcall => exact .cons (.alloc hcall) (.fill p.toNat (encode xs) (.nil _))

/-- The size of a block is not clamped if it is a 32-bit integer. -/
theorem size_eq {b : Block} (hpos : 0 ≤ b.len.toInt) (hfit : b.len.toInt * itemSize ≤ int32Max) :
    b.size = Int32.ofInt (b.len.toInt * itemSize) := by
  simp only [int32Max, itemSize] at hfit
  rw [Block.size, int32Max, itemSize]
  congr 1
  omega

/-- The block of a list that is short enough has the size asked of `alloc`. -/
theorem size_ofNat_length {xs : List Int32} (hshort : ¬ int32Max < (xs.length * itemSize : Nat))
    (p : Int32) : (Block.mk p (Int32.ofNat xs.length)).size = bytesAsked xs := by
  have hlen : (Int32.ofNat xs.length).toInt = xs.length := by
    rw [Int32.toInt_ofNat_of_lt]
    simp only [int32Max, itemSize] at hshort
    omega
  rw [size_eq, hlen, bytesAsked, ← Int32.ofInt_eq_ofNat]
  · simp
  · rw [hlen]
    omega
  · rw [hlen]
    omega

/-- A block that holds a list was handed out by `alloc` for its size. -/
theorem calls_writeList {c : Code} {g : Guest} {xs : List Int32} {store : Store} {b : Block}
    (h : (g.writeList c xs store).result = .ok b) :
    (g.writeList c xs store).calls = [.alloc b.size (.ok b.ptr)] := by
  have hcopies := copies_writeList c g xs store
  generalize g.writeList c xs store = copy at hcopies h ⊢
  cases hcopies with
  | fills hshort =>
    cases h
    rw [size_ofNat_length hshort]
  | tooLong => cases h
  | halts => cases h
  | illTyped => cases h
  | negative => cases h
  | outside => cases h

/-! ## Passing all arguments -/

/-- A list argument on its way into guest memory: its items, and the store before it is copied. -/
structure Passing where
  items : List Int32
  before : Store

/-- What came of copying the list. -/
def Passing.copy (c : Code) (g : Guest) (w : Passing) : Step Block :=
  g.writeList c w.items w.before

/-- The block that the list was copied into, if it was. -/
def Passing.block? (c : Code) (g : Guest) (w : Passing) : Option Block :=
  (w.copy c g).result.toOption

/-- The list arguments in order, up to and including the first that does not get into memory. -/
def passings (c : Code) (g : Guest) : List Value → Store → List Passing
  | [], _ => []
  | .list xs :: vs, store =>
    let copy := g.writeList c xs store
    ⟨xs, store⟩ :: match copy.result with
      | .ok _ => passings c g vs copy.store
      | .error _ => []
  | _ :: vs, store => passings c g vs store

variable {c : Code} {g : Guest} {xs : List Int32} {v : Value} {vs : List Value} {store : Store}

theorem passings_scalar (h : v.isList = false) :
    passings c g (v :: vs) store = passings c g vs store := by
  cases v <;> first | rfl | cases h

theorem passings_list_ok {b : Block} (h : (g.writeList c xs store).result = .ok b) :
    passings c g (.list xs :: vs) store =
      ⟨xs, store⟩ :: passings c g vs (g.writeList c xs store).store := by
  rw [passings, h]

theorem passings_list_error {e : GuestError} (h : (g.writeList c xs store).result = .error e) :
    passings c g (.list xs :: vs) store = [⟨xs, store⟩] := by
  rw [passings, h]

theorem passArgs_scalar (guest : Option Guest) (h : v.isList = false) :
    passArgs c guest (v :: vs) store =
      let rest := passArgs c guest vs store
      ⟨rest.result.map (v.lower?.toList ++ ·), rest.store, rest.calls, rest.blocks⟩ := by
  cases v <;> first | rfl | cases h

theorem passArgs_list_ok {b : Block} (h : (g.writeList c xs store).result = .ok b) :
    passArgs c (some g) (.list xs :: vs) store =
      let copy := g.writeList c xs store
      let rest := passArgs c (some g) vs copy.store
      ⟨rest.result.map (.i32 b.ptr.toUInt32 :: .i32 b.len.toUInt32 :: ·), rest.store,
        copy.calls ++ rest.calls, b :: rest.blocks⟩ := by
  rw [passArgs]
  simp only [h]

theorem passArgs_list_error {e : GuestError} (h : (g.writeList c xs store).result = .error e) :
    passArgs c (some g) (.list xs :: vs) store =
      let copy := g.writeList c xs store
      ⟨.error (.guest e), copy.store, copy.calls, []⟩ := by
  rw [passArgs]
  simp only [h]

/-- Passing arguments calls `alloc` for the list arguments that are on their way, and makes no
other call. -/
theorem calls_passArgs (c : Code) (g : Guest) (vs : List Value) (store : Store) :
    (passArgs c (some g) vs store).calls =
      (passings c g vs store).flatMap fun w => (w.copy c g).calls := by
  induction vs generalizing store with
  | nil => rfl
  | cons v vs ih =>
    cases hv : v.isList with
    | false => rw [passArgs_scalar _ hv, passings_scalar hv, ← ih]
    | true =>
      obtain ⟨xs, rfl⟩ := Value.eq_list_of_isList hv
      cases h : (g.writeList c xs store).result with
      | ok b =>
        rw [passArgs_list_ok h, passings_list_ok h, List.flatMap_cons, ← ih]
        rfl
      | error e =>
        rw [passArgs_list_error h, passings_list_error h, List.flatMap_singleton]
        rfl

/-- Passing arguments records the blocks of the lists that got into memory, in order. -/
theorem blocks_passArgs (c : Code) (g : Guest) (vs : List Value) (store : Store) :
    (passArgs c (some g) vs store).blocks =
      (passings c g vs store).filterMap (Passing.block? c g) := by
  induction vs generalizing store with
  | nil => rfl
  | cons v vs ih =>
    cases hv : v.isList with
    | false => rw [passArgs_scalar _ hv, passings_scalar hv, ← ih]
    | true =>
      obtain ⟨xs, rfl⟩ := Value.eq_list_of_isList hv
      cases h : (g.writeList c xs store).result with
      | ok b =>
        have hblock : Passing.block? c g ⟨xs, store⟩ = some b := by
          rw [Passing.block?, Passing.copy, h]
          rfl
        rw [passArgs_list_ok h, passings_list_ok h, List.filterMap_cons_some hblock, ← ih]
      | error e =>
        have hblock : Passing.block? c g ⟨xs, store⟩ = none := by
          rw [Passing.block?, Passing.copy, h]
          rfl
        rw [passArgs_list_error h, passings_list_error h, List.filterMap_cons_none hblock]
        rfl

/-- Passing arguments fails with the error of the list that does not get into memory. -/
theorem passArgs_eq_error_iff {e : CallError} :
    (passArgs c (some g) vs store).result = .error e ↔
      ∃ w ∈ passings c g vs store, ∃ e', (w.copy c g).result = .error e' ∧ e = .guest e' := by
  induction vs generalizing store with
  | nil => simp [passArgs, passings]
  | cons v vs ih =>
    have hrest {st : Store} (front : List Val → List Val) :
        (passArgs c (some g) vs st).result.map front = .error e ↔
          ∃ w ∈ passings c g vs st, ∃ e', (w.copy c g).result = .error e' ∧ e = .guest e' := by
      rw [← ih]
      cases (passArgs c (some g) vs st).result <;> simp [Except.map]
    cases hv : v.isList with
    | false =>
      rw [passArgs_scalar _ hv, passings_scalar hv]
      exact hrest _
    | true =>
      obtain ⟨xs, rfl⟩ := Value.eq_list_of_isList hv
      cases h : (g.writeList c xs store).result with
      | ok b =>
        rw [passArgs_list_ok h, passings_list_ok h]
        simpa [Passing.copy, h] using hrest _
      | error e' =>
        rw [passArgs_list_error h, passings_list_error h]
        simp [Passing.copy, h, eq_comm]

theorem transcript_passArgs (c : Code) (g : Guest) (f : Nat) (vs : List Value) (store : Store) :
    Transcript c g f (passArgs c (some g) vs store).calls store
      (passArgs c (some g) vs store).store := by
  induction vs generalizing store with
  | nil => exact .nil store
  | cons v vs ih =>
    cases hv : v.isList with
    | false =>
      rw [passArgs_scalar _ hv]
      exact ih store
    | true =>
      obtain ⟨xs, rfl⟩ := Value.eq_list_of_isList hv
      have hcopy := transcript_writeList c g f xs store
      cases h : (g.writeList c xs store).result with
      | ok b =>
        rw [passArgs_list_ok h]
        exact hcopy.append (ih _)
      | error e =>
        rw [passArgs_list_error h]
        exact hcopy

/-- A list that got into memory was handed a block by the one call to `alloc` made for it. -/
theorem calls_of_block? {w : Passing} {b : Block} (h : w.block? c g = some b) :
    (w.copy c g).calls = [.alloc b.size (.ok b.ptr)] := by
  apply calls_writeList
  rw [Passing.block?, Passing.copy] at h
  cases hresult : (g.writeList c w.items w.before).result with
  | ok b' =>
    rw [hresult] at h
    exact congrArg _ (Option.some.inj h)
  | error e =>
    rw [hresult] at h
    cases h

/-- Passing arguments calls nothing but `alloc`. -/
theorem exists_of_mem_passArgs {x : HostCall}
    (hx : x ∈ (passArgs c (some g) vs store).calls) : ∃ size result, x = .alloc size result := by
  rw [calls_passArgs] at hx
  obtain ⟨w, -, hx⟩ := List.mem_flatMap.1 hx
  have hcopies := copies_writeList c g w.items w.before
  rw [Passing.copy] at hx
  generalize g.writeList c w.items w.before = copy at hcopies hx
  cases hcopies with
  | tooLong => cases hx
  | halts => exact ⟨_, _, List.mem_singleton.1 hx⟩
  | illTyped => exact ⟨_, _, List.mem_singleton.1 hx⟩
  | negative => exact ⟨_, _, List.mem_singleton.1 hx⟩
  | outside => exact ⟨_, _, List.mem_singleton.1 hx⟩
  | fills => exact ⟨_, _, List.mem_singleton.1 hx⟩

/-- Without a guest the arguments are passed as they are, and nothing is called. -/
theorem passArgs_none (c : Code) (vs : List Value) (store : Store) :
    passArgs c none vs store = ⟨.ok (vs.flatMap (·.lower?.toList)), store, [], []⟩ := by
  induction vs with
  | nil => rfl
  | cons v vs ih =>
    have hpassed : passArgs c none (v :: vs) store =
        let rest := passArgs c none vs store
        ⟨rest.result.map (v.lower?.toList ++ ·), rest.store, rest.calls, rest.blocks⟩ := by
      cases v <;> rfl
    rw [hpassed, ih]
    rfl

/-- Arguments that are no lists are passed as they are, with a guest and without one. -/
theorem passArgs_of_scalars (guest : Option Guest) (h : vs.any Value.isList = false) :
    passArgs c guest vs store = ⟨.ok (vs.flatMap (·.lower?.toList)), store, [], []⟩ := by
  induction vs with
  | nil => rfl
  | cons v vs ih =>
    rw [List.any_cons, Bool.or_eq_false_iff] at h
    rw [passArgs_scalar guest h.1, ih h.2]
    rfl

/-! ## Releasing blocks -/

/-- Releasing a block makes one call if there is a usable `free`, and none otherwise. -/
theorem release_cases (c : Code) (g : Guest) (b : Block) (store : Store) :
    (g.free = none ∧ g.release c b store = ⟨.ok (), store, []⟩) ∨
      (∃ k, g.free = some k ∧
        ((∃ vs after,
            Machine.call c k [.i32 b.ptr.toUInt32, .i32 b.size.toUInt32] store
              = .values vs after ∧
            g.release c b store = ⟨.ok (), after, [.free b.ptr b.size (.ok ())]⟩) ∨
          (∃ h after,
            Machine.call c k [.i32 b.ptr.toUInt32, .i32 b.size.toUInt32] store = .halt h after ∧
            g.release c b store =
              ⟨.error (.free b.ptr h), after, [.free b.ptr b.size (.error h)]⟩))) := by
  cases hfree : g.free with
  | none => exact .inl ⟨rfl, by rw [release, hfree]⟩
  | some k =>
    refine .inr ⟨k, rfl, ?_⟩
    cases hcall : Machine.call c k [.i32 b.ptr.toUInt32, .i32 b.size.toUInt32] store with
    | values vs after => exact .inl ⟨vs, after, rfl, by simp only [release, hfree, hcall]⟩
    | halt h after => exact .inr ⟨h, after, rfl, by simp only [release, hfree, hcall]⟩

/-- With a usable `free` every block is handed back once, in order, by its place and size, and
nothing else is called. -/
theorem freed?_releaseAll {k : Nat} (hk : g.free = some k) (bs : List Block) (store : Store) :
    (g.releaseAll c bs store).calls.map HostCall.freed? =
      bs.map fun b => some (b.ptr, b.size) := by
  induction bs generalizing store with
  | nil => rfl
  | cons b bs ih =>
    rw [releaseAll, List.map_append, ih, List.map_cons]
    rcases release_cases c g b store with ⟨hnone, _⟩ | ⟨_, _, ⟨_, _, _, h⟩ | ⟨_, _, _, h⟩⟩
    · rw [hk] at hnone
      cases hnone
    · rw [h]
      rfl
    · rw [h]
      rfl

/-- Releasing blocks calls nothing but `free`. -/
theorem exists_of_mem_releaseAll {bs : List Block} {x : HostCall}
    (hx : x ∈ (g.releaseAll c bs store).calls) : ∃ ptr size result, x = .free ptr size result := by
  induction bs generalizing store with
  | nil => cases hx
  | cons b bs ih =>
    rw [releaseAll] at hx
    rcases List.mem_append.1 hx with hfirst | hrest
    · rcases release_cases c g b store with ⟨_, h⟩ | ⟨_, _, ⟨_, _, _, h⟩ | ⟨_, _, _, h⟩⟩
      · rw [h] at hfirst
        cases hfirst
      · rw [h] at hfirst
        exact ⟨_, _, _, List.mem_singleton.1 hfirst⟩
      · rw [h] at hfirst
        exact ⟨_, _, _, List.mem_singleton.1 hfirst⟩
    · exact ih hrest

/-- Without a usable `free` nothing is called, and nothing fails. -/
theorem releaseAll_of_free_eq_none (hnone : g.free = none) (bs : List Block) (store : Store) :
    g.releaseAll c bs store = ⟨.ok (), store, []⟩ := by
  induction bs generalizing store with
  | nil => rfl
  | cons b bs ih =>
    have h : g.release c b store = ⟨.ok (), store, []⟩ := by rw [release, hnone]
    rw [releaseAll, h, ih]
    rfl

/-- The result of releasing is that of the first call that failed. -/
theorem result_releaseAll (c : Code) (g : Guest) (bs : List Block) (store : Store) :
    (g.releaseAll c bs store).result =
      match (g.releaseAll c bs store).calls.findSome? HostCall.failedFree? with
      | some (ptr, h) => .error (.free ptr h)
      | none => .ok () := by
  induction bs generalizing store with
  | nil => rfl
  | cons b bs ih =>
    rw [releaseAll, List.findSome?_append]
    rcases release_cases c g b store with ⟨_, h⟩ | ⟨_, _, ⟨_, _, _, h⟩ | ⟨_, _, _, h⟩⟩
    · rw [h]
      exact ih store
    · rw [h]
      exact ih _
    · rw [h]
      rfl

theorem transcript_releaseAll (c : Code) (g : Guest) (f : Nat) (bs : List Block) (store : Store) :
    Transcript c g f (g.releaseAll c bs store).calls store (g.releaseAll c bs store).store := by
  induction bs generalizing store with
  | nil => exact .nil store
  | cons b bs ih =>
    rw [releaseAll]
    refine .append (?_ : Transcript c g f _ store (g.release c b store).store) (ih _)
    rcases release_cases c g b store with ⟨_, h⟩ | ⟨k, hk, ⟨_, _, hcall, h⟩ | ⟨_, _, hcall, h⟩⟩
    · rw [h]
      exact .nil store
    · rw [h]
      exact .single (.free hk hcall)
    · rw [h]
      exact .single (.freeHalts hk hcall)

end Guest

/-! ## The exchange -/

/-- What comes of an exchange: the arguments are not all passed, the export halts, its results
cannot be read, or there is an outcome. -/
inductive Exchanged (c : Code) (guest : Option Guest) (f : Nat) (i : Invocation) (store : Store) :
    Exchange Outcome → Prop where
  | refused {e : CallError} (hpassed : (passArgs c guest i.args store).result = .error e) :
      Exchanged c guest f i store ⟨.error e, (passArgs c guest i.args store).store,
        (passArgs c guest i.args store).calls, (passArgs c guest i.args store).blocks⟩
  | halts {params : List Val} {h : Halt} {after : Store}
      (hpassed : (passArgs c guest i.args store).result = .ok params)
      (hcall : Machine.call c f params (passArgs c guest i.args store).store = .halt h after) :
      Exchanged c guest f i store ⟨.error (.ofHalt h), after,
        (passArgs c guest i.args store).calls ++ [.export params],
        (passArgs c guest i.args store).blocks⟩
  | unreadable {params results : List Val} {after : Store} {e : GuestError}
      (hpassed : (passArgs c guest i.args store).result = .ok params)
      (hcall : Machine.call c f params (passArgs c guest i.args store).store
        = .values results after)
      (hlift : liftResults guest i.returns after results = .error e) :
      Exchanged c guest f i store ⟨.error (.guest e), after,
        (passArgs c guest i.args store).calls ++ [.export params],
        (passArgs c guest i.args store).blocks⟩
  | returns {params results : List Val} {after : Store} {value : Option Value}
      {blocks : List Block}
      (hpassed : (passArgs c guest i.args store).result = .ok params)
      (hcall : Machine.call c f params (passArgs c guest i.args store).store
        = .values results after)
      (hlift : liftResults guest i.returns after results = .ok (value, blocks)) :
      Exchanged c guest f i store ⟨.ok ⟨value, fuelSpent c after⟩, after,
        (passArgs c guest i.args store).calls ++ [.export params],
        (passArgs c guest i.args store).blocks ++ blocks⟩

theorem exchanged_exchange (c : Code) (guest : Option Guest) (f : Nat) (i : Invocation)
    (store : Store) : Exchanged c guest f i store (exchange c guest f i store) := by
  fun_cases exchange c guest f i store with
  | case1 _ _ hpassed => exact .refused hpassed
  | case2 _ _ hpassed _ _ _ hcall => exact .halts hpassed hcall
  | case3 _ _ hpassed _ _ _ hcall _ hlift => exact .unreadable hpassed hcall hlift
  | case4 _ _ hpassed _ _ _ hcall _ _ hlift => exact .returns hpassed hcall hlift

/-- The results give a block to release if a list is wanted and they name one that can be read, and
else none. -/
theorem blocks_liftResults {g : Guest} {returns : Returns} {store : Store} {results : List Val}
    {value : Option Value} {blocks : List Block}
    (h : liftResults (some g) returns store results = .ok (value, blocks)) :
    (blocks = [] ∧ ∀ b : Block, ¬ (returns = .list ∧
        results = [.i32 b.ptr.toUInt32, .i32 b.len.toUInt32])) ∨
      ∃ b xs, blocks = [b] ∧ value = some (.list xs) ∧ returns = .list ∧
        results = [.i32 b.ptr.toUInt32, .i32 b.len.toUInt32] ∧
        g.readList store b = .ok xs := by
  generalize hg : some g = guest at h
  fun_cases liftResults guest returns store results with
  | case1 v vs =>
    cases h
    exact .inl ⟨rfl, fun b hb => nomatch hb.1⟩
  | case2 n vs =>
    cases h
    exact .inl ⟨rfl, fun b hb => nomatch hb.1⟩
  | case3 ptr len g' block xs hread =>
    simp only [liftResults, hread, block] at h
    cases h
    cases hg
    exact .inr ⟨block, xs, rfl, rfl, rfl, by simp [block], hread⟩
  | case4 ptr len g' block e hread =>
    simp only [liftResults, hread, block] at h
    cases h
  | case5 =>
    rename_i hvalue hbool hlist
    rw [liftResults] at h
    · cases h
      refine .inl ⟨rfl, ?_⟩
      rintro b ⟨rfl, rfl⟩
      exact hlist _ _ g rfl rfl hg.symm
    · exact hvalue
    · exact hbool
    · exact hlist

/-- Results cannot be read only if a list cannot. -/
theorem exists_readList_eq_error {guest : Option Guest} {returns : Returns} {store : Store}
    {results : List Val} {e : GuestError}
    (h : liftResults guest returns store results = .error e) :
    ∃ (g : Guest) (b : Block), g.readList store b = .error e := by
  revert h
  fun_cases liftResults guest returns store results with
  | case4 ptr len g block e' hread =>
    intro h
    cases h
    exact ⟨g, block, hread⟩
  | _ =>
    intro h
    cases h

/-- An exchange makes the calls that pass its arguments, and calls the export if they are passed. -/
theorem calls_exchange (c : Code) (guest : Option Guest) (f : Nat) (i : Invocation)
    (store : Store) : (exchange c guest f i store).calls =
      (passArgs c guest i.args store).calls ++
        (passArgs c guest i.args store).result.toOption.toList.map .export := by
  have hexchanged := exchanged_exchange c guest f i store
  generalize exchange c guest f i store = done at hexchanged ⊢
  cases hexchanged with
  | refused hpassed =>
    rw [hpassed]
    exact (List.append_nil _).symm
  | halts hpassed => rw [hpassed]; rfl
  | unreadable hpassed => rw [hpassed]; rfl
  | returns hpassed => rw [hpassed]; rfl

/-- An exchange hands nothing back. -/
theorem freed?_of_mem_exchange {c : Code} {g : Guest} {f : Nat} {i : Invocation} {store : Store}
    {x : HostCall} (hx : x ∈ (exchange c (some g) f i store).calls) : x.freed? = none := by
  rw [calls_exchange, List.mem_append] at hx
  rcases hx with hpassing | hexport
  · obtain ⟨size, result, rfl⟩ := Guest.exists_of_mem_passArgs hpassing
    rfl
  · obtain ⟨params, -, rfl⟩ := List.mem_map.1 hexport
    rfl

theorem transcript_exchange (c : Code) (g : Guest) (f : Nat) (i : Invocation) (store : Store) :
    Transcript c g f (exchange c (some g) f i store).calls store
      (exchange c (some g) f i store).store := by
  have hpassed := Guest.transcript_passArgs c g f i.args store
  have hexported (params : List Val) (before : Store) :
      Transcript c g f [.export params] before (Machine.call c f params before).store :=
    .single .export
  have hexchanged := exchanged_exchange c (some g) f i store
  generalize exchange c (some g) f i store = done at hexchanged ⊢
  cases hexchanged with
  | refused => exact hpassed
  | @halts params _ _ _ hcall =>
    have := hexported params (passArgs c (some g) i.args store).store
    rw [hcall] at this
    exact hpassed.append this
  | @unreadable params _ _ _ _ hcall =>
    have := hexported params (passArgs c (some g) i.args store).store
    rw [hcall] at this
    exact hpassed.append this
  | @returns params _ _ _ _ _ hcall =>
    have := hexported params (passArgs c (some g) i.args store).store
    rw [hcall] at this
    exact hpassed.append this

/-! ## Invocations -/

/-- An invocation gets past its checks, and its instance has what lists need: it is exchanged with
the guest. -/
structure Instance.Exchanges (a : Instance) (i : Invocation) (f : Nat) (guest : Guest) : Prop where
  checked : ∃ type, Guest.function? a.prepared.module i.target = some (f, type) ∧
    Instance.check i type = .ok ()
  usesMemory : i.usesMemory = true
  resolved : Guest.resolve a.prepared.module = .ok guest

/-- An invocation gets past its checks and needs no guest memory. -/
structure Instance.Bypasses (a : Instance) (i : Invocation) (f : Nat) : Prop where
  checked : ∃ type, Guest.function? a.prepared.module i.target = some (f, type) ∧
    Instance.check i type = .ok ()
  usesMemory : i.usesMemory = false

/-- An invocation gets as far as passing its arguments, with a guest if it needs one. -/
def Instance.Reaches (a : Instance) (i : Invocation) (f : Nat) : Option Guest → Prop
  | some guest => a.Exchanges i f guest
  | none => a.Bypasses i f

theorem Instance.Reaches.checked {a : Instance} {i : Invocation} {f : Nat} {guest : Option Guest}
    (h : a.Reaches i f guest) :
    ∃ type, Guest.function? a.prepared.module i.target = some (f, type) ∧
      Instance.check i type = .ok () := by
  cases guest with
  | none => exact Instance.Bypasses.checked h
  | some g => exact Instance.Exchanges.checked h

/-- A call through guest memory is an exchange, and then the release of its blocks from the store
the exchange left, refuelled or not; an error of the exchange comes before one of the release. -/
theorem callWithMemory_eq (c : Code) (g : Guest) (f : Nat) (i : Invocation) (store : Store) :
    let done := exchange c (some g) f i store
    ∃ start, (start = done.store ∨ start = done.store.refuel) ∧
      let released := g.releaseAll c done.blocks start
      callWithMemory c g f i store =
        (match done.result, released.result with
          | .error e, _ => .error e
          | .ok _, .error e => .error (.guest e)
          | .ok outcome, .ok () => .ok outcome,
        released.store, done.calls ++ released.calls) := by
  intro done
  cases hdone : done.result with
  | error e =>
    refine ⟨done.store.refuel, .inr rfl, ?_⟩
    simp only [callWithMemory, done] at hdone ⊢
    rw [hdone]
  | ok outcome =>
    refine ⟨done.store, .inl rfl, ?_⟩
    simp only [callWithMemory, done] at hdone ⊢
    rw [hdone]
    cases (g.releaseAll c (exchange c (some g) f i store).blocks
      (exchange c (some g) f i store).store).result <;> rfl

/-- A call through guest memory fails with its exchange. -/
theorem callWithMemory_of_error {c : Code} {g : Guest} {f : Nat} {i : Invocation} {store : Store}
    {e : CallError} (h : (exchange c (some g) f i store).result = .error e) :
    (callWithMemory c g f i store).1 = .error e := by
  simp only [callWithMemory, h]

/-- If its exchange has an outcome, that is the outcome of a call through guest memory unless a
block cannot be released. -/
theorem callWithMemory_of_ok {c : Code} {g : Guest} {f : Nat} {i : Invocation} {store : Store}
    {outcome : Outcome} (h : (exchange c (some g) f i store).result = .ok outcome) :
    (callWithMemory c g f i store).1 = .ok outcome ∨
      ∃ ptr cause, (callWithMemory c g f i store).1 = .error (.guest (.free ptr cause)) := by
  simp only [callWithMemory, h]
  rw [Guest.result_releaseAll]
  cases (g.releaseAll c (exchange c (some g) f i store).blocks
      (exchange c (some g) f i store).store).calls.findSome? HostCall.failedFree? with
  | none => exact .inl rfl
  | some failed => exact .inr ⟨failed.1, failed.2, rfl⟩

/-- Such an invocation is a call through guest memory. -/
theorem Instance.Exchanges.invoke_eq {a : Instance} {i : Invocation} {f : Nat} {guest : Guest}
    (h : a.Exchanges i f guest) :
    let done := callWithMemory a.prepared.code guest f i a.store.refuel
    (a.invoke i).result = done.1.mapError (.invocation i.target) ∧
      (a.invoke i).after = ⟨a.prepared, done.2.1⟩ ∧ (a.invoke i).calls = done.2.2 := by
  obtain ⟨⟨type, hfunction, hcheck⟩, hmemory, hresolve⟩ := h
  obtain ⟨prepared, store⟩ := a
  simp only [Instance.invoke, hfunction, hcheck, Instance.call, hmemory, hresolve, if_true,
    and_self]

/-- Its calls are made on the refuelled store and leave the store of the instance after it. -/
theorem Instance.Exchanges.transcript {a : Instance} {i : Invocation} {f : Nat} {guest : Guest}
    (h : a.Exchanges i f guest) : Transcript a.prepared.code guest f (a.invoke i).calls
      a.store.refuel (a.invoke i).after.store := by
  obtain ⟨-, hafter, hcalls⟩ := h.invoke_eq
  obtain ⟨start, hstart, hwhole⟩ := callWithMemory_eq a.prepared.code guest f i a.store.refuel
  have hreleased := Guest.transcript_releaseAll a.prepared.code guest f
    (exchange a.prepared.code (some guest) f i a.store.refuel).blocks start
  simp only [hwhole] at hafter hcalls
  rw [hafter, hcalls]
  refine (transcript_exchange a.prepared.code guest f i a.store.refuel).append ?_
  rcases hstart with rfl | rfl
  · exact hreleased
  · exact .refuel hreleased

/-- An invocation that needs no guest memory is an exchange without a guest. -/
theorem Instance.Bypasses.invoke_eq {a : Instance} {i : Invocation} {f : Nat}
    (h : a.Bypasses i f) :
    let done := exchange a.prepared.code none f i a.store.refuel
    (a.invoke i).result = done.result.mapError (.invocation i.target) ∧
      (a.invoke i).after = ⟨a.prepared, done.store⟩ ∧ (a.invoke i).calls = done.calls := by
  obtain ⟨⟨type, hfunction, hcheck⟩, hmemory⟩ := h
  obtain ⟨prepared, store⟩ := a
  simp only [Instance.invoke, hfunction, hcheck, Instance.call, hmemory, Bool.false_eq_true,
    if_false, and_self]

/-- How far an invocation gets: its export is not found or does not suit it, what lists need is
missing, or its arguments are passed. -/
inductive Instance.Starts (a : Instance) (i : Invocation) : Prop where
  | notFound (hfunction : Guest.function? a.prepared.module i.target = none)
  | unsuited {f : Nat} {type : Wasm.FuncType} {e : CallError}
      (hfunction : Guest.function? a.prepared.module i.target = some (f, type))
      (hcheck : Instance.check i type = .error e)
  | lacking {f : Nat} {type : Wasm.FuncType} {e : GuestError}
      (hfunction : Guest.function? a.prepared.module i.target = some (f, type))
      (hcheck : Instance.check i type = .ok ()) (hmemory : i.usesMemory = true)
      (hresolve : Guest.resolve a.prepared.module = .error e)
  | reaches {f : Nat} {guest : Option Guest} (h : a.Reaches i f guest)

theorem Instance.starts (a : Instance) (i : Invocation) : a.Starts i := by
  cases hfunction : Guest.function? a.prepared.module i.target with
  | none => exact .notFound hfunction
  | some found =>
    obtain ⟨f, type⟩ := found
    cases hcheck : Instance.check i type with
    | error e => exact .unsuited hfunction hcheck
    | ok _ =>
      have hchecked : ∃ type, Guest.function? a.prepared.module i.target = some (f, type) ∧
          Instance.check i type = .ok () := ⟨type, hfunction, hcheck⟩
      cases hmemory : i.usesMemory with
      | false =>
        have hbypasses : a.Bypasses i f := ⟨hchecked, hmemory⟩
        exact @Starts.reaches a i f none hbypasses
      | true =>
        cases hresolve : Guest.resolve a.prepared.module with
        | error e => exact .lacking hfunction hcheck hmemory hresolve
        | ok guest =>
          have hexchanges : a.Exchanges i f guest := ⟨hchecked, hmemory, hresolve⟩
          exact @Starts.reaches a i f (some guest) hexchanges

/-- An invocation that does not get as far as passing its arguments calls nothing, fails, and at
most refuels. -/
theorem Instance.reaches_or_rejects (a : Instance) (i : Invocation) :
    (∃ f guest, a.Reaches i f guest) ∨
      ((∃ e, (a.invoke i).result = .error e) ∧ (a.invoke i).calls = [] ∧
        ((a.invoke i).after = a ∨ (a.invoke i).after = ⟨a.prepared, a.store.refuel⟩)) := by
  obtain ⟨prepared, store⟩ := a
  cases Instance.starts ⟨prepared, store⟩ i with
  | notFound hfunction =>
    right
    simp only [Instance.invoke, hfunction]
    exact ⟨⟨_, rfl⟩, trivial, .inl trivial⟩
  | unsuited hfunction hcheck =>
    right
    simp only [Instance.invoke, hfunction, hcheck]
    exact ⟨⟨_, rfl⟩, trivial, .inl trivial⟩
  | lacking hfunction hcheck hmemory hresolve =>
    right
    simp only [Instance.invoke, hfunction, hcheck, Instance.call, hmemory, if_true, hresolve]
    exact ⟨⟨_, rfl⟩, trivial, .inr trivial⟩
  | reaches h => exact .inl ⟨_, _, h⟩

/-- An invocation leaves its instance prepared as it was. -/
theorem Instance.prepared_after (a : Instance) (i : Invocation) :
    (a.invoke i).after.prepared = a.prepared := by
  rcases a.reaches_or_rejects i with ⟨f, guest, hreaches⟩ | ⟨-, -, hafter | hafter⟩
  · cases guest with
    | none => rw [(Instance.Bypasses.invoke_eq hreaches).2.1]
    | some g => rw [(Instance.Exchanges.invoke_eq hreaches).2.1]
  · rw [hafter]
  · rw [hafter]

/-- The calls of an invocation: those that pass its arguments, that of the export if they are
passed, and releases. -/
theorem Instance.Reaches.calls_eq {a : Instance} {i : Invocation} {f : Nat}
    {guest : Option Guest} (h : a.Reaches i f guest) :
    let passed := passArgs a.prepared.code guest i.args a.store.refuel
    ∃ frees,
      (a.invoke i).calls = passed.calls ++ passed.result.toOption.toList.map .export ++ frees ∧
      ∀ x ∈ frees, ∃ ptr size result, x = .free ptr size result := by
  cases guest with
  | none =>
    obtain ⟨-, -, hcalls⟩ := Instance.Bypasses.invoke_eq h
    refine ⟨[], ?_, fun x hx => nomatch hx⟩
    rw [hcalls, calls_exchange, List.append_nil]
  | some g =>
    obtain ⟨-, -, hcalls⟩ := Instance.Exchanges.invoke_eq h
    obtain ⟨start, -, hwhole⟩ := callWithMemory_eq a.prepared.code g f i a.store.refuel
    simp only [hwhole] at hcalls
    rw [hcalls, calls_exchange]
    exact ⟨_, rfl, fun x hx => Guest.exists_of_mem_releaseAll hx⟩

/-- An invocation gets as far as calling its export `f`, on these parameters and this store. -/
structure Instance.Enters (a : Instance) (i : Invocation) (guest : Option Guest) (f : Nat)
    (params : List Val) (st : Store) : Prop where
  reaches : a.Reaches i f guest
  passed : (passArgs a.prepared.code guest i.args a.store.refuel).result = .ok params
  store_eq : (passArgs a.prepared.code guest i.args a.store.refuel).store = st

/-- The recorded calls tell whether the export was called, and on which parameters. -/
theorem Instance.mem_calls_iff {a : Instance} {i : Invocation} {params : List Val} :
    .export params ∈ (a.invoke i).calls ↔ ∃ guest f st, a.Enters i guest f params st := by
  constructor
  · intro hmem
    rcases a.reaches_or_rejects i with ⟨f, guest, hreaches⟩ | ⟨-, hnone, -⟩
    · obtain ⟨frees, hcalls, hfrees⟩ := hreaches.calls_eq
      rw [hcalls, List.mem_append, List.mem_append] at hmem
      rcases hmem with (hpassing | hexport) | hfree
      · cases guest with
        | none =>
          rw [Guest.passArgs_none] at hpassing
          cases hpassing
        | some g =>
          obtain ⟨_, _, hx⟩ := Guest.exists_of_mem_passArgs hpassing
          cases hx
      · cases hresult : (passArgs a.prepared.code guest i.args a.store.refuel).result with
        | error e =>
          rw [hresult] at hexport
          cases hexport
        | ok ps =>
          rw [hresult] at hexport
          cases List.mem_singleton.1 hexport
          exact ⟨guest, f, _, hreaches, hresult, rfl⟩
      · obtain ⟨_, _, _, hx⟩ := hfrees _ hfree
        cases hx
    · rw [hnone] at hmem
      cases hmem
  · rintro ⟨guest, f, st, hreaches, hpassed, -⟩
    obtain ⟨frees, hcalls, -⟩ := hreaches.calls_eq
    rw [hcalls, hpassed]
    exact List.mem_append_left _ (List.mem_append_right _ List.mem_cons_self)

end WasmGuest
