import WasmGuest.Proofs.Guest.Calls
import WasmGuest.Proofs.Guest.Lists
import WasmGuest.Proofs.Machine.Moments

/-!
# How arguments and list results cross the border

When an export is entered its parameters stand for the arguments of the
invocation: a number by its own bits, a list by the place and the length of a
block whose bytes decode to it.  Between copying a list and entering the export
lie the later calls to `alloc` and the later copies, so this needs that `alloc`
does not spoil the blocks it handed out before.

* `Represents` is what the parameters stand for in a store.
* `Spares` and `AllocatesApart` are what is asked of `alloc`.
* `Passed` is a run of `passArgs` to its end.  It leaves bytes alone that every
  allocation on the way spares (`Passed.bytes_of_spared`); with that,
  `Passed.represents` is the induction over the arguments.
* `Instance.marshals` is the statement about invocations.
-/

namespace WasmGuest

open Wasm (Val)
open Machine (Code Contents Store Halt CallResult)

/-- In this store the machine values stand for the host values, in order; lists lie in the memory of
the guest. -/
inductive Represents (guest : Option Guest) (st : Store) : List Value → List Val → Prop where
  | nil : Represents guest st [] []
  | i32 {vs : List Value} {ws : List Val} (n : Int32) (rest : Represents guest st vs ws) :
      Represents guest st (.i32 n :: vs) (.i32 n.toUInt32 :: ws)
  | i64 {vs : List Value} {ws : List Val} (n : Int64) (rest : Represents guest st vs ws) :
      Represents guest st (.i64 n :: vs) (.i64 n.toUInt64 :: ws)
  | f32 {vs : List Value} {ws : List Val} (bits : UInt32) (rest : Represents guest st vs ws) :
      Represents guest st (.f32 bits :: vs) (.f32 bits :: ws)
  | f64 {vs : List Value} {ws : List Val} (bits : UInt64) (rest : Represents guest st vs ws) :
      Represents guest st (.f64 bits :: vs) (.f64 bits :: ws)
  | bool {vs : List Value} {ws : List Val} (b : Bool) (rest : Represents guest st vs ws) :
      Represents guest st (.bool b :: vs) (.i32 (if b then 1 else 0) :: ws)
  | list {vs : List Value} {ws : List Val} (g : Guest) (hguest : guest = some g)
      (xs : List Int32) (ptr len : UInt32) (hlen : len.toNat = xs.length)
      (hin : ptr.toNat + 4 * len.toNat ≤ st.memorySize g.memory)
      (hbytes : Guest.decode (st.bytes g.memory ptr.toNat (4 * len.toNat)) = xs)
      (rest : Represents guest st vs ws) :
      Represents guest st (.list xs :: vs) (.i32 ptr :: .i32 len :: ws)

theorem Value.isList_of_lower? {v : Value} {w : Val} (h : v.lower? = some w) :
    v.isList = false := by
  cases v with
  | list xs => cases h
  | _ => rfl

namespace Guest

/-! ## What is asked of the allocator -/

namespace Passing

/-- The number of bytes that the list takes. -/
def extent (w : Passing) : Nat :=
  w.items.length * itemSize

/-- The place that `alloc` returned for the list. -/
def place? (c : Code) (g : Guest) (w : Passing) : Option UInt32 :=
  match g.allocate c w.items w.before with
  | .values [.i32 p] _ => some p
  | _ => none

/-- The store that the call to `alloc` left behind. -/
def allocated (c : Code) (g : Guest) (w : Passing) : Store :=
  (g.allocate c w.items w.before).store

/-- The block for `w` is apart from `n` bytes at `i`, which `alloc` did not change either. -/
def Spares (c : Code) (g : Guest) (i n : Nat) (w : Passing) : Prop :=
  ∀ p, w.place? c g = some p →
    Apart i n p.toNat w.extent ∧ (w.allocated c g).bytes g.memory i n = w.before.bytes g.memory i n

end Passing

/-- Each call to `alloc` spares the blocks that were handed out by those before it. -/
def AllocatesApart (c : Code) (g : Guest) (ws : List Passing) : Prop :=
  ws.Pairwise fun w later =>
    ∀ p, w.place? c g = some p → later.Spares c g p.toNat w.extent

/-! ## A list that was copied -/

theorem toNat_length {xs : List Int32} (hshort : ¬ int32Max < (xs.length * itemSize : Nat)) :
    (UInt32.ofNat xs.length).toNat = xs.length := by
  simp only [int32Max, itemSize] at hshort
  rw [UInt32.toNat_ofNat_of_lt']
  show xs.length < 2 ^ 32
  omega

section Copy

variable {c : Code} {g : Guest} {xs : List Int32} {store : Store} {b : Block}

/-- A list that was copied: where it is, and what it was copied over. -/
structure Copied (c : Code) (g : Guest) (xs : List Int32) (store : Store) (b : Block)
    (p : UInt32) : Prop where
  place_eq : (Passing.mk xs store).place? c g = some p
  short : ¬ int32Max < (xs.length * itemSize : Nat)
  block_eq : b = ⟨p.toInt32, Int32.ofNat xs.length⟩
  nonneg : ¬ p.toInt32 < 0
  inside :
    p.toNat + xs.length * itemSize ≤ ((Passing.mk xs store).allocated c g).memorySize g.memory
  store_eq : (g.writeList c xs store).store =
    ((Passing.mk xs store).allocated c g).write g.memory p.toNat (encode xs)

theorem copied_of_result (h : (g.writeList c xs store).result = .ok b) :
    ∃ p, Copied c g xs store b p := by
  have hcopies := copies_writeList c g xs store
  generalize hcopy : g.writeList c xs store = copy at hcopies h
  cases hcopies with
  | @fills p after hshort hcall hpos hin =>
    have hallocated : (Passing.mk xs store).allocated c g = after := by
      show (g.allocate c xs store).store = after
      rw [hcall]
      rfl
    refine ⟨p, ?_, hshort, ?_, hpos, ?_, ?_⟩
    · show (match g.allocate c xs store with | .values [.i32 p] _ => some p | _ => none) = some p
      rw [hcall]
    · cases h
      rfl
    · rw [hallocated]
      exact hin
    · rw [hallocated, hcopy]
  | tooLong => cases h
  | halts => cases h
  | illTyped => cases h
  | negative => cases h
  | outside => cases h

/-- The list is in its block right after it was copied. -/
theorem Copied.bytes_eq {p : UInt32} (h : Copied c g xs store b p) :
    (g.writeList c xs store).store.bytes g.memory p.toNat (xs.length * itemSize) = encode xs := by
  have hin := h.inside
  rw [h.store_eq, ← length_encode] at *
  exact bytes_write hin

/-- Copying a list leaves bytes alone that its allocation spared. -/
theorem Copied.bytes_of_spared {p : UInt32} {i n : Nat} (h : Copied c g xs store b p)
    (hspares : Passing.Spares c g i n ⟨xs, store⟩) :
    (g.writeList c xs store).store.bytes g.memory i n = store.bytes g.memory i n := by
  obtain ⟨hapart, hsame⟩ := hspares p h.place_eq
  have hin := h.inside
  rw [h.store_eq, ← hsame]
  apply bytes_write_of_apart
  · rw [length_encode]
    exact hin
  · rw [length_encode]
    exact hapart

/-- Copying a list does not make the memory smaller. -/
theorem Copied.memorySize_le {p : UInt32} (h : Copied c g xs store b p) :
    store.memorySize g.memory ≤ (g.writeList c xs store).store.memorySize g.memory := by
  rw [h.store_eq, Store.toContents_write, Contents.memorySize_write]
  exact Machine.memorySize_le_call c g.alloc _ store g.memory

end Copy

/-! ## All arguments -/

/-- A run of `passArgs` to its end: the arguments and the store at its start, the parameters and the
store at its end. -/
inductive Passed (c : Code) (g : Guest) : List Value → Store → List Val → Store → Prop where
  | nil (store : Store) : Passed c g [] store [] store
  | scalar {v : Value} {vs : List Value} {store st : Store} {w : Val} {ws : List Val}
      (hlower : v.lower? = some w) (rest : Passed c g vs store ws st) :
      Passed c g (v :: vs) store (w :: ws) st
  | list {xs : List Int32} {vs : List Value} {store st : Store} {ws : List Val} {b : Block}
      {p : UInt32} (hresult : (g.writeList c xs store).result = .ok b)
      (hcopied : Copied c g xs store b p)
      (rest : Passed c g vs (g.writeList c xs store).store ws st) :
      Passed c g (.list xs :: vs) store (.i32 p :: .i32 (UInt32.ofNat xs.length) :: ws) st

section Arguments

variable {c : Code} {g : Guest} {vs : List Value} {store st : Store} {params : List Val}

/-- What a mapped result was mapped from. -/
theorem exists_of_map_eq_ok {ε α β : Type} {f : α → β} {r : Except ε α} {y : β}
    (h : r.map f = .ok y) : ∃ x, r = .ok x ∧ f x = y := by
  cases r with
  | error e => cases h
  | ok x =>
    cases h
    exact ⟨x, rfl, rfl⟩

theorem passed_of_result (h : (passArgs c (some g) vs store).result = .ok params) :
    Passed c g vs store params (passArgs c (some g) vs store).store := by
  induction vs generalizing store params with
  | nil =>
    cases h
    exact .nil store
  | cons v vs ih =>
    cases hv : v.isList with
    | false =>
      rw [passArgs_scalar _ hv] at h ⊢
      obtain ⟨ws, hrest, rfl⟩ := exists_of_map_eq_ok h
      cases hlower : v.lower? with
      | none =>
        rw [Value.lower?_eq_none_iff, hv] at hlower
        cases hlower
      | some w => exact .scalar hlower (ih hrest)
    | true =>
      obtain ⟨xs, rfl⟩ := Value.eq_list_of_isList hv
      cases hcopy : (g.writeList c xs store).result with
      | error e =>
        rw [passArgs_list_error hcopy] at h
        cases h
      | ok b =>
        obtain ⟨p, hcopied⟩ := copied_of_result hcopy
        rw [passArgs_list_ok hcopy] at h ⊢
        obtain ⟨ws, hrest, rfl⟩ := exists_of_map_eq_ok h
        rw [hcopied.block_eq]
        exact .list hcopy hcopied (ih hrest)

/-- Passing arguments leaves bytes alone that every allocation on the way spared. -/
theorem Passed.bytes_of_spared {i n : Nat} (h : Passed c g vs store params st)
    (hspares : ∀ w ∈ passings c g vs store, w.Spares c g i n) :
    st.bytes g.memory i n = store.bytes g.memory i n := by
  induction h with
  | nil => rfl
  | scalar hlower rest ih =>
    rw [passings_scalar (Value.isList_of_lower? hlower)] at hspares
    exact ih hspares
  | list hresult hcopied rest ih =>
    rw [passings_list_ok hresult, List.forall_mem_cons] at hspares
    rw [ih hspares.2, hcopied.bytes_of_spared hspares.1]

theorem Passed.memorySize_le (h : Passed c g vs store params st) :
    store.memorySize g.memory ≤ st.memorySize g.memory := by
  induction h with
  | nil => exact Nat.le_refl _
  | scalar _ _ ih => exact ih
  | list _ hcopied _ ih => exact Nat.le_trans hcopied.memorySize_le ih

/-- The induction over the arguments: if each allocation spares the blocks before it, then every
block still holds its list at the end. -/
theorem Passed.represents (h : Passed c g vs store params st)
    (halloc : AllocatesApart c g (passings c g vs store)) : Represents (some g) st vs params := by
  induction h with
  | nil => exact .nil
  | @scalar v vs store st w ws hlower rest ih =>
    rw [passings_scalar (Value.isList_of_lower? hlower)] at halloc
    have hrest := ih halloc
    cases v with
    | i32 n => cases hlower; exact .i32 n hrest
    | i64 n => cases hlower; exact .i64 n hrest
    | f32 bits => cases hlower; exact .f32 bits hrest
    | f64 bits => cases hlower; exact .f64 bits hrest
    | bool b => cases hlower; exact .bool b hrest
    | list xs => cases hlower
  | @list xs vs store st ws b p hresult hcopied rest ih =>
    rw [passings_list_ok hresult, AllocatesApart, List.pairwise_cons] at halloc
    obtain ⟨hlater, halloc⟩ := halloc
    have hlen := toNat_length hcopied.short
    have hextent : 4 * (UInt32.ofNat xs.length).toNat = xs.length * itemSize := by
      rw [hlen, Nat.mul_comm]
      rfl
    have hkept := rest.bytes_of_spared fun w hw => hlater w hw p hcopied.place_eq
    refine .list g rfl xs p (UInt32.ofNat xs.length) hlen ?_ ?_ (ih halloc)
    · have hin := hcopied.inside
      have hwritten := congrArg (·.memorySize g.memory) hcopied.store_eq
      simp only [Store.toContents_write, Contents.memorySize_write] at hwritten
      have hgrown := rest.memorySize_le
      rw [hextent]
      omega
    · rw [hextent]
      exact (congrArg decode (hkept.trans hcopied.bytes_eq)).trans (decode_encode xs)

/-- A list that fits is copied if `alloc` returns a place inside memory that is not negative. -/
theorem result_writeList_of_place {xs : List Int32} {p : UInt32}
    (hshort : ¬ int32Max < (xs.length * itemSize : Nat))
    (hplace : (Passing.mk xs store).place? c g = some p) (hpos : p.toNat < 2 ^ 31)
    (hin : p.toNat + xs.length * itemSize ≤
      ((Passing.mk xs store).allocated c g).memorySize g.memory) :
    ∃ b, (g.writeList c xs store).result = .ok b := by
  have hcopies := copies_writeList c g xs store
  generalize g.writeList c xs store = copy at hcopies ⊢
  simp only [Passing.place?, Passing.allocated] at hplace hin
  cases hcopies with
  | fills => exact ⟨_, rfl⟩
  | tooLong hlong => exact absurd hlong hshort
  | halts _ hcall =>
    rw [hcall] at hplace
    cases hplace
  | @illTyped vs _ _ hcall hvs =>
    rw [hcall] at hplace
    split at hplace
    · next heq =>
      cases heq
      exact absurd rfl (hvs _)
    · cases hplace
  | negative _ hcall hneg =>
    rw [hcall] at hplace
    cases hplace
    rw [toInt32_neg_iff] at hneg
    omega
  | outside _ hcall _ hout =>
    rw [hcall] at hplace hin
    cases hplace
    exact absurd hin hout

/-- If every list fits, and gets a block inside memory at a place that is not negative, then all
arguments are passed. -/
theorem result_passArgs_of_places (vs : List Value) (store : Store)
    (hplaces : ∀ w ∈ passings c g vs store, ¬ int32Max < (w.extent : Nat) ∧ ∃ p,
      w.place? c g = some p ∧ p.toNat < 2 ^ 31 ∧
        p.toNat + w.extent ≤ (w.allocated c g).memorySize g.memory) :
    ∃ params, (passArgs c (some g) vs store).result = .ok params := by
  induction vs generalizing store with
  | nil => exact ⟨[], rfl⟩
  | cons v vs ih =>
    cases hv : v.isList with
    | false =>
      rw [passings_scalar hv] at hplaces
      obtain ⟨params, hrest⟩ := ih store hplaces
      rw [passArgs_scalar _ hv]
      simp only [hrest]
      exact ⟨_, rfl⟩
    | true =>
      obtain ⟨xs, rfl⟩ := Value.eq_list_of_isList hv
      have hhead : (Passing.mk xs store) ∈ passings c g (.list xs :: vs) store := by
        rw [passings]
        exact List.mem_cons_self
      obtain ⟨hshort, p, hplace, hpos, hin⟩ := hplaces _ hhead
      obtain ⟨b, hcopy⟩ := result_writeList_of_place hshort hplace hpos hin
      rw [passings_list_ok hcopy] at hplaces
      obtain ⟨params, hrest⟩ := ih _ fun w hw => hplaces w (List.mem_cons_of_mem _ hw)
      rw [passArgs_list_ok hcopy]
      simp only [hrest]
      exact ⟨_, rfl⟩

end Arguments

end Guest

/-! ## The moment the export is entered -/

/-- Every call to `alloc` in the invocation spares the blocks that were handed out before it. -/
def Instance.AllocatesApart (a : Instance) (i : Invocation) : Prop :=
  ∀ g, Guest.resolve a.prepared.module = .ok g →
    Guest.AllocatesApart a.prepared.code g (g.passings a.prepared.code i.args a.store.refuel)

/-- Without lists the parameters are the arguments, one by one. -/
theorem represents_of_scalars (guest : Option Guest) (st : Store) (vs : List Value)
    (h : vs.any Value.isList = false) :
    Represents guest st vs (vs.flatMap (·.lower?.toList)) := by
  induction vs with
  | nil => exact .nil
  | cons v vs ih =>
    rw [List.any_cons, Bool.or_eq_false_iff] at h
    have hrest := ih h.2
    cases v with
    | i32 n => exact .i32 n hrest
    | i64 n => exact .i64 n hrest
    | f32 bits => exact .f32 bits hrest
    | f64 bits => exact .f64 bits hrest
    | bool b => exact .bool b hrest
    | list xs => cases h.1

/-- The parameters of the export stand for the arguments of the invocation. -/
theorem Instance.Enters.represents {a : Instance} {i : Invocation} {guest : Option Guest} {f : Nat}
    {params : List Val} {st : Store} (h : a.Enters i guest f params st)
    (halloc : a.AllocatesApart i) : Represents guest st i.args params := by
  obtain ⟨hreaches, hpassed, rfl⟩ := h
  cases guest with
  | none =>
    have hscalars := hreaches.usesMemory
    rw [Invocation.usesMemory, Bool.or_eq_false_iff] at hscalars
    rw [Guest.passArgs_none] at hpassed ⊢
    cases hpassed
    exact represents_of_scalars none _ i.args hscalars.2
  | some g =>
    exact (Guest.passed_of_result hpassed).represents (halloc g hreaches.resolved)

/-! ## A list that is returned -/

/-- The list that results name by its place and its number of items.  Results of other types name
none. -/
def listAt? (g : Guest) (st : Store) : List Val → Option (List Int32)
  | [.i32 ptr, .i32 len] => some (Guest.decode (st.bytes g.memory ptr.toNat (4 * len.toNat)))
  | _ => none

/-- A list that is wanted is read from the block that two results name. -/
theorem readList_of_liftResults {g : Guest} {st : Store} {ptr len : UInt32} {value : Option Value}
    {blocks : List Block}
    (h : liftResults (some g) .list st [.i32 ptr, .i32 len] = .ok (value, blocks)) :
    ∃ xs, g.readList st ⟨ptr.toInt32, len.toInt32⟩ = .ok xs ∧ value = some (.list xs) := by
  cases hread : g.readList st ⟨ptr.toInt32, len.toInt32⟩ with
  | error e =>
    simp only [liftResults, hread] at h
    cases h
  | ok xs =>
    simp only [liftResults, hread] at h
    cases h
    exact ⟨xs, rfl, rfl⟩

/-- A list that is wanted is read where the results say, inside the memory. -/
theorem liftResults_list {g : Guest} {st : Store} {results : List Val} {value : Option Value}
    {blocks : List Block} (h : liftResults (some g) .list st results = .ok (value, blocks)) :
    value = (listAt? g st results).map .list ∧
      ∀ ptr len, results = [.i32 ptr, .i32 len] →
        ptr.toNat + 4 * len.toNat ≤ st.memorySize g.memory := by
  fun_cases listAt? g st results with
  | case1 ptr len =>
    obtain ⟨xs, hread, rfl⟩ := readList_of_liftResults h
    obtain ⟨hptr, hlen, -, hin, rfl⟩ := Guest.readList_eq_ok_iff.1 hread
    have hplace : ptr.toInt32.toInt.toNat = ptr.toNat := by
      rw [toInt_toInt32 hptr, Int.toNat_natCast]
    have hcount : len.toInt32.toInt.toNat = len.toNat := by
      rw [toInt_toInt32 hlen, Int.toNat_natCast]
    simp only [hplace, hcount, itemSize, Nat.mul_comm _ 4] at hin ⊢
    refine ⟨rfl, ?_⟩
    rintro _ _ ⟨⟩
    exact hin
  | case2 =>
    rename_i hother
    rw [liftResults] at h
    · cases h
      exact ⟨rfl, fun ptr len hresults => absurd hresults (hother ptr len)⟩
    · rintro _ _ ⟨⟩
    · rintro _ _ ⟨⟩
    · rintro ptr len _ - hresults -
      exact hother ptr len hresults

/-! ## Releases do not touch the outcome -/

/-- Passing arguments does not look at `free`. -/
theorem passArgs_free (c : Code) (g : Guest) (free : Option Nat) (vs : List Value) (store : Store) :
    passArgs c (some { g with free := free }) vs store = passArgs c (some g) vs store := by
  induction vs generalizing store with
  | nil => rfl
  | cons v vs ih =>
    cases hv : v.isList with
    | false => rw [Guest.passArgs_scalar _ hv, Guest.passArgs_scalar _ hv, ih]
    | true =>
      obtain ⟨xs, rfl⟩ := Value.eq_list_of_isList hv
      have hcopy : Guest.writeList c { g with free := free } xs store =
          g.writeList c xs store := rfl
      cases hresult : (g.writeList c xs store).result with
      | ok b =>
        rw [Guest.passArgs_list_ok hresult, Guest.passArgs_list_ok (hcopy ▸ hresult), hcopy]
        simp only [ih]
      | error e =>
        rw [Guest.passArgs_list_error hresult, Guest.passArgs_list_error (hcopy ▸ hresult), hcopy]

/-- The exchange does not look at `free`. -/
theorem exchange_free (c : Code) (g : Guest) (free : Option Nat) (f : Nat) (i : Invocation)
    (store : Store) :
    exchange c (some { g with free := free }) f i store = exchange c (some g) f i store := by
  have hlift (returns : Returns) (st : Store) (results : List Val) :
      liftResults (some { g with free := free }) returns st results
        = liftResults (some g) returns st results := by
    cases returns with
    | value => cases results <;> rfl
    | bool =>
      rcases results with _ | ⟨v, vs⟩
      · rfl
      · cases v <;> rfl
    | list =>
      rcases results with _ | ⟨v, _ | ⟨w, _ | ⟨_, _⟩⟩⟩
      · rfl
      · cases v <;> rfl
      · cases v <;> cases w <;> rfl
      · cases v <;> cases w <;> rfl
  simp only [exchange, passArgs_free, hlift]

/-- A call through guest memory that succeeds has the outcome of its exchange. -/
theorem result_exchange_of_callWithMemory {c : Code} {g : Guest} {f : Nat} {i : Invocation}
    {store : Store} {outcome : Outcome}
    (h : (callWithMemory c g f i store).1 = .ok outcome) :
    (exchange c (some g) f i store).result = .ok outcome := by
  obtain ⟨start, -, hwhole⟩ := callWithMemory_eq c g f i store
  simp only [hwhole] at h
  cases hdone : (exchange c (some g) f i store).result with
  | error e =>
    rw [hdone] at h
    cases h
  | ok outcome' =>
    rw [hdone] at h
    cases hreleased : (g.releaseAll c (exchange c (some g) f i store).blocks start).result with
    | error e =>
      rw [hreleased] at h
      cases h
    | ok _ =>
      rw [hreleased] at h
      exact h

/-- Changing the error of a result does not make it succeed. -/
theorem eq_ok_of_mapError_eq_ok {ε ε' α : Type} {f : ε → ε'} {r : Except ε α} {x : α}
    (h : r.mapError f = .ok x) : r = .ok x := by
  cases r with
  | error e => cases h
  | ok y =>
    cases h
    rfl

/-! ## Invocations -/

/-- How an invocation takes its arguments across the border, and a list back. -/
structure Instance.Marshals (a : Instance) (i : Invocation) : Prop where
  /-- When the export is entered the parameters stand for the arguments, if `alloc` spared the
  blocks that it had handed out. -/
  arguments : ∀ guest f params st, a.Enters i guest f params st → a.AllocatesApart i →
    Represents guest st i.args params
  /-- It is entered if every list fits, and gets a block inside memory that is not negative. -/
  entered : ∀ g f, a.Exchanges i f g →
    (∀ w ∈ g.passings a.prepared.code i.args a.store.refuel, ¬ int32Max < (w.extent : Nat) ∧ ∃ p,
      w.place? a.prepared.code g = some p ∧ p.toNat < 2 ^ 31 ∧
        p.toNat + w.extent ≤ (w.allocated a.prepared.code g).memorySize g.memory) →
    ∃ params st, a.Enters i (some g) f params st
  /-- A list that was wanted is the one that the results name in memory as it stood when the export
  returned, the fuel is what was spent until then, and no other `free` leads to another outcome. -/
  result : ∀ outcome, i.returns = .list → (a.invoke i).result = .ok outcome →
    ∃ g f params st results returned, a.Enters i (some g) f params st ∧
      Machine.call a.prepared.code f params st = .values results returned ∧
      outcome = ⟨(listAt? g returned results).map .list, fuelSpent a.prepared.code returned⟩ ∧
      (∀ ptr len, results = [.i32 ptr, .i32 len] →
        ptr.toNat + 4 * len.toNat ≤ returned.memorySize g.memory) ∧
      ∀ free outcome', (callWithMemory a.prepared.code { g with free := free } f i a.store.refuel).1
        = .ok outcome' → outcome' = outcome

theorem Instance.marshals (a : Instance) (i : Invocation) : a.Marshals i := by
  constructor
  case arguments => exact fun guest f params st henters halloc => henters.represents halloc
  case entered =>
    intro g f hexchanges hplaces
    obtain ⟨params, hresult⟩ := Guest.result_passArgs_of_places i.args a.store.refuel hplaces
    exact ⟨params, _, hexchanges, hresult, rfl⟩
  case result =>
    intro outcome hwanted hok
    rcases a.reaches_or_rejects i with ⟨f, guest, hreaches⟩ | ⟨⟨e, hrejected⟩, -, -⟩
    · cases guest with
      | none =>
        have hscalars := hreaches.usesMemory
        rw [Invocation.usesMemory, hwanted] at hscalars
        cases hscalars
      | some g =>
        obtain ⟨hresult, -, -⟩ := Instance.Exchanges.invoke_eq hreaches
        have hcall := eq_ok_of_mapError_eq_ok (hresult.symm.trans hok)
        have hexchange := result_exchange_of_callWithMemory hcall
        have hfree (free : Option Nat) (outcome' : Outcome) (h : (callWithMemory a.prepared.code
            { g with free := free } f i a.store.refuel).1 = .ok outcome') : outcome' = outcome := by
          have hother := result_exchange_of_callWithMemory h
          rw [exchange_free, hexchange] at hother
          cases hother
          rfl
        have hexchanged := exchanged_exchange a.prepared.code (some g) f i a.store.refuel
        generalize exchange a.prepared.code (some g) f i a.store.refuel = done
          at hexchanged hexchange
        cases hexchanged with
        | refused => cases hexchange
        | halts => cases hexchange
        | unreadable => cases hexchange
        | @returns params results after value blocks hpassed hreturned hlift =>
          rw [hwanted] at hlift
          obtain ⟨rfl, hin⟩ := liftResults_list hlift
          cases hexchange
          exact ⟨g, f, params, _, results, after, ⟨hreaches, hpassed, rfl⟩, hreturned, rfl, hin,
            hfree⟩
    · rw [hok] at hrejected
      cases hrejected

/-! ## An allocator that writes elsewhere -/

/-- A module whose `alloc` hands out blocks one after the other, writes down the size of the last
one at the start of memory, and grows the memory; its export returns the last of two lists. -/
def ledgerModule : Wasm.Module where
  funcs := [
    ⟨⟨[.i32], [.i32]⟩, [], [.const (.i32 0), .localGet 0, .store ⟨.i32, 4, .unsigned⟩ ⟨0, 2, 0⟩,
      .const (.i32 1), .memoryGrow 0 .w32, .drop, .globalGet 0, .globalGet 0, .localGet 0,
      .numeric (.intBinary .w32 .add), .globalSet 0]⟩,
    ⟨⟨[.i32, .i32, .i32, .f64, .i32, .i32], [.i32, .i32]⟩, [], [.localGet 4, .localGet 5]⟩]
  memories := [⟨⟨1, none⟩, .w32⟩]
  globals := [⟨⟨true, .i32⟩, [.const (.i32 8)]⟩]
  exports := [⟨"memory", .memory 0⟩, ⟨"alloc", .func 0⟩, ⟨"last", .func 1⟩]

def ledger : Instance :=
  ⟨⟨{}, ledgerModule⟩, ⟨⟨[.ofPages 1 none], #[.i32 8], [], [], []⟩, 0, 0⟩⟩

/-- Pass two lists with numbers in between, and take the second list back. -/
def lastCall : Invocation where
  target := "last"
  args := [.bool true, .list [3, -1], .f64 0x7ff8000000000001, .list [-2147483648]]
  returns := .list

theorem marshals_ledger :
    (∃ params st, ledger.Enters lastCall (some ⟨0, 0, none⟩) 1 params st ∧
      Represents (some ⟨0, 0, none⟩) st lastCall.args params) ∧
    (ledger.invoke lastCall).result = .ok ⟨some (.list [-2147483648]), none⟩ := by
  have hexchanges : ledger.Exchanges lastCall 1 ⟨0, 0, none⟩ := by
    refine ⟨⟨⟨[.i32, .i32, .i32, .f64, .i32, .i32], [.i32, .i32]⟩, rfl, ?_⟩, rfl, rfl⟩
    rfl
  have hmarshals := ledger.marshals lastCall
  have hpassed : (passArgs ledger.prepared.code (some ⟨0, 0, none⟩) lastCall.args
      ledger.store.refuel).result = .ok [.i32 1, .i32 8, .i32 2, .f64 0x7ff8000000000001, .i32 16,
        .i32 1] := by rfl
  have halloc : ledger.AllocatesApart lastCall := by
    intro g hg
    obtain rfl : g = ⟨0, 0, none⟩ := (Except.ok.inj hg).symm
    -- The blocks are the bytes 8 to 15 and 16 to 19.
    refine List.pairwise_pair.2 fun p hp p' hp' => ?_
    obtain rfl : 8 = p := Option.some.inj hp
    obtain rfl : 16 = p' := Option.some.inj hp'
    refine ⟨?_, Eq.trans (b := [3, 0, 0, 0, 255, 255, 255, 255]) (by rfl) (by rfl)⟩
    rintro k ⟨⟨-, hk⟩, hk', -⟩
    exact absurd (Nat.lt_of_le_of_lt hk' hk) (by decide)
  have henters : ledger.Enters lastCall (some ⟨0, 0, none⟩) 1 _ _ := ⟨hexchanges, hpassed, rfl⟩
  exact ⟨⟨_, _, henters, hmarshals.arguments _ _ _ _ henters halloc⟩, by rfl⟩

end WasmGuest
