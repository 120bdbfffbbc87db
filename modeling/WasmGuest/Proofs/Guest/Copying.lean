import WasmGuest.Proofs.Guest.Custody
import WasmGuest.Proofs.Guest.Lists
import WasmGuest.Proofs.Instance.MemoryLimit

/-!
# Copying one list

A list of `n` items asks `alloc` for `4 * n` bytes and is written where `alloc`
says, unless the host refuses the place.  The place and the sizes are integers of
three widths on the way; the host compares them as the numbers that they stand
for, so nothing wraps around.

* `SameOutside`: what a write into a range of addresses leaves as it was.
* `answer`: what `alloc` says, with the reason if it names no place.
* `writeList_of_ok`, `writeList_of_error`: the copy by what `alloc` says.
* `readList_write`: what is written inside the memory is read back.
* `CopiesExactly` has one case for each way a copy may end, and
  `copies_exactly` proves it for every code and every store that has the guest's memory.
-/

namespace WasmGuest

open Wasm (Val)
open Machine (CallResult Code Halt Store)

/-- A store that has a memory is as another one but for `n` bytes of that memory from an address
on. -/
structure SameOutside (st st' : Store) (x i n : Nat) : Prop where
  memory : ∃ m m', st.memories[x]? = some m ∧ st'.memories[x]? = some m' ∧ m'.size = m.size ∧
    m'.max = m.max ∧ ∀ k, ¬ (i ≤ k ∧ k < i + n) → m'.byteAt k = m.byteAt k
  others : ∀ y, y ≠ x → st'.memories[y]? = st.memories[y]?
  globals_eq : st'.globals = st.globals
  tables_eq : st'.tables = st.tables
  datas_eq : st'.datas = st.datas
  elems_eq : st'.elems = st.elems
  spent_eq : st'.spent = st.spent
  settled_eq : st'.settled = st.settled

theorem sameOutside_write {st : Store} {x : Nat} (hmemory : st.memories[x]?.isSome) {i : Nat}
    {bs : List UInt8} (hin : i + bs.length ≤ st.memorySize x) :
    SameOutside st (st.write x i bs) x i bs.length := by
  obtain ⟨m, hm⟩ := Option.isSome_iff_exists.1 hmemory
  rw [Machine.Contents.memorySize_of_eq_some hm] at hin
  refine ⟨⟨m, m.write i bs, hm, Guest.memories_write_of_eq_some hm, m.size_write i bs,
    m.max_write i bs, fun k hk => ?_⟩, fun y hy => ?_, rfl, rfl, rfl, rfl, rfl, rfl⟩
  · rw [Machine.Memory.byteAt_write m i k bs hin, if_neg hk]
  · exact List.getElem?_modify_ne _ _ hy.symm

/-- A memory that is there stays there while code runs. -/
theorem isSome_memory_call {c : Code} {st : Store} {x : Nat} (hmemory : st.memories[x]?.isSome)
    (f : Nat) (args : List Val) : (Machine.call c f args st).store.memories[x]?.isSome := by
  have hbecomes := (lasts_becomes c).toKeeps.call f args st
  rw [isSome_getElem?] at hmemory ⊢
  rwa [← hbecomes.length_eq]

namespace Guest

/-- The place that a call names, or why it names none: it halts, or its results are not those of an
allocator, which no valid module lets happen. -/
def answer : CallResult → Except Halt Int32
  | .values [.i32 p] _ => .ok p.toInt32
  | .values _ _ => .error .stuck
  | .halt cause _ => .error cause

/-- How the copy of a list ends once `alloc` is called, by what it says. -/
structure CopiesAsAnswered (c : Code) (g : Guest) (xs : List Int32) (store : Store)
    (s : Step Block) : Prop where
  /-- The numbers of bytes and of items are what they are taken for. -/
  numbers : (bytesAsked xs).toInt = (4 * xs.length : Nat) ∧
    (Int32.ofNat xs.length).toInt = xs.length
  calls_eq : s.calls = [.alloc (bytesAsked xs) (answer (g.allocate c xs store))]
  unallocated : ∀ cause, answer (g.allocate c xs store) = .error cause →
    s.result = .error (.alloc (bytesAsked xs) cause) ∧ s.store = (g.allocate c xs store).store
  negative : ∀ ptr, answer (g.allocate c xs store) = .ok ptr → ptr.toInt < 0 →
    s.result = .error (.invalidBlock ptr (Int32.ofNat xs.length)) ∧
      s.store = (g.allocate c xs store).store
  /-- What counts is the size of the memory behind the call. -/
  outside : ∀ ptr, answer (g.allocate c xs store) = .ok ptr → 0 ≤ ptr.toInt →
    ((g.allocate c xs store).store.memorySize g.memory : Int) < ptr.toInt + (4 * xs.length : Nat) →
    s.result = .error (.outOfBounds ptr (4 * xs.length)) ∧
      s.store = (g.allocate c xs store).store
  /-- In every other case the list stands in its block, and nothing else has changed. -/
  inside : ∀ ptr, answer (g.allocate c xs store) = .ok ptr → 0 ≤ ptr.toInt →
    ptr.toInt + (4 * xs.length : Nat) ≤ ((g.allocate c xs store).store.memorySize g.memory : Int) →
    s.result = .ok ⟨ptr, Int32.ofNat xs.length⟩ ∧
      SameOutside (g.allocate c xs store).store s.store g.memory ptr.toInt.toNat (4 * xs.length) ∧
      g.readList s.store ⟨ptr, Int32.ofNat xs.length⟩ = .ok xs

/-- How the copy of a list ends. -/
structure CopiesExactly (c : Code) (g : Guest) (xs : List Int32) (store : Store)
    (s : Step Block) : Prop where
  /-- A list whose bytes cannot be counted calls nothing and changes nothing. -/
  tooLong : int32Max < (4 * xs.length : Nat) → s = ⟨.error (.tooLong xs.length), store, []⟩
  answered : ¬ int32Max < (4 * xs.length : Nat) → CopiesAsAnswered c g xs store s

section Copy

variable {c : Code} {g : Guest} {xs : List Int32} {store after : Store}

theorem toInt_ofNat_length (hshort : ¬ int32Max < (xs.length * itemSize : Nat)) :
    (bytesAsked xs).toInt = (4 * xs.length : Nat) ∧
      (Int32.ofNat xs.length).toInt = xs.length := by
  simp only [int32Max, itemSize] at hshort
  rw [bytesAsked, itemSize, Int32.toInt_ofNat_of_lt (by omega), Int32.toInt_ofNat_of_lt (by omega),
    Nat.mul_comm]
  exact ⟨rfl, rfl⟩

theorem sameOutside_write_encode (hmemory : after.memories[g.memory]?.isSome) {i : Nat}
    (hin : i + xs.length * itemSize ≤ after.memorySize g.memory) :
    SameOutside after (after.write g.memory i (encode xs)) g.memory i (4 * xs.length) := by
  rw [← length_encode] at hin
  have hsame := sameOutside_write hmemory hin
  rwa [length_encode, itemSize, Nat.mul_comm] at hsame

/-- A list that was written inside the memory is read back. -/
theorem readList_write (hmemory : after.memories[g.memory]?.isSome)
    (hshort : ¬ int32Max < (xs.length * itemSize : Nat)) {p : UInt32} (hpos : ¬ p.toInt32 < 0)
    (hin : p.toNat + xs.length * itemSize ≤ after.memorySize g.memory) :
    g.readList (after.write g.memory p.toNat (encode xs)) ⟨p.toInt32, Int32.ofNat xs.length⟩ =
      .ok xs := by
  have hlen := (toInt_ofNat_length hshort).2
  have hbytes : (after.write g.memory p.toNat (encode xs)).bytes g.memory p.toNat
      (xs.length * itemSize) = encode xs := by
    rw [← length_encode]
    exact bytes_write (by rwa [length_encode])
  rw [readList_eq_ok_iff]
  simp only [hlen, toInt_toInt32 hpos, Int.toNat_natCast]
  refine ⟨hpos, ?_, ?_, ?_, ?_⟩
  · rw [Int32.lt_iff_toInt_lt, hlen]
    exact Int.not_lt.2 (Int.natCast_nonneg xs.length)
  · obtain ⟨m, m', -, hm', -⟩ := (sameOutside_write_encode hmemory hin).memory
    rw [hm']
    rfl
  · rwa [Store.toContents_write, Machine.Contents.memorySize_write]
  · rw [hbytes, decode_encode]

/-- A place that is not negative is the same number to the host and to the guest. -/
theorem toInt_nonneg_iff {p : UInt32} :
    0 ≤ p.toInt32.toInt ↔ ¬ p.toInt32 < 0 := by
  rw [Int32.lt_iff_toInt_lt]
  exact Int.not_lt.symm

theorem answer_eq_ok {r : CallResult} {ptr : Int32} (h : answer r = .ok ptr) :
    ∃ p after, r = .values [.i32 p] after ∧ p.toInt32 = ptr := by
  unfold answer at h
  split at h
  case h_1 p after => exact ⟨p, after, rfl, Except.ok.inj h⟩
  all_goals contradiction

/-- The copy is up to the host once `alloc` has named a place. -/
theorem writeList_of_ok (hshort : ¬ int32Max < (xs.length * itemSize : Nat)) {p : UInt32}
    (hcall : g.allocate c xs store = .values [.i32 p] after) :
    g.writeList c xs store =
      if p.toInt32 < 0 then
        ⟨.error (.invalidBlock p.toInt32 (Int32.ofNat xs.length)), after,
          [.alloc (bytesAsked xs) (.ok p.toInt32)]⟩
      else if p.toNat + xs.length * itemSize ≤ after.memorySize g.memory then
        ⟨.ok ⟨p.toInt32, Int32.ofNat xs.length⟩, after.write g.memory p.toNat (encode xs),
          [.alloc (bytesAsked xs) (.ok p.toInt32)]⟩
      else
        ⟨.error (.outOfBounds p.toInt32 (xs.length * itemSize)), after,
          [.alloc (bytesAsked xs) (.ok p.toInt32)]⟩ := by
  rw [allocate, bytesAsked] at hcall
  rw [writeList, if_neg hshort]
  simp only [hcall]
  rfl

/-- It ends with the reason if `alloc` names none. -/
theorem writeList_of_error (hshort : ¬ int32Max < (xs.length * itemSize : Nat)) {cause : Halt}
    (h : answer (g.allocate c xs store) = .error cause) :
    g.writeList c xs store = ⟨.error (.alloc (bytesAsked xs) cause),
      (g.allocate c xs store).store, [.alloc (bytesAsked xs) (.error cause)]⟩ := by
  have hcopies := copies_writeList c g xs store
  generalize g.writeList c xs store = s at hcopies ⊢
  cases hcopies with
  | tooLong hlong => contradiction
  | halts _ hcall =>
    rw [hcall] at h ⊢
    cases h
    rfl
  | @illTyped vs after _ hcall hvs =>
    rw [hcall] at h ⊢
    unfold answer at h
    split at h
    case h_1 heq =>
      cases heq
      exact absurd rfl (hvs _)
    case h_2 =>
      cases h
      rfl
    case h_3 heq => contradiction
  | negative _ hcall | outside _ hcall | fills _ hcall =>
    rw [hcall] at h
    contradiction

theorem copiesAsAnswered_writeList (hmemory : store.memories[g.memory]?.isSome)
    (hshort : ¬ int32Max < (xs.length * itemSize : Nat)) :
    CopiesAsAnswered c g xs store (g.writeList c xs store) where
  numbers := toInt_ofNat_length hshort
  calls_eq := by
    cases h : answer (g.allocate c xs store) with
    | error cause => rw [writeList_of_error hshort h]
    | ok ptr =>
      obtain ⟨p, after, hcall, rfl⟩ := answer_eq_ok h
      rw [writeList_of_ok hshort hcall]
      split_ifs <;> rfl
  unallocated cause h := by
    rw [writeList_of_error hshort h]
    exact ⟨rfl, rfl⟩
  negative ptr h hneg := by
    obtain ⟨p, after, hcall, rfl⟩ := answer_eq_ok h
    rw [writeList_of_ok hshort hcall, if_pos (Int32.lt_iff_toInt_lt.2 hneg), hcall]
    exact ⟨rfl, rfl⟩
  outside ptr h hpos hout := by
    obtain ⟨p, after, hcall, rfl⟩ := answer_eq_ok h
    rw [toInt_nonneg_iff] at hpos
    rw [toInt_toInt32 hpos, hcall] at hout
    have hend : ¬ p.toNat + xs.length * itemSize ≤ after.memorySize g.memory := by
      rw [CallResult.store] at hout
      simp only [itemSize]
      omega
    rw [writeList_of_ok hshort hcall, if_neg hpos, if_neg hend, hcall, Nat.mul_comm]
    exact ⟨rfl, rfl⟩
  inside ptr h hpos hin := by
    obtain ⟨p, after, hcall, rfl⟩ := answer_eq_ok h
    rw [toInt_nonneg_iff] at hpos
    rw [toInt_toInt32 hpos, hcall] at hin
    have hend : p.toNat + xs.length * itemSize ≤ after.memorySize g.memory := by
      rw [CallResult.store] at hin
      simp only [itemSize]
      omega
    have hkept : (g.allocate c xs store).store.memories[g.memory]?.isSome :=
      isSome_memory_call hmemory g.alloc _
    rw [hcall] at hkept
    rw [writeList_of_ok hshort hcall, if_neg hpos, if_pos hend, hcall, toInt_toInt32 hpos]
    exact ⟨rfl, sameOutside_write_encode hkept hend, readList_write hkept hshort hpos hend⟩

end Copy

/-- Copying a list ends as what `alloc` says about it demands, for every code and on every store
that has the memory of the guest. -/
theorem copies_exactly (c : Code) (g : Guest) (xs : List Int32) (store : Store)
    (hmemory : store.memories[g.memory]?.isSome) :
    CopiesExactly c g xs store (g.writeList c xs store) where
  tooLong hlong := by
    rw [writeList, if_pos]
    rwa [Nat.mul_comm]
  answered hshort := copiesAsAnswered_writeList hmemory (by rwa [Nat.mul_comm])

end Guest

/-- At the end of the memory there is a block for the empty list, but for no longer one. -/
theorem copies_exactly_clerk :
    let c := (clerk none).prepared.code
    let g : Guest := ⟨0, 0, some 1⟩
    let store := ((clerk none).afterAll [lendCall 65528]).store
    store.memories[g.memory]?.isSome ∧
      Guest.CopiesExactly c g [] store (g.writeList c [] store) ∧
      (g.writeList c [] store).result = .ok ⟨65536, 0⟩ ∧
      Guest.CopiesExactly c g [7] store (g.writeList c [7] store) ∧
      (g.writeList c [7] store).result = .error (.outOfBounds 65536 4) := by
  intro c g store
  have hmemory : store.memories[g.memory]?.isSome := by rfl
  exact ⟨hmemory, Guest.copies_exactly c g [] store hmemory, by rfl,
    Guest.copies_exactly c g [7] store hmemory, by rfl⟩

end WasmGuest
