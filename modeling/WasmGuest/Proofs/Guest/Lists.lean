import Mathlib.Algebra.Order.Ring.Int
import WasmGuest.Guest.Block
import WasmGuest.Proofs.Machine.Frame

/-!
# Lists as bytes

A list in guest memory is seen as the bytes of its block, and `decode` says which
list bytes stand for: four to an item, the lowest first.

* `decode_encode`: what is copied into memory decodes to the list.
* `itemsAt_eq_decode`: reading item by item is decoding the bytes.
* `readList_eq_ok_iff`: when a list can be read, and what it is.
* `toInt32_neg_iff`, `toInt_toInt32`: an address seen by the host and by the guest.
* `bytes_write`, `bytes_write_of_apart`: what a write does to the bytes of a
  block, and that it leaves the bytes of every other block alone.
* `wordAt_write`, `wordAt_write_of_ne`: the same for the words that the guest
  reads and writes; `decode_bytes` is a list as the words of its block.
-/

namespace WasmGuest

open Machine (Store Memory)

namespace Guest

/-- The number that four bytes stand for, the lowest first. -/
def word (b₀ b₁ b₂ b₃ : UInt8) : Int32 :=
  Int32.ofNat (b₀.toNat + 2 ^ 8 * b₁.toNat + 2 ^ 16 * b₂.toNat + 2 ^ 24 * b₃.toNat)

/-- The list that bytes stand for, four to an item. -/
def decode : List UInt8 → List Int32
  | b₀ :: b₁ :: b₂ :: b₃ :: bs => word b₀ b₁ b₂ b₃ :: decode bs
  | _ => []

/-! ## The codec -/

theorem toInt32_ofBytes (b₀ b₁ b₂ b₃ : UInt8) :
    (UInt32.ofNat (Machine.ofBytes [b₀, b₁, b₂, b₃])).toInt32 = word b₀ b₁ b₂ b₃ := by
  rw [UInt32.toInt32_ofNat', word]
  congr 1
  simp only [Machine.ofBytes]
  omega

theorem bytesOf_itemSize (n : Nat) : Machine.bytesOf itemSize n =
    [UInt8.ofNat n, UInt8.ofNat (n / 256), UInt8.ofNat (n / 256 / 256),
      UInt8.ofNat (n / 256 / 256 / 256)] :=
  rfl

/-- The bytes of an item stand for the item. -/
theorem word_bytesOf (x : Int32) : word (UInt8.ofNat x.toUInt32.toNat)
    (UInt8.ofNat (x.toUInt32.toNat / 256)) (UInt8.ofNat (x.toUInt32.toNat / 256 / 256))
    (UInt8.ofNat (x.toUInt32.toNat / 256 / 256 / 256)) = x := by
  have hlt : x.toUInt32.toNat < 1 <<< (8 * itemSize) := x.toUInt32.toNat_lt
  have hbytes := Machine.ofBytes_bytesOf itemSize x.toUInt32.toNat
  rw [Nat.mod_eq_of_lt hlt, bytesOf_itemSize] at hbytes
  rw [← toInt32_ofBytes, hbytes, UInt32.ofNat_toNat, Int32.toInt32_toUInt32]

@[simp] theorem length_encode (xs : List Int32) : (encode xs).length = xs.length * itemSize := by
  induction xs with
  | nil => rfl
  | cons x xs ih =>
    show (Machine.bytesOf itemSize x.toUInt32.toNat ++ encode xs).length = _
    rw [List.length_append, ih, Machine.length_bytesOf, List.length_cons, Nat.succ_mul,
      Nat.add_comm]

/-- The bytes of a list stand for the list. -/
@[simp] theorem decode_encode (xs : List Int32) : decode (encode xs) = xs := by
  induction xs with
  | nil => rfl
  | cons x xs ih =>
    show decode (Machine.bytesOf itemSize x.toUInt32.toNat ++ encode xs) = _
    rw [bytesOf_itemSize]
    show word _ _ _ _ :: decode (encode xs) = _
    rw [word_bytesOf, ih]

/-- The bytes from an address on, one item apart from the rest. -/
theorem read_succ (m : Memory) (i n : Nat) : m.read i ((n + 1) * itemSize) =
    m.byteAt i :: m.byteAt (i + 1) :: m.byteAt (i + 2) :: m.byteAt (i + 3) ::
      m.read (i + itemSize) (n * itemSize) := by
  have hsize : (n + 1) * itemSize = n * itemSize + 1 + 1 + 1 + 1 := by
    simp only [itemSize]
    omega
  simp only [Memory.read, hsize, List.range_succ_eq_map, List.map_cons, List.map_map,
    Nat.add_zero, List.cons.injEq, true_and]
  apply List.map_congr_left
  intro k _
  show m.byteAt (i + (k + 1 + 1 + 1 + 1)) = m.byteAt (i + itemSize + k)
  congr 1
  simp only [itemSize]
  omega

/-- Reading item by item is decoding the bytes. -/
theorem itemsAt_eq_decode (m : Memory) (i n : Nat) :
    (List.range n).map (fun k => itemAt m (i + k * itemSize)) =
      decode (m.read i (n * itemSize)) := by
  induction n generalizing i with
  | zero => simp [Memory.read, decode]
  | succ n ih =>
    rw [read_succ, decode, ← ih, List.range_succ_eq_map, List.map_cons, List.map_map]
    congr 1
    · rw [← toInt32_ofBytes, itemAt]
      rfl
    · apply List.map_congr_left
      intro k _
      show itemAt m (i + (k + 1) * itemSize) = itemAt m (i + itemSize + k * itemSize)
      congr 1
      simp only [itemSize]
      omega

end Guest

/-! ## Addresses -/

/-- A word is the signed number that it stands for, up to `2 ^ 32`. -/
theorem toInt_toInt32_eq_bmod (p : UInt32) : p.toInt32.toInt = (p.toNat : Int).bmod (2 ^ 32) := by
  rw [← Int32.toInt_toBitVec]
  exact BitVec.toInt_eq_toNat_bmod _

/-- An address is negative to the host if its highest bit is set. -/
theorem toInt32_neg_iff {p : UInt32} : p.toInt32 < 0 ↔ 2 ^ 31 ≤ p.toNat := by
  have hlt := p.toNat_lt
  rw [Int32.lt_iff_toInt_lt, toInt_toInt32_eq_bmod, Int.bmod_def]
  show _ < (0 : Int) ↔ _
  omega

theorem toInt_toInt32 {p : UInt32} (h : ¬ p.toInt32 < 0) : p.toInt32.toInt = p.toNat := by
  rw [toInt32_neg_iff] at h
  rw [toInt_toInt32_eq_bmod, Int.bmod_def]
  omega

/-! ## Blocks of bytes -/

/-- The `n` bytes of a memory from an address on. -/
def Machine.Store.bytes (st : Store) (x i n : Nat) : List UInt8 :=
  match st.memories[x]? with
  | some m => m.read i n
  | none => []

/-- Two ranges of addresses have none in common. -/
def Apart (i n j m : Nat) : Prop :=
  ∀ k, ¬ ((i ≤ k ∧ k < i + n) ∧ (j ≤ k ∧ k < j + m))

namespace Guest

section Bytes

variable {st : Store} {x i j n : Nat} {m : Memory} {bs : List UInt8}

theorem bytes_of_eq_some (h : st.memories[x]? = some m) : st.bytes x i n = m.read i n := by
  rw [Store.bytes, h]

theorem bytes_of_eq_none (h : st.memories[x]? = none) : st.bytes x i n = [] := by
  rw [Store.bytes, h]

theorem memories_write_of_eq_some (h : st.memories[x]? = some m) :
    (st.write x i bs).memories[x]? = some (m.write i bs) :=
  Machine.Contents.getElem?_memories_modify_self h (·.write i bs)

theorem memories_write_of_eq_none (h : st.memories[x]? = none) :
    (st.write x i bs).memories[x]? = none := by
  rw [Machine.Store.toContents_write, Machine.Contents.write,
    Machine.Contents.getElem?_memories_modify, h, Option.map_none]

theorem bytes_write (hin : i + bs.length ≤ st.memorySize x) :
    (st.write x i bs).bytes x i bs.length = bs := by
  cases hm : st.memories[x]? with
  | some m =>
    rw [Machine.Contents.memorySize_of_eq_some hm] at hin
    rw [bytes_of_eq_some (memories_write_of_eq_some hm)]
    exact Memory.read_write m i bs hin
  | none =>
    rw [Machine.Contents.memorySize_of_eq_none hm] at hin
    have hnil : bs = [] := List.length_eq_zero_iff.1 (by omega)
    rw [bytes_of_eq_none (memories_write_of_eq_none hm), hnil]

/-- A write leaves the bytes of a block alone that it is apart from. -/
theorem bytes_write_of_apart (hin : i + bs.length ≤ st.memorySize x)
    (hapart : Apart j n i bs.length) : (st.write x i bs).bytes x j n = st.bytes x j n := by
  cases hm : st.memories[x]? with
  | none => rw [bytes_of_eq_none hm, bytes_of_eq_none (memories_write_of_eq_none hm)]
  | some m =>
    rw [Machine.Contents.memorySize_of_eq_some hm] at hin
    rw [bytes_of_eq_some hm, bytes_of_eq_some (memories_write_of_eq_some hm)]
    apply List.map_congr_left
    intro k hk
    rw [List.mem_range] at hk
    have houtside : ¬ (i ≤ j + k ∧ j + k < i + bs.length) :=
      fun h => hapart (j + k) ⟨⟨by omega, by omega⟩, h⟩
    rw [Memory.byteAt_write m i (j + k) bs hin, if_neg houtside]

end Bytes

/-- A list can be read if its place and its length are not negative and its block lies inside the
memory; it is then what the bytes of the block stand for. -/
theorem readList_eq_ok_iff {g : Guest} {st : Store} {b : Block} {xs : List Int32} :
    g.readList st b = .ok xs ↔
      ¬ b.ptr < 0 ∧ ¬ b.len < 0 ∧ st.memories[g.memory]?.isSome ∧
        b.ptr.toInt.toNat + b.len.toInt.toNat * itemSize ≤ st.memorySize g.memory ∧
        xs = decode (st.bytes g.memory b.ptr.toInt.toNat (b.len.toInt.toNat * itemSize)) := by
  rw [readList]
  by_cases hneg : b.ptr < 0 ∨ b.len < 0
  · rw [if_pos hneg]
    constructor
    · intro h
      cases h
    · rintro ⟨hptr, hlen, -⟩
      exact absurd hneg (not_or.2 ⟨hptr, hlen⟩)
  · rw [if_neg hneg]
    obtain ⟨hptr, hlen⟩ := not_or.1 hneg
    cases hm : st.memories[g.memory]? with
    | none =>
      constructor
      · intro h
        cases h
      · rintro ⟨-, -, hsome, -⟩
        cases hsome
    | some m =>
      simp only [itemsAt_eq_decode, Machine.Contents.memorySize_of_eq_some hm,
        bytes_of_eq_some hm]
      split
      · next hin =>
        constructor
        · intro h
          cases h
          exact ⟨hptr, hlen, rfl, hin, rfl⟩
        · rintro ⟨-, -, -, -, rfl⟩
          rfl
      · next hout =>
        constructor
        · intro h
          cases h
        · rintro ⟨-, -, -, hin, -⟩
          exact absurd hin hout

end Guest

/-! ## Words -/

/-- The word at an address of a memory. -/
def Machine.Store.wordAt (st : Store) (x i : Nat) : UInt32 :=
  UInt32.ofNat (Machine.ofBytes (st.bytes x i 4))

section Words

variable {st : Store} {x i j n : Nat}

theorem load?_word (st : Store) (x i : Nat) : st.load? x i 4 =
    if i + 4 ≤ st.memorySize x then some (Machine.ofBytes (st.bytes x i 4)) else none := by
  rw [Machine.Contents.load?, Machine.Contents.read?]
  cases hm : st.memories[x]? with
  | some m =>
    rw [Machine.Contents.memorySize_of_eq_some hm, Guest.bytes_of_eq_some hm]
    simp only
    split <;> rfl
  | none =>
    rw [Machine.Contents.memorySize_of_eq_none hm, if_neg (by omega)]
    rfl

/-- A word that was written is read back. -/
theorem wordAt_write (w : UInt32) (hin : i + 4 ≤ st.memorySize x) :
    (st.write x i (Machine.bytesOf 4 w.toNat)).wordAt x i = w := by
  have hbytes : (st.write x i (Machine.bytesOf 4 w.toNat)).bytes x i 4 =
      Machine.bytesOf 4 w.toNat :=
    @Guest.bytes_write st x i (Machine.bytesOf 4 w.toNat) hin
  rw [Store.wordAt, hbytes, Machine.ofBytes_bytesOf, Nat.mod_eq_of_lt (by exact w.toNat_lt),
    UInt32.ofNat_toNat]

theorem wordAt_write_of_ne (w : UInt32) (hin : i + 4 ≤ st.memorySize x)
    (hapart : j + 4 ≤ i ∨ i + 4 ≤ j) :
    (st.write x i (Machine.bytesOf 4 w.toNat)).wordAt x j = st.wordAt x j := by
  rw [Store.wordAt, @Guest.bytes_write_of_apart st x i j 4 (Machine.bytesOf 4 w.toNat) hin]
  · rfl
  · rintro k ⟨⟨hk₁, hk₂⟩, hk₃, hk₄⟩
    rw [Machine.length_bytesOf] at hk₄
    omega

/-- A block inside the memory stands for its words. -/
theorem Guest.decode_bytes (hin : i + n * itemSize ≤ st.memorySize x) :
    Guest.decode (st.bytes x i (n * itemSize)) =
      (List.range n).map fun k => (st.wordAt x (i + 4 * k)).toInt32 := by
  cases hm : st.memories[x]? with
  | none =>
    rw [Machine.Contents.memorySize_of_eq_none hm] at hin
    have hnone : n = 0 := by
      simp only [itemSize] at hin
      omega
    rw [bytes_of_eq_none hm, hnone]
    rfl
  | some m =>
    rw [bytes_of_eq_some hm, ← Guest.itemsAt_eq_decode]
    apply List.map_congr_left
    intro k _
    rw [Nat.mul_comm k itemSize, Store.wordAt, bytes_of_eq_some hm]
    rfl

end Words

end WasmGuest
