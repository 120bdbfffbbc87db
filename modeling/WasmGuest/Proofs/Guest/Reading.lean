import WasmGuest.Proofs.Guest.Copying

/-!
# Reading one list

The place and the length of a list that an export returns are any two integers of
32 bits.  They are checked before a byte of memory is looked at, and what is
counted on the way, in words of 64 bits, is too small to overflow.

* `readByWords` is the reading in these words, where a product may be clamped, a
  sum may fail, a slice may lie outside and a byte may be missing.
  `readByWords_eq`: it always has an answer, and this is that of `readList`.
* `InWords`: the words that are counted with are the numbers that they stand for.
* `encode_itemsAt`: the items of a block account for all of its bytes.
* `ListRead` has one case for each way a reading may end, and
  `leavesStore_readList` says that none of them touches the store.
* `ReadsExactly` puts this together, and `Guest.reads_exactly` proves it for every
  memory and every block.
-/

namespace WasmGuest

open Wasm (Val)
open Machine (Code Memory Store)

namespace Guest

theorem neg_iff_toInt {n : Int32} : n < 0 ↔ n.toInt < 0 :=
  Int32.lt_iff_toInt_lt

/-! ## Reading in words of 64 bits -/

/-- A number as an address; a negative one is none. -/
def address? (n : Int32) : Option UInt64 :=
  if n < 0 then none else some (UInt64.ofNat n.toInt.toNat)

/-- The product, or the greatest word if that is less. -/
def clampedProduct (a b : UInt64) : UInt64 :=
  UInt64.ofNatClamp (a.toNat * b.toNat)

/-- The sum, if it is a word. -/
def sum? (a b : UInt64) : Option UInt64 :=
  if a.toNat + b.toNat < UInt64.size then some (a + b) else none

/-- The bytes between two places, if these are in order and not behind the last byte. -/
def slice? (bytes : List UInt8) (start stop : UInt64) : Option (List UInt8) :=
  if start ≤ stop ∧ stop.toNat ≤ bytes.length then
    some ((bytes.take stop.toNat).drop start.toNat)
  else none

/-- The pieces of four bytes each; fewer than four at the end are dropped. -/
def chunks (bytes : List UInt8) : List (List UInt8) :=
  (List.range (bytes.length / itemSize)).map fun k => (bytes.drop (k * itemSize)).take itemSize

/-- The item that a piece stands for, if its first four bytes are there. -/
def item? (piece : List UInt8) : Option Int32 := do
  let b₀ ← piece[0]?
  let b₁ ← piece[1]?
  let b₂ ← piece[2]?
  let b₃ ← piece[3]?
  return word b₀ b₁ b₂ b₃

/-- The list in a block of a memory of these bytes.  There is no answer if a piece lacks a byte. -/
def readByWords (bytes : List UInt8) (b : Block) : Option (Except GuestError (List Int32)) :=
  match address? b.ptr, address? b.len with
  | some start, some len =>
    let size := clampedProduct len 4
    match (sum? start size).bind (slice? bytes start) with
    | some block => ((chunks block).mapM item?).map .ok
    | none => some (.error (.outOfBounds b.ptr size.toNat))
  | _, _ => some (.error (.invalidBlock b.ptr b.len))

section Words

variable {n : Int32} {a b : UInt64}

theorem address?_of_neg (h : n < 0) : address? n = none :=
  if_pos h

/-- A number that is not negative is below `2 ^ 31`, as an address too. -/
theorem address?_of_nonneg (h : ¬ n < 0) :
    ∃ a, address? n = some a ∧ a.toNat = n.toInt.toNat ∧ a.toNat < 2 ^ 31 := by
  have hlt := n.toInt_lt
  refine ⟨UInt64.ofNat n.toInt.toNat, if_neg h, ?_, ?_⟩
  · exact UInt64.toNat_ofNat_of_lt' (by simp only [UInt64.size]; omega)
  · rw [UInt64.toNat_ofNat_of_lt' (by simp only [UInt64.size]; omega)]
    omega

theorem toNat_clampedProduct (h : a.toNat * b.toNat < UInt64.size) :
    (clampedProduct a b).toNat = a.toNat * b.toNat :=
  UInt64.toNat_ofNatClamp_of_lt h

theorem sum?_of_lt (h : a.toNat + b.toNat < UInt64.size) :
    ∃ stop, sum? a b = some stop ∧ stop.toNat = a.toNat + b.toNat :=
  ⟨a + b, if_pos h, by rw [UInt64.toNat_add, Nat.mod_eq_of_lt h]⟩

end Words

/-- The words that the reading of a block counts in.  They are the numbers that they stand for: the
product is not clamped, and the sum does not fail. -/
structure InWords (b : Block) (start len stop : UInt64) : Prop where
  start_eq : address? b.ptr = some start
  len_eq : address? b.len = some len
  stop_eq : sum? start (clampedProduct len 4) = some stop
  toNat_start : start.toNat = b.ptr.toInt.toNat
  toNat_size : (clampedProduct len 4).toNat = 4 * b.len.toInt.toNat
  toNat_stop : stop.toNat = b.ptr.toInt.toNat + 4 * b.len.toInt.toNat

theorem exists_inWords {b : Block} (hptr : ¬ b.ptr < 0) (hlen : ¬ b.len < 0) :
    ∃ start len stop, InWords b start len stop := by
  obtain ⟨start, hstart, htoStart, hsmall⟩ := address?_of_nonneg hptr
  obtain ⟨len, hlen, htoLen, hshort⟩ := address?_of_nonneg hlen
  -- Both numbers are below `2 ^ 31`, so the product is below `2 ^ 33` and the sum below `2 ^ 34`.
  have hsize : (clampedProduct len 4).toNat = 4 * b.len.toInt.toNat := by
    rw [toNat_clampedProduct, htoLen, Nat.mul_comm]
    · rfl
    · show len.toNat * 4 < UInt64.size
      simp only [UInt64.size]
      omega
  obtain ⟨stop, hstop, htoStop⟩ := @sum?_of_lt start (clampedProduct len 4) (by
    simp only [UInt64.size]
    omega)
  refine ⟨start, len, stop, hstart, hlen, hstop, htoStart, hsize, ?_⟩
  rw [htoStop, htoStart, hsize]

/-! ## Slices of memory -/

section Slices

variable (m : Memory) (i n k : Nat)

theorem drop_read : (m.read i n).drop k = m.read (i + k) (n - k) := by
  apply List.ext_getElem
  · rw [List.length_drop, Memory.length_read, Memory.length_read]
  · intro j _ _
    simp [Memory.read, Nat.add_assoc]

theorem take_read : (m.read i n).take k = m.read i (min k n) := by
  rw [Memory.read, ← List.map_take, List.take_range]
  rfl

/-- Every piece of a block has its four bytes, and no byte is left over. -/
theorem chunks_read : chunks (m.read i (n * itemSize)) =
    (List.range n).map fun k => m.read (i + k * itemSize) itemSize := by
  have hcount : (m.read i (n * itemSize)).length / itemSize = n := by
    rw [Memory.length_read]
    exact Nat.mul_div_cancel n (by decide)
  rw [chunks, hcount]
  apply List.map_congr_left
  intro k hk
  rw [List.mem_range] at hk
  have hwhole : min itemSize (n * itemSize - k * itemSize) = itemSize := by
    simp only [itemSize]
    omega
  rw [drop_read, take_read, hwhole]

theorem itemAt_eq_word : itemAt m i =
    word (m.byteAt i) (m.byteAt (i + 1)) (m.byteAt (i + 2)) (m.byteAt (i + 3)) := by
  rw [← toInt32_ofBytes]
  rfl

theorem item?_read : item? (m.read i itemSize) = some (itemAt m i) := by
  rw [itemAt_eq_word]
  rfl

theorem items_chunks_read : (chunks (m.read i (n * itemSize))).mapM item? =
    some ((List.range n).map fun k => itemAt m (i + k * itemSize)) := by
  rw [chunks_read, List.mapM_map]
  simp only [Function.comp_def, item?_read]
  exact List.mapM_pure

end Slices

/-- The bytes of a memory between two places, as a slice of all of them. -/
theorem slice?_read (m : Memory) {start stop : UInt64} (h : start.toNat ≤ stop.toNat) :
    slice? (m.read 0 m.size) start stop =
      if stop.toNat ≤ m.size then some (m.read start.toNat (stop.toNat - start.toNat))
      else none := by
  rw [slice?, Memory.length_read]
  by_cases hin : stop.toNat ≤ m.size
  · rw [if_pos ⟨UInt64.le_iff_toNat_le.2 h, hin⟩, if_pos hin, take_read, Nat.min_eq_left hin,
      drop_read, Nat.zero_add]
  · rw [if_neg fun hboth => hin hboth.2, if_neg hin]

/-- The slice that is taken is the block, if this lies inside the memory. -/
theorem InWords.slice_eq {b : Block} {start len stop : UInt64} (h : InWords b start len stop)
    (m : Memory) : (sum? start (clampedProduct len 4)).bind (slice? (m.read 0 m.size) start) =
      if b.ptr.toInt.toNat + b.len.toInt.toNat * itemSize ≤ m.size then
        some (m.read b.ptr.toInt.toNat (b.len.toInt.toNat * itemSize))
      else none := by
  have hstart := h.toNat_start
  have hstop : stop.toNat = b.ptr.toInt.toNat + b.len.toInt.toNat * itemSize := by
    rw [h.toNat_stop, itemSize, Nat.mul_comm]
  have hle : start.toNat ≤ stop.toNat := by omega
  rw [h.stop_eq, Option.bind_some, slice?_read m hle, hstop, hstart, Nat.add_sub_cancel_left]

theorem readByWords_of_neg (bytes : List UInt8) {b : Block} (h : b.ptr < 0 ∨ b.len < 0) :
    readByWords bytes b = some (.error (.invalidBlock b.ptr b.len)) := by
  rw [readByWords]
  rcases h with hptr | hlen
  · rw [address?_of_neg hptr]
  · rw [address?_of_neg hlen]
    cases address? b.ptr <;> rfl

/-- Reading in words is reading, and no piece lacks a byte. -/
theorem readByWords_eq {g : Guest} {store : Store} {m : Memory}
    (hmemory : store.memories[g.memory]? = some m) (b : Block) :
    readByWords (m.read 0 m.size) b = some (g.readList store b) := by
  by_cases hneg : b.ptr < 0 ∨ b.len < 0
  · rw [readByWords_of_neg _ hneg, readList, if_pos hneg]
  · obtain ⟨hptr, hlen⟩ := not_or.1 hneg
    obtain ⟨start, len, stop, hwords⟩ := exists_inWords hptr hlen
    rw [readList, if_neg hneg, hmemory]
    simp only [readByWords, hwords.start_eq, hwords.len_eq, hwords.slice_eq]
    by_cases hin : b.ptr.toInt.toNat + b.len.toInt.toNat * itemSize ≤ m.size
    · simp only [if_pos hin, items_chunks_read, Option.map_some]
    · simp only [if_neg hin, hwords.toNat_size]
      rw [itemSize, Nat.mul_comm]

/-! ## Items -/

/-- Every byte is below 256, so a number has the digits that it is made of. -/
theorem bytesOf_ofBytes (bs : List UInt8) :
    Machine.bytesOf bs.length (Machine.ofBytes bs) = bs := by
  induction bs with
  | nil => rfl
  | cons b bs ih =>
    have hlow : UInt8.ofNat (b.toNat + 256 * Machine.ofBytes bs) = b := by
      apply UInt8.toNat_inj.1
      have hlt := b.toNat_lt
      rw [UInt8.toNat_ofNat']
      omega
    have hhigh : (b.toNat + 256 * Machine.ofBytes bs) / 256 = Machine.ofBytes bs := by
      have hlt := b.toNat_lt
      omega
    rw [List.length_cons, Machine.ofBytes, Machine.bytesOf, hlow, hhigh, ih]

theorem ofBytes_lt (bs : List UInt8) : Machine.ofBytes bs < 256 ^ bs.length := by
  induction bs with
  | nil => decide
  | cons b bs ih =>
    have hlt := b.toNat_lt
    rw [Machine.ofBytes, List.length_cons, Nat.pow_succ]
    omega

theorem bytesOf_itemAt (m : Memory) (i : Nat) :
    Machine.bytesOf itemSize (itemAt m i).toUInt32.toNat = m.read i itemSize := by
  have hlength : (m.read i itemSize).length = itemSize := m.length_read i itemSize
  have hlt := ofBytes_lt (m.read i itemSize)
  have hbytes := bytesOf_ofBytes (m.read i itemSize)
  rw [hlength] at hlt hbytes
  rw [itemAt, UInt32.toUInt32_toInt32, UInt32.toNat_ofNat_of_lt' hlt, hbytes]

theorem read_add (m : Memory) (i n k : Nat) :
    m.read i (n + k) = m.read i n ++ m.read (i + n) k := by
  simp only [Memory.read, List.range_add, List.map_append, List.map_map]
  congr 1
  apply List.map_congr_left
  intro j _
  rw [Function.comp_apply, Nat.add_assoc]

/-- The items of a block account for all of its bytes. -/
theorem encode_itemsAt (m : Memory) (i n : Nat) :
    encode ((List.range n).map fun k => itemAt m (i + k * itemSize)) =
      m.read i (n * itemSize) := by
  rw [encode, List.flatMap_map]
  simp only [bytesOf_itemAt]
  induction n with
  | zero => rfl
  | succ n ih =>
    rw [List.range_succ, List.flatMap_append, ih, List.flatMap_singleton, Nat.succ_mul, read_add]

/-- The signed number that the four bytes from an address on stand for, the lowest first: the last
one has the sign. -/
def signedAt (m : Memory) (i : Nat) : Int :=
  (m.byteAt i).toNat + 2 ^ 8 * (m.byteAt (i + 1)).toNat + 2 ^ 16 * (m.byteAt (i + 2)).toNat
    + 2 ^ 24 * (m.byteAt (i + 3)).toInt8.toInt

theorem toInt_itemAt (m : Memory) (i : Nat) : (itemAt m i).toInt = signedAt m i := by
  have hsign : (m.byteAt (i + 3)).toInt8.toInt = ((m.byteAt (i + 3)).toNat : Int).bmod (2 ^ 8) := by
    rw [← Int8.toInt_toBitVec]
    exact BitVec.toInt_eq_toNat_bmod _
  have h₀ := (m.byteAt i).toNat_lt
  have h₁ := (m.byteAt (i + 1)).toNat_lt
  have h₂ := (m.byteAt (i + 2)).toNat_lt
  have h₃ := (m.byteAt (i + 3)).toNat_lt
  -- The other three bytes stay below `2 ^ 24`, so the item is negative if the last byte is.
  rw [itemAt_eq_word, word, signedAt, Int32.toInt_ofNat', hsign, Int.bmod_def, Int.bmod_def]
  simp only [Int32.size]
  omega

/-! ## How a reading ends -/

/-- What comes of reading a block: one of its numbers is negative, it reaches behind the end of the
memory, or there is a list. -/
inductive ListRead (m : Memory) (b : Block) : Except GuestError (List Int32) → Prop where
  | negative (hneg : b.ptr.toInt < 0 ∨ b.len.toInt < 0) :
      ListRead m b (.error (.invalidBlock b.ptr b.len))
  | outside (hptr : 0 ≤ b.ptr.toInt) (hlen : 0 ≤ b.len.toInt)
      (hout : (m.size : Int) < b.ptr.toInt + 4 * b.len.toInt) :
      ListRead m b (.error (.outOfBounds b.ptr (4 * b.len.toInt.toNat)))
  | inside (hptr : 0 ≤ b.ptr.toInt) (hlen : 0 ≤ b.len.toInt)
      (hin : b.ptr.toInt + 4 * b.len.toInt ≤ m.size) :
      ListRead m b (.ok ((List.range b.len.toInt.toNat).map fun k =>
        itemAt m (b.ptr.toInt.toNat + k * itemSize)))

theorem listRead_readList {g : Guest} {store : Store} {m : Memory}
    (hmemory : store.memories[g.memory]? = some m) (b : Block) :
    ListRead m b (g.readList store b) := by
  have hsize : b.len.toInt.toNat * itemSize = 4 * b.len.toInt.toNat := Nat.mul_comm _ 4
  by_cases hneg : b.ptr < 0 ∨ b.len < 0
  · rw [readList, if_pos hneg]
    rw [neg_iff_toInt, neg_iff_toInt] at hneg
    exact .negative hneg
  · rw [readList, if_neg hneg, hmemory]
    rw [neg_iff_toInt, neg_iff_toInt] at hneg
    by_cases hin : b.ptr.toInt.toNat + b.len.toInt.toNat * itemSize ≤ m.size
    · simp only [if_pos hin]
      exact .inside (by omega) (by omega) (by omega)
    · simp only [if_neg hin]
      rw [hsize]
      exact .outside (by omega) (by omega) (by omega)

/-- An exchange that asks for a list ends with what is read from the store that its export leaves.
Whatever comes of the reading, this store is left as it is, and nothing more is called. -/
def LeavesStore (g : Guest) (store : Store) (b : Block)
    (r : Except GuestError (List Int32)) : Prop :=
  ∀ {c : Code} {f : Nat} {i : Invocation} {before : Store} {params : List Val},
    i.returns = .list →
    (passArgs c (some g) i.args before).result = .ok params →
    Machine.call c f params (passArgs c (some g) i.args before).store =
      .values [.i32 b.ptr.toUInt32, .i32 b.len.toUInt32] store →
    (exchange c (some g) f i before).store = store ∧
      (exchange c (some g) f i before).calls =
        (passArgs c (some g) i.args before).calls ++ [.export params] ∧
      (exchange c (some g) f i before).result =
        (r.map fun xs => ⟨some (.list xs), fuelSpent c store⟩).mapError .guest

theorem leavesStore_readList (g : Guest) (store : Store) (b : Block) :
    LeavesStore g store b (g.readList store b) := by
  intro c f i before params hreturns hpassed hcall
  rw [exchange]
  simp only [hpassed, hcall, hreturns, liftResults, Int32.toInt32_toUInt32]
  cases g.readList store b with
  | ok xs => exact ⟨rfl, rfl, rfl⟩
  | error e => exact ⟨rfl, rfl, rfl⟩

/-- How the reading of a block from a store with a memory ends. -/
structure ReadsExactly (g : Guest) (store : Store) (m : Memory) (b : Block)
    (r : Except GuestError (List Int32)) : Prop where
  /-- A block that lies inside the memory is read, and no other one. -/
  ok_iff : (∃ xs, r = .ok xs) ↔
    0 ≤ b.ptr.toInt ∧ 0 ≤ b.len.toInt ∧ b.ptr.toInt + 4 * b.len.toInt ≤ m.size
  items : ∀ xs, r = .ok xs → (xs.length : Int) = b.len.toInt ∧
    ∀ k (hk : k < xs.length), xs[k].toInt = signedAt m (b.ptr.toInt.toNat + 4 * k)
  /-- The items account for all bytes of the block. -/
  whole : ∀ xs, r = .ok xs → encode xs = m.read b.ptr.toInt.toNat (4 * b.len.toInt.toNat)
  invalidBlock_iff : r = .error (.invalidBlock b.ptr b.len) ↔
    b.ptr.toInt < 0 ∨ b.len.toInt < 0
  outOfBounds_iff : r = .error (.outOfBounds b.ptr (4 * b.len.toInt.toNat)) ↔
    0 ≤ b.ptr.toInt ∧ 0 ≤ b.len.toInt ∧ (m.size : Int) < b.ptr.toInt + 4 * b.len.toInt
  /-- In words of 64 bits the reading is the same, and it looks up no byte that is not there. -/
  byWords : readByWords (m.read 0 m.size) b = some r
  /-- Nothing is clamped there, and no sum fails. -/
  inWords : 0 ≤ b.ptr.toInt → 0 ≤ b.len.toInt → ∃ start len stop, InWords b start len stop
  leavesStore : LeavesStore g store b r

section Fields

variable {m : Memory} {b : Block} {r : Except GuestError (List Int32)}

theorem ListRead.ok_iff (h : ListRead m b r) : (∃ xs, r = .ok xs) ↔
    0 ≤ b.ptr.toInt ∧ 0 ≤ b.len.toInt ∧ b.ptr.toInt + 4 * b.len.toInt ≤ m.size := by
  cases h with
  | negative hneg => exact iff_of_false (by rintro ⟨_, ⟨⟩⟩) (by omega)
  | outside hptr hlen hout => exact iff_of_false (by rintro ⟨_, ⟨⟩⟩) (by omega)
  | inside hptr hlen hin => exact iff_of_true ⟨_, rfl⟩ ⟨hptr, hlen, hin⟩

theorem ListRead.invalidBlock_iff (h : ListRead m b r) :
    r = .error (.invalidBlock b.ptr b.len) ↔ b.ptr.toInt < 0 ∨ b.len.toInt < 0 := by
  cases h with
  | negative hneg => exact iff_of_true rfl hneg
  | outside hptr hlen hout => exact iff_of_false (by rintro ⟨⟩) (by omega)
  | inside hptr hlen hin => exact iff_of_false (by rintro ⟨⟩) (by omega)

theorem ListRead.outOfBounds_iff (h : ListRead m b r) :
    r = .error (.outOfBounds b.ptr (4 * b.len.toInt.toNat)) ↔
      0 ≤ b.ptr.toInt ∧ 0 ≤ b.len.toInt ∧ (m.size : Int) < b.ptr.toInt + 4 * b.len.toInt := by
  cases h with
  | negative hneg => exact iff_of_false (by rintro ⟨⟩) (by omega)
  | outside hptr hlen hout => exact iff_of_true rfl ⟨hptr, hlen, hout⟩
  | inside hptr hlen hin => exact iff_of_false (by rintro ⟨⟩) (by omega)

theorem ListRead.eq_map {xs : List Int32} (h : ListRead m b (.ok xs)) : 0 ≤ b.len.toInt ∧
    xs = (List.range b.len.toInt.toNat).map fun k =>
      itemAt m (b.ptr.toInt.toNat + k * itemSize) := by
  cases h with
  | inside hptr hlen hin => exact ⟨hlen, rfl⟩

end Fields

/-- Reading a block ends as its two numbers and the size of the memory demand, for every memory and
every block. -/
theorem reads_exactly {g : Guest} {store : Store} {m : Memory}
    (hmemory : store.memories[g.memory]? = some m) (b : Block) :
    ReadsExactly g store m b (g.readList store b) := by
  have hread := listRead_readList hmemory b
  exact {
    ok_iff := hread.ok_iff
    items := by
      intro xs hxs
      rw [hxs] at hread
      obtain ⟨hlen, rfl⟩ := hread.eq_map
      constructor
      · rw [List.length_map, List.length_range, Int.toNat_of_nonneg hlen]
      · intro k hk
        rw [List.getElem_map, List.getElem_range, toInt_itemAt, itemSize, Nat.mul_comm]
    whole := by
      intro xs hxs
      rw [hxs] at hread
      obtain ⟨-, rfl⟩ := hread.eq_map
      rw [encode_itemsAt, itemSize, Nat.mul_comm]
    invalidBlock_iff := hread.invalidBlock_iff
    outOfBounds_iff := hread.outOfBounds_iff
    byWords := readByWords_eq hmemory b
    inWords := fun hptr hlen => exists_inWords (neg_iff_toInt.not.2 (Int.not_lt.2 hptr))
      (neg_iff_toInt.not.2 (Int.not_lt.2 hlen))
    leavesStore := leavesStore_readList g store b }

end Guest

/-- Two items at the end of a page are read; an empty block may stand behind them, but none with an
item, and the bytes of the greatest length of all are counted in full.  A guest that returns what it
is given can name any of these blocks. -/
theorem reads_exactly_clerk :
    let m := (Memory.ofPages 1 none).write 65528 (Guest.encode [7, -2])
    let g : Guest := ⟨0, 0, some 1⟩
    let before : Store := ⟨⟨[m], #[.i32 8, .i32 0], [], [], []⟩, 0, 0⟩
    let store : Store := { before with spent := 3, settled := 3 }
    let returned := exchange (clerk none).prepared.code (some g) 4
      { target := "echo", args := [.i32 65533, .i32 1], returns := .list } before
    store.memories[g.memory]? = some m ∧
      (∀ b, Guest.ReadsExactly g store m b (g.readList store b)) ∧
      g.readList store ⟨65528, 2⟩ = .ok [7, -2] ∧
      (∃ xs, g.readList store ⟨65536, 0⟩ = .ok xs) ∧
      g.readList store ⟨65533, 1⟩ = .error (.outOfBounds 65533 4) ∧
      g.readList store ⟨0, 2147483647⟩ = .error (.outOfBounds 0 8589934588) ∧
      g.readList store ⟨-2147483648, 2147483647⟩ =
        .error (.invalidBlock (-2147483648) 2147483647) ∧
      returned.store = store ∧ returned.result = .error (.guest (.outOfBounds 65533 4)) := by
  intro m g before store returned
  have hmemory : store.memories[g.memory]? = some m := rfl
  have hreads := Guest.reads_exactly hmemory
  have hsize : m.size = 65536 := by
    rw [Memory.size_write]
    rfl
  have hout : g.readList store ⟨65533, 1⟩ = .error (.outOfBounds 65533 4) := by
    refine (hreads ⟨65533, 1⟩).outOfBounds_iff.2 ?_
    rw [hsize]
    decide
  obtain ⟨hstore, -, hresult⟩ := @(hreads ⟨65533, 1⟩).leavesStore (clerk none).prepared.code
    4 { target := "echo", args := [.i32 65533, .i32 1], returns := .list } before
    [.i32 65533, .i32 1] rfl rfl rfl
  rw [hout] at hresult
  refine ⟨hmemory, hreads, ?_, ?_, hout, ?_, ?_, hstore, hresult⟩
  · exact @Guest.readList_write g [7, -2]
      ⟨⟨[.ofPages 1 none], #[.i32 8, .i32 0], [], [], []⟩, 3, 3⟩ rfl
      (by decide) 65528 (by decide) (by decide)
  · rw [(hreads ⟨65536, 0⟩).ok_iff, hsize]
    decide
  · refine (hreads ⟨0, 2147483647⟩).outOfBounds_iff.2 ?_
    rw [hsize]
    decide
  · exact (hreads ⟨-2147483648, 2147483647⟩).invalidBlock_iff.2 (by decide)

end WasmGuest
