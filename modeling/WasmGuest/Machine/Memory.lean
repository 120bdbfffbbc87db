import WasmGuest.Wasm.Types

/-!
# Linear memory

A memory is an array of pages, so its size is a whole number of pages.  The view
of a memory is `byteAt`, which is zero outside; every operation is described by
it.

* `byteAt_setByte`, `byteAt_write`: what a write changes and what it leaves.
* `size_setByte`, `size_write`: a write never changes the size.
* `byteAt_grow`, `size_grow`: growing keeps the bytes and adds zeros.
* `read_write`: what was written inside a memory is read back.
-/

namespace WasmGuest.Machine

open Wasm (pageSize)

/-- The bytes of one page. -/
structure Page where
  bytes : ByteArray
  size_eq : bytes.size = pageSize

namespace Page

/-- A page of zeros. -/
def zero : Page where
  bytes := ⟨Array.replicate pageSize 0⟩
  size_eq := by simp [ByteArray.size]

instance : Inhabited Page := ⟨zero⟩

def get (p : Page) (i : Fin pageSize) : UInt8 :=
  p.bytes.get i (by rw [p.size_eq]; exact i.isLt)

def set (p : Page) (i : Fin pageSize) (b : UInt8) : Page where
  bytes := p.bytes.set i b (by rw [p.size_eq]; exact i.isLt)
  size_eq := by
    have h := p.size_eq
    simp only [ByteArray.size] at h ⊢
    simp [ByteArray.set, h]

theorem get_set (p : Page) (i j : Fin pageSize) (b : UInt8) :
    (p.set i b).get j = if j = i then b else p.get j := by
  have hsize : p.bytes.data.size = pageSize := p.size_eq
  have hi : i.val < p.bytes.data.size := by rw [hsize]; exact i.isLt
  have hj : j.val < p.bytes.data.size := by rw [hsize]; exact j.isLt
  have hset : j.val < (p.bytes.data.set i.val b hi).size := by rw [Array.size_set]; exact hj
  show (p.bytes.data.set i.val b hi)[j.val] = if j = i then b else p.bytes.data[j.val]
  rw [Array.getElem_set]
  simp [Fin.ext_iff, eq_comm]

theorem get_zero (i : Fin pageSize) : zero.get i = 0 := by
  have hi : i.val < (Array.replicate pageSize (0 : UInt8)).size := by simp
  show (Array.replicate pageSize (0 : UInt8))[i.val] = 0
  rw [Array.getElem_replicate]

end Page

structure Memory where
  pages : Array Page
  /-- The most pages the module allows. -/
  max : Option Nat

namespace Memory

/-- The size in bytes. -/
def size (m : Memory) : Nat :=
  m.pages.size * pageSize

/-- The place of an address in its page. -/
def place (i : Nat) : Fin pageSize :=
  ⟨i % pageSize, Nat.mod_lt _ (by decide)⟩

/-- The byte at an address. -/
def byteAt (m : Memory) (i : Nat) : UInt8 :=
  match m.pages[i / pageSize]? with
  | some p => p.get (place i)
  | none => 0

/-- Write one byte; outside the memory this does nothing. -/
def setByte (m : Memory) (i : Nat) (b : UInt8) : Memory :=
  match m with
  | ⟨pages, max⟩ => ⟨pages.modify (i / pageSize) (·.set (place i) b), max⟩

/-- Write bytes one after the other. -/
def write (m : Memory) (i : Nat) : List UInt8 → Memory
  | [] => m
  | b :: bs => (m.setByte i b).write (i + 1) bs

/-- The `n` bytes from an address on. -/
def read (m : Memory) (i : Nat) (n : Nat) : List UInt8 :=
  (List.range n).map fun k => m.byteAt (i + k)

/-- Add pages of zeros. -/
def grow (m : Memory) (n : Nat) : Memory :=
  ⟨m.pages ++ Array.replicate n Page.zero, m.max⟩

/-- A memory of zeros. -/
def ofPages (n : Nat) (max : Option Nat) : Memory :=
  ⟨Array.replicate n Page.zero, max⟩

/-! ## What the operations do to the view -/

theorem place_eq_iff {i j : Nat} (h : i / pageSize = j / pageSize) : place i = place j ↔ i = j := by
  simp only [place, Fin.mk.injEq]
  constructor
  · intro hm
    rw [← Nat.div_add_mod i pageSize, ← Nat.div_add_mod j pageSize, h, hm]
  · rintro rfl; rfl

@[simp] theorem size_setByte (m : Memory) (i : Nat) (b : UInt8) :
    (m.setByte i b).size = m.size := by
  simp [setByte, size]

@[simp] theorem max_setByte (m : Memory) (i : Nat) (b : UInt8) :
    (m.setByte i b).max = m.max := by
  simp [setByte]

theorem lt_size_iff {m : Memory} {i : Nat} : i < m.size ↔ i / pageSize < m.pages.size := by
  rw [size, Nat.div_lt_iff_lt_mul (by decide)]

theorem byteAt_setByte (m : Memory) (i j : Nat) (b : UInt8) :
    (m.setByte i b).byteAt j = if j = i ∧ i < m.size then b else m.byteAt j := by
  simp only [byteAt, setByte, Array.getElem?_modify]
  by_cases hp : i / pageSize = j / pageSize
  · have hplace := place_eq_iff hp.symm
    by_cases hlt : j / pageSize < m.pages.size
    · simp only [hp, if_true, Array.getElem?_eq_getElem hlt, Option.map_some, Page.get_set,
        hplace, lt_size_iff, hlt, and_true]
    · rw [Array.getElem?_eq_none (Nat.le_of_not_lt hlt)]
      simp [hp, lt_size_iff, hlt]
  · have hne : j ≠ i := fun h => hp (by rw [h])
    simp [hp, hne]

@[simp] theorem size_write (m : Memory) (i : Nat) (bs : List UInt8) :
    (m.write i bs).size = m.size := by
  induction bs generalizing m i with
  | nil => rfl
  | cons b bs ih => rw [write, ih, size_setByte]

@[simp] theorem max_write (m : Memory) (i : Nat) (bs : List UInt8) :
    (m.write i bs).max = m.max := by
  induction bs generalizing m i with
  | nil => rfl
  | cons b bs ih => rw [write, ih, max_setByte]

/-- A write inside the memory puts its bytes in place and leaves all others. -/
theorem byteAt_write (m : Memory) (i j : Nat) (bs : List UInt8) (h : i + bs.length ≤ m.size) :
    (m.write i bs).byteAt j =
      if i ≤ j ∧ j < i + bs.length then bs.getD (j - i) 0 else m.byteAt j := by
  induction bs generalizing m i with
  | nil =>
    rw [if_neg (by simp only [List.length_nil]; omega)]; rfl
  | cons b bs ih =>
    simp only [List.length_cons] at h ⊢
    rw [write, ih _ _ (by rw [size_setByte]; omega), byteAt_setByte]
    rcases Nat.lt_trichotomy j i with hj | rfl | hj
    · rw [if_neg (by omega), if_neg (by omega), if_neg (by omega)]
    · rw [if_neg (by omega), if_pos ⟨rfl, by omega⟩, if_pos (by omega)]
      simp
    · by_cases hin : j < i + (bs.length + 1)
      · rw [if_pos (by omega), if_pos (by omega)]
        have : j - i = (j - (i + 1)) + 1 := by omega
        rw [this, List.getD_cons_succ]
      · rw [if_neg (by omega), if_neg (by omega), if_neg (by omega)]

@[simp] theorem length_read (m : Memory) (i n : Nat) : (m.read i n).length = n := by
  simp [read]

theorem read_write (m : Memory) (i : Nat) (bs : List UInt8) (h : i + bs.length ≤ m.size) :
    (m.write i bs).read i bs.length = bs := by
  apply List.ext_getElem (by simp)
  intro k hk _
  simp only [length_read] at hk
  simp only [read, List.getElem_map, List.getElem_range]
  rw [byteAt_write m i _ bs h, if_pos (by omega)]
  simp [List.getD, hk]

@[simp] theorem size_grow (m : Memory) (n : Nat) : (m.grow n).size = m.size + n * pageSize := by
  simp [grow, size, Nat.add_mul]

@[simp] theorem max_grow (m : Memory) (n : Nat) : (m.grow n).max = m.max := by
  cases m
  rfl

theorem byteAt_grow (m : Memory) (n i : Nat) : (m.grow n).byteAt i = m.byteAt i := by
  simp only [byteAt, grow, Array.getElem?_append, Array.getElem?_replicate]
  by_cases h : i / pageSize < m.pages.size
  · simp [h]
  · rw [if_neg h, Array.getElem?_eq_none (Nat.le_of_not_lt h)]
    by_cases hn : i / pageSize - m.pages.size < n
    · simp [hn, Page.get_zero]
    · simp [hn]

end Memory

/-! ## Numbers in memory -/

/-- The `n` low bytes of a number, the lowest first. -/
def bytesOf : (n : Nat) → Nat → List UInt8
  | 0, _ => []
  | n + 1, v => UInt8.ofNat v :: bytesOf n (v / 256)

/-- The number that bytes stand for, the lowest first. -/
def ofBytes : List UInt8 → Nat
  | [] => 0
  | b :: bs => b.toNat + 256 * ofBytes bs

@[simp] theorem length_bytesOf (n v : Nat) : (bytesOf n v).length = n := by
  induction n generalizing v with
  | zero => rfl
  | succ n ih => simp [bytesOf, ih]

theorem ofBytes_bytesOf (n v : Nat) : ofBytes (bytesOf n v) = v % 1 <<< (8 * n) := by
  induction n generalizing v with
  | zero => simp [bytesOf, ofBytes, Nat.mod_one]
  | succ n ih =>
    have hbits : 1 <<< (8 * (n + 1)) = 256 * 1 <<< (8 * n) := by
      rw [Nat.mul_succ, Nat.shiftLeft_add, Nat.shiftLeft_eq _ 8, Nat.mul_comm]
    rw [bytesOf, ofBytes, ih, UInt8.toNat_ofNat', hbits, Nat.mod_mul]

end WasmGuest.Machine
