import Mathlib.Data.List.Lex

/-!
# The order of texts by their bytes

Texts are compared character by character.  UTF-8 is made so that this is the
order of their bytes: of two characters the larger one begins with a larger byte,
or agrees with the smaller one up to a larger byte.

* `bytes` are the bytes of a text, and `BytesBefore` is the order by them.
* `lex_encode`: the bytes of the smaller character come first, whatever follows.
* `bytesBefore_iff_lt`: the two orders are the same.
-/

namespace WasmGuest.Text

/-- The bytes of a text in UTF-8. -/
def bytes (s : String) : List UInt8 :=
  s.toByteArray.data.toList

/-- The first byte in which two texts differ is smaller in the first text, or this text ends before
it. -/
def BytesBefore (s t : String) : Prop :=
  List.Lex (· < ·) (bytes s) (bytes t)

theorem bytes_eq_flatMap (s : String) : bytes s = s.toList.flatMap String.utf8EncodeChar := by
  rw [bytes, ← String.utf8Encode_toList]
  exact List.toList_data_toByteArray

/-- Bytes are compared as numbers. -/
theorem lex_ofNat_cons_iff {m n : Nat} (hm : m < 256) (hn : n < 256) {xs ys : List UInt8} :
    List.Lex (· < ·) (UInt8.ofNat m :: xs) (UInt8.ofNat n :: ys) ↔
      m < n ∨ m = n ∧ List.Lex (· < ·) xs ys := by
  have hm' : (UInt8.ofNat m).toNat = m := UInt8.toNat_ofNat_of_lt' hm
  have hn' : (UInt8.ofNat n).toNat = n := UInt8.toNat_ofNat_of_lt' hn
  rw [List.cons_lex_cons_iff, UInt8.lt_iff_toNat_lt, ← UInt8.toNat_inj, hm', hn']

theorem toNat_val_lt (c : Char) : c.val.toNat < 0x110000 := by
  have h := c.valid
  simp only [UInt32.isValidChar, Nat.isValidChar] at h
  omega

/-- The bytes of the smaller character come first, whatever follows. -/
theorem lex_encode {c d : Char} (h : c < d) (xs ys : List UInt8) :
    List.Lex (· < ·) (String.utf8EncodeChar c ++ xs) (String.utf8EncodeChar d ++ ys) := by
  have hcd : c.val.toNat < d.val.toNat := h
  have hd := toNat_val_lt d
  rw [String.utf8EncodeChar, String.utf8EncodeChar]
  generalize c.val.toNat = m at hcd ⊢
  generalize d.val.toNat = n at hcd hd ⊢
  have hdigits (k : Nat) : k / 4096 = k / 64 / 64 ∧ k / 262144 = k / 64 / 64 / 64 := by
    omega
  simp only [hdigits]
  -- Either the first bytes tell the numbers of bytes apart, or the bytes are the digits of the
  -- characters to the base 64, behind the same marks.
  split_ifs <;> simp (disch := omega) only [List.cons_append, List.nil_append, lex_ofNat_cons_iff] <;>
    omega

theorem lex_flatMap_encode {cs ds : List Char} (h : List.Lex (· < ·) cs ds) :
    List.Lex (· < ·) (cs.flatMap String.utf8EncodeChar) (ds.flatMap String.utf8EncodeChar) := by
  induction h with
  | @nil d ds =>
    rw [List.flatMap_nil, List.flatMap_cons]
    cases hd : String.utf8EncodeChar d with
    | nil => exact absurd hd String.utf8EncodeChar_ne_nil
    | cons b bs => exact .nil
  | rel hlt => exact lex_encode hlt _ _
  | cons _ ih => exact List.Lex.append_left _ ih _

theorem bytesBefore_of_lt {s t : String} (h : s < t) : BytesBefore s t := by
  rw [BytesBefore, bytes_eq_flatMap, bytes_eq_flatMap]
  exact lex_flatMap_encode (List.lex_lt.2 h)

theorem BytesBefore.asymm {s t : String} (h : BytesBefore s t) : ¬ BytesBefore t s :=
  (List.Lex.asymm (fun a b : UInt8 => a < b)).asymm _ _ h

/-- Texts come in the order of their bytes. -/
theorem bytesBefore_iff_lt {s t : String} : BytesBefore s t ↔ s < t := by
  refine ⟨fun h => ?_, bytesBefore_of_lt⟩
  by_contra hst
  have hts : ¬ t < s := fun hts => h.asymm (bytesBefore_of_lt hts)
  obtain rfl : s = t := String.le_antisymm (String.not_lt.1 hts) (String.not_lt.1 hst)
  exact h.asymm h

end WasmGuest.Text
