import Mathlib.Algebra.Order.Ring.Int
import WasmGuest.Floating.Shortest

/-!
# Decimal forms read back

A finite magnitude is the one that its shortest decimal form is read as.  The
search for that form only takes candidates that read back; the exact form that
stands behind the search reads back because rounding changes no number of the
format.

* `nearest_mul`: rounding a quotient does not depend on a common factor.
* `nearest_ticks`: rounding the ticks of a magnitude gives the magnitude.
* `ofDecimal_exact`, `ofDecimal_shortest`: the exact form and the shortest form.
* `ofDecimal_mul_pow`: zeros at the end may stand for the exponent.
-/

namespace WasmGuest.Floating.Format

/-! ## Rounding -/

/-- A common factor of numerator and denominator changes nothing. -/
theorem nearest_mul (f : Format) (num den : Nat) {k : Nat} (hk : 0 < k) :
    f.nearest (num * k) (den * k) = f.nearest num den := by
  have hunit (shift : Nat) : (den * k) <<< shift = (den <<< shift) * k := by
    rw [Nat.shiftLeft_eq, Nat.shiftLeft_eq, Nat.mul_right_comm]
  have hcut (unit : Nat) : num * k / (unit * k) = num / unit := Nat.mul_div_mul_right _ _ hk
  have hrest (unit : Nat) : 2 * (num * k % (unit * k)) = 2 * (num % unit) * k := by
    rw [Nat.mul_mod_mul_right, Nat.mul_assoc]
  simp only [nearest, hunit, hcut, hrest, Nat.mul_lt_mul_right hk, Nat.mul_left_inj hk.ne']

/-- A number that the unit of its length divides is cut without a rest. -/
theorem nearest_shiftLeft (f : Format) {n shift : Nat}
    (h : (n <<< shift).log2 - f.fractionBits = shift)
    (hfinite : shift <<< f.fractionBits + n ≤ f.infinity) :
    f.nearest (n <<< shift) 1 = shift <<< f.fractionBits + n := by
  have hpos : 0 < 2 ^ shift := Nat.two_pow_pos shift
  have hcut : n <<< shift / 1 <<< shift = n := by
    rw [Nat.shiftLeft_eq, Nat.one_shiftLeft, Nat.mul_div_cancel n hpos]
  have hrest : 2 * (n <<< shift % 1 <<< shift) = 0 := by
    rw [Nat.shiftLeft_eq, Nat.one_shiftLeft, Nat.mul_mod_left]
  have hunit : ¬ 1 <<< shift = 0 := by
    rw [Nat.one_shiftLeft]
    exact hpos.ne'
  simp only [nearest, Nat.div_one, h, hcut, hrest, hunit, Nat.not_lt_zero, false_and, or_self,
    if_false, Nat.min_eq_left hfinite]

/-- The exponent of a shifted significand that has one bit above the fraction. -/
theorem log2_significand {n b : Nat} (hlow : 2 ^ b ≤ n) (hhigh : n < 2 ^ (b + 1)) (k : Nat) :
    (n <<< k).log2 = b + k := by
  have hpos : 0 < n := Nat.lt_of_lt_of_le (Nat.two_pow_pos b) hlow
  rw [Nat.shiftLeft_eq, Nat.log2_eq_iff (Nat.mul_pos hpos (Nat.two_pow_pos k)).ne', Nat.pow_add]
  refine ⟨Nat.mul_le_mul_right _ hlow, ?_⟩
  rw [show b + k + 1 = b + 1 + k by omega, Nat.pow_add]
  exact Nat.mul_lt_mul_of_pos_right hhigh (Nat.two_pow_pos k)

/-- Rounding the ticks of a magnitude gives the magnitude. -/
theorem nearest_ticks (f : Format) {m : Nat} (h : m ≤ f.infinity) :
    f.nearest (f.ticks m) 1 = m := by
  have hm : m = (m >>> f.fractionBits) <<< f.fractionBits + m % 2 ^ f.fractionBits := by
    rw [Nat.shiftRight_eq_div_pow, Nat.shiftLeft_eq, Nat.div_add_mod']
  have hfraction : m % 2 ^ f.fractionBits < 2 ^ f.fractionBits :=
    Nat.mod_lt _ (Nat.two_pow_pos _)
  rw [ticks, Nat.one_shiftLeft]
  generalize m >>> f.fractionBits = exponent at hm ⊢
  generalize m % 2 ^ f.fractionBits = fraction at hm hfraction ⊢
  cases exponent with
  | zero =>
    rw [Nat.zero_shiftLeft, Nat.zero_add] at hm
    have hlog : (fraction <<< 0).log2 - f.fractionBits = 0 := by
      by_cases hzero : fraction = 0
      · rw [hzero]
        exact Nat.zero_sub _
      · have := (Nat.log2_lt hzero).2 hfraction
        rw [Nat.shiftLeft_zero]
        omega
    have hfinite : 0 <<< f.fractionBits + fraction ≤ f.infinity := by
      rwa [Nat.zero_shiftLeft, Nat.zero_add, ← hm]
    have hnearest := f.nearest_shiftLeft hlog hfinite
    rw [Nat.shiftLeft_zero, Nat.zero_shiftLeft, Nat.zero_add] at hnearest
    rw [if_pos rfl, hnearest, ← hm]
  | succ k =>
    have hlow : 2 ^ f.fractionBits ≤ 2 ^ f.fractionBits + fraction := Nat.le_add_right _ _
    have hhigh : 2 ^ f.fractionBits + fraction < 2 ^ (f.fractionBits + 1) := by
      rw [Nat.pow_succ]
      omega
    have hlog : ((2 ^ f.fractionBits + fraction) <<< k).log2 - f.fractionBits = k := by
      rw [log2_significand hlow hhigh k, Nat.add_sub_cancel_left]
    have hsum : k <<< f.fractionBits + (2 ^ f.fractionBits + fraction) = m := by
      rw [hm, Nat.shiftLeft_eq, Nat.shiftLeft_eq, Nat.succ_mul, Nat.add_assoc]
    rw [if_neg (Nat.succ_ne_zero k), Nat.add_sub_cancel, f.nearest_shiftLeft hlog (hsum ▸ h), hsum]

/-! ## The exact form -/

/-- The format has a fraction field, and exponents on both sides of zero. -/
structure Ample (f : Format) : Prop where
  fraction : 1 ≤ f.fractionBits
  exponent : 2 ≤ f.exponentBits

theorem ample_single : single.Ample := ⟨by decide, by decide⟩

theorem ample_double : double.Ample := ⟨by decide, by decide⟩

theorem unitLog_pos {f : Format} (hf : f.Ample) : 0 < f.unitLog := by
  have := hf.fraction
  rw [unitLog]
  omega

/-- A finite magnitude is below two to the number of exponents above zero. -/
theorem ticks_lt {f : Format} (hf : f.Ample) {m : Nat} (h : m < f.infinity) :
    f.ticks m < 2 ^ (f.unitLog + 2 ^ (f.exponentBits - 1)) := by
  have hhalf : 2 ^ f.exponentBits = 2 * 2 ^ (f.exponentBits - 1) := by
    rw [← Nat.pow_succ', Nat.succ_eq_add_one, Nat.sub_add_cancel (by have := hf.exponent; omega)]
  have htwo : 2 ≤ 2 ^ (f.exponentBits - 1) :=
    Nat.le_self_pow (by have := hf.exponent; omega) 2
  have hunit : f.unitLog + 2 ^ (f.exponentBits - 1) = f.fractionBits + 2 ^ f.exponentBits - 2 := by
    rw [unitLog, Nat.one_shiftLeft]
    omega
  have hexponent : m >>> f.fractionBits < 2 ^ f.exponentBits - 1 := by
    rw [Nat.shiftRight_eq_div_pow, Nat.div_lt_iff_lt_mul (Nat.two_pow_pos _)]
    rwa [infinity, Nat.shiftLeft_eq, Nat.one_shiftLeft] at h
  have hfraction : m % 2 ^ f.fractionBits < 2 ^ f.fractionBits :=
    Nat.mod_lt _ (Nat.two_pow_pos _)
  rw [ticks, Nat.one_shiftLeft, hunit]
  split
  · exact Nat.lt_of_lt_of_le hfraction (Nat.pow_le_pow_right (by decide) (by omega))
  · calc (2 ^ f.fractionBits + m % 2 ^ f.fractionBits) <<< (m >>> f.fractionBits - 1)
      _ < 2 ^ (f.fractionBits + 1) * 2 ^ (m >>> f.fractionBits - 1) := by
        rw [Nat.shiftLeft_eq, Nat.pow_succ]
        exact Nat.mul_lt_mul_of_pos_right (by omega) (Nat.two_pow_pos _)
      _ = 2 ^ (f.fractionBits + 1 + (m >>> f.fractionBits - 1)) := (Nat.pow_add _ _ _).symm
      _ ≤ 2 ^ (f.fractionBits + 2 ^ f.exponentBits - 2) :=
        Nat.pow_le_pow_right (by decide) (by omega)

/-- A number whose leading digit is not out of range is rounded. -/
theorem ofDecimal_negSucc {f : Format} {digits e : Nat} (hpos : 0 < digits)
    (hhigh : (Nat.toDigits 10 digits).length + Int.negSucc e ≤ (2 ^ (f.exponentBits - 1) : Nat))
    (hlow : -(f.unitLog : Int) ≤ (Nat.toDigits 10 digits).length + Int.negSucc e) :
    f.ofDecimal digits (.negSucc e) = f.nearest (digits <<< f.unitLog) (10 ^ (e + 1)) := by
  rw [← Nat.one_shiftLeft] at hhigh
  simp only [ofDecimal]
  rw [if_neg hpos.ne', if_neg (Int.not_lt.2 hhigh), if_neg (Int.not_lt.2 hlow)]
  rfl

/-- The exact form of a finite magnitude reads back. -/
theorem ofDecimal_exact {f : Format} (hf : f.Ample) {m : Nat} (h : m < f.infinity)
    (hticks : f.ticks m ≠ 0) :
    f.ofDecimal (f.ticks m * Nat.pow 5 f.unitLog) (-f.unitLog) = m := by
  obtain ⟨u, hu⟩ := Nat.exists_eq_succ_of_ne_zero (unitLog_pos hf).ne'
  have hpos : 0 < f.ticks m * 5 ^ f.unitLog :=
    Nat.mul_pos (Nat.pos_of_ne_zero hticks) (Nat.pow_pos (by decide))
  have hlow : 0 < (Nat.toDigits 10 (f.ticks m * 5 ^ f.unitLog)).length := Nat.length_toDigits_pos
  have hhigh : (Nat.toDigits 10 (f.ticks m * 5 ^ f.unitLog)).length ≤
      f.unitLog + 2 ^ (f.exponentBits - 1) := by
    rw [Nat.length_toDigits_le_iff (by decide) (Nat.add_pos_left (unitLog_pos hf) _)]
    calc f.ticks m * 5 ^ f.unitLog
      _ < 2 ^ (f.unitLog + 2 ^ (f.exponentBits - 1)) * 5 ^ f.unitLog :=
        Nat.mul_lt_mul_of_pos_right (ticks_lt hf h) (Nat.pow_pos (by decide))
      _ ≤ 2 ^ (f.unitLog + 2 ^ (f.exponentBits - 1)) * 5 ^ (f.unitLog + 2 ^ (f.exponentBits - 1)) :=
        Nat.mul_le_mul_left _ (Nat.pow_le_pow_right (by decide) (Nat.le_add_right _ _))
      _ = 10 ^ (f.unitLog + 2 ^ (f.exponentBits - 1)) := (Nat.mul_pow 2 5 _).symm
  have hexponent : (-(f.unitLog : Int)) = .negSucc u := by
    rw [hu]
    rfl
  have hten : f.ticks m * 5 ^ f.unitLog * 2 ^ f.unitLog = f.ticks m * 10 ^ f.unitLog := by
    rw [Nat.mul_assoc, ← Nat.mul_pow]
  show f.ofDecimal (f.ticks m * 5 ^ f.unitLog) (-f.unitLog) = m
  rw [hexponent, ofDecimal_negSucc hpos, Nat.shiftLeft_eq, hten, ← Nat.succ_eq_add_one, ← hu]
  · have hone := f.nearest_mul (f.ticks m) 1 (Nat.pow_pos (n := f.unitLog) (by decide : 0 < 10))
    rwa [Nat.one_mul, f.nearest_ticks h.le] at hone
  · rw [← hexponent]
    omega
  · rw [← hexponent]
    omega

/-! ## The shortest form -/

theorem ticks_ne_zero {f : Format} {m : Nat} (h : m ≤ f.infinity) (hm : m ≠ 0) : f.ticks m ≠ 0 := by
  intro hticks
  have hzero : f.ticks 0 = 0 := by
    rw [ticks, Nat.zero_shiftRight, Nat.zero_mod, if_pos rfl]
  have hround := f.nearest_ticks h
  rw [hticks, ← hzero, f.nearest_ticks (Nat.zero_le _)] at hround
  exact hm hround.symm

/-- The shortest form of a finite magnitude reads back. -/
theorem ofDecimal_shortest {f : Format} (hf : f.Ample) {m : Nat} (h : m < f.infinity) :
    f.ofDecimal (f.shortest m).digits (f.shortest m).exponent = m := by
  by_cases hm : m = 0
  · rw [shortest, if_pos hm, hm]
    rfl
  · have hshortest : f.shortest m =
        (f.firstCandidate m 18 (leadingExponent (f.ticks m) (1 <<< f.unitLog) + 1)).getD
          ⟨f.ticks m * Nat.pow 5 f.unitLog, -f.unitLog⟩ := by
      rw [shortest, if_neg hm]
    rw [hshortest]
    cases hfound : f.firstCandidate m 18 (leadingExponent (f.ticks m) (1 <<< f.unitLog) + 1) with
    | some d => exact ofDecimal_firstCandidate hfound
    | none => exact ofDecimal_exact hf h (ticks_ne_zero h.le hm)

/-! ## Zeros for the exponent -/

theorem length_toDigits_mul_pow {n : Nat} (hn : 0 < n) (e : Nat) :
    (Nat.toDigits 10 (n * 10 ^ e)).length = (Nat.toDigits 10 n).length + e := by
  induction e with
  | zero => rw [Nat.pow_zero, Nat.mul_one, Nat.add_zero]
  | succ e ih =>
    have hpos : 0 < n * 10 ^ e := Nat.mul_pos hn (Nat.pow_pos (by decide))
    have hten : n * 10 ^ (e + 1) = 10 * (n * 10 ^ e) + 0 := by
      rw [Nat.pow_succ, ← Nat.mul_assoc, Nat.mul_comm _ 10, Nat.add_zero]
    rw [hten, ← Nat.toDigits_append_toDigits (by decide) hpos (by decide), List.length_append, ih]
    rfl

/-- A whole number is above every finite number, or is rounded. -/
theorem ofDecimal_ofNat {f : Format} {digits : Nat} (hdigits : digits ≠ 0) (e : Nat) :
    f.ofDecimal digits (.ofNat e) =
      if 1 <<< (f.exponentBits - 1) < (Nat.toDigits 10 digits).length + e then f.infinity
      else f.nearest ((digits * 10 ^ e) <<< f.unitLog) 1 := by
  have hhigh : ((1 <<< (f.exponentBits - 1) : Nat) : Int) <
      (Nat.toDigits 10 digits).length + Int.ofNat e ↔
        1 <<< (f.exponentBits - 1) < (Nat.toDigits 10 digits).length + e := by
    rw [← Int.ofNat_lt, Int.natCast_add]
    rfl
  have hlow : ¬ (Nat.toDigits 10 digits).length + Int.ofNat e < -(f.unitLog : Int) := by
    rw [Int.ofNat_eq_natCast]
    omega
  simp only [ofDecimal, if_neg hdigits, hhigh, if_neg hlow]
  rfl

/-- Zeros behind the digits stand for the exponent. -/
theorem ofDecimal_mul_pow (f : Format) (n e : Nat) :
    f.ofDecimal (n * 10 ^ e) 0 = f.ofDecimal n (.ofNat e) := by
  by_cases hn : n = 0
  · simp only [hn, Nat.zero_mul, ofDecimal, if_true]
  · have hne : n * 10 ^ e ≠ 0 := Nat.mul_ne_zero hn (Nat.pow_pos (by decide)).ne'
    have hzero := ofDecimal_ofNat (f := f) hne 0
    rw [length_toDigits_mul_pow (Nat.pos_of_ne_zero hn), Nat.pow_zero, Nat.mul_one, Nat.add_zero]
      at hzero
    rw [ofDecimal_ofNat hn, ← hzero]
    rfl

end WasmGuest.Floating.Format
