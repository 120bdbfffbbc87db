import WasmGuest.Proofs.Guest.Lists
import WasmGuest.Proofs.Instance.Session
import WasmGuest.Proofs.Scenario.Numbers
import WasmGuest.Proofs.Scenario.Reading
import WasmGuest.Scenario.Modules

/-!
# The Pythagorean check

The shipped check squares three sides and compares, in words of 32 bits.  Two
sides of an equation that differ by a multiple of `2 ^ 32` are one word, so the
check says yes to every right triangle, and to some that are none.

* `ofImage_pythagText`: the text is read as `pythagModule`, which is valid.
* `call_isPythag`: what a call of the function comes to.
* `Collides`: the sides for which the check is wrong.
* `ChecksSquares` is what the invocations on an instance give, and `checks_squares`
  proves it for every store of an instance.
-/

namespace WasmGuest

open Wasm
open Machine

namespace Scenario

namespace Pythagoras

/-! ## The module -/

/-- Compare the sum of the squares of the first two parameters with that of the third. -/
def isPythag : Func where
  type := ⟨[.i32, .i32, .i32], [.i32]⟩
  locals := []
  body :=
    [.localGet 0, .localGet 0, .numeric (.intBinary .w32 .mul),
      .localGet 1, .localGet 1, .numeric (.intBinary .w32 .mul),
      .numeric (.intBinary .w32 .add),
      .localGet 2, .localGet 2, .numeric (.intBinary .w32 .mul),
      .numeric (.intCompare .w32 .eq)]

end Pythagoras

open Pythagoras in
def pythagModule : Wasm.Module where
  funcs := [isPythag]
  exports := [⟨"is_pythag", .func 0⟩]

theorem validate_pythagModule : pythagModule.validate = .ok () := by
  rfl

set_option maxRecDepth 20000 in
/-- The characters of the text are parsed as the module. -/
theorem parse_pythagText : ∃ cs, pythagText = String.ofList ('(' :: cs) ∧
    Wasm.Module.ofText ('(' :: cs) = .ok pythagModule := by
  refine ⟨_, by unfold pythagText; rfl, ?_⟩
  rfl

/-- The text is prepared as the module. -/
theorem ofImage_pythagText (config : Config) :
    Prepared.ofImage config (.ofText pythagText) = .ok ⟨config, pythagModule⟩ := by
  obtain ⟨cs, htext, hread⟩ := parse_pythagText
  exact Prepared.ofImage_ofText config htext hread validate_pythagModule

namespace Pythagoras

/-! ## The call -/

section Call

variable {c : Code}

/-- Past its entry, the function runs to its end: nothing in it looks at the limit. -/
theorem execAll_isPythag (calls : Nat → List Val → Store → CallResult) (x y z : UInt32)
    (st : Store) : execAll c calls isPythag.body ⟨[], #[.i32 x, .i32 y, .i32 z], st⟩ =
      .next ⟨[boolVal (x * x + y * y == z * z)], #[.i32 x, .i32 y, .i32 z], st.spend 11⟩ := by
  simp only [isPythag, execAll_localGet, execAll_binary, execAll_compare, Word32.binary,
    Word32.compare, Store.spend_spend, Nat.reduceAdd, List.getElem?_toArray,
    List.getElem?_cons_zero, List.getElem?_cons_succ]
  rfl

theorem call_isPythag (hfn : c.funcs[0]? = some isPythag) (x y z : UInt32) (st : Store) :
    (∃ after, call c 0 [.i32 x, .i32 y, .i32 z] st.refuel =
        .values [boolVal (x * x + y * y == z * z)] after) ∧ (∀ l, c.limit = some l → 1 < l) ∨
      (∃ after, call c 0 [.i32 x, .i32 y, .i32 z] st.refuel =
        .halt (.trap .outOfFuel) after) ∧ ∃ l, c.limit = some l ∧ l ≤ 1 := by
  have hspent : (st.refuel.settle.spend 1).spent = 1 := rfl
  rw [call, depthBound, invoke_succ]
  cases hout : c.exhausted (st.refuel.settle.spend 1) with
  | true =>
    obtain ⟨l, hlimit, hl⟩ := Code.exhausted_iff.1 hout
    exact .inr ⟨⟨_, rfl⟩, l, hlimit, hl⟩
  | false =>
    have hlocals : [Val.i32 x, .i32 y, .i32 z].reverse.reverse.toArray ++
        (isPythag.locals.map Val.zero).toArray = #[.i32 x, .i32 y, .i32 z] := rfl
    simp only [Bool.false_eq_true, if_false, hfn, hlocals, execAll_isPythag]
    exact .inl ⟨⟨_, rfl⟩, Code.not_exhausted_iff.1 hout⟩

end Call

/-! ## Squares as words -/

/-- The squares of two sides add up to that of the third. -/
def IsRight (a b c : Int32) : Prop :=
  a.toInt * a.toInt + b.toInt * b.toInt = c.toInt * c.toInt

/-- The squares of two sides add up to that of the third modulo `2 ^ 32`. -/
def IsRightModulo (a b c : Int32) : Prop :=
  (2 ^ 32 : Int) ∣ a.toInt * a.toInt + b.toInt * b.toInt - c.toInt * c.toInt

instance (a b c : Int32) : Decidable (IsRight a b c) :=
  inferInstanceAs (Decidable (_ = _))

instance (a b c : Int32) : Decidable (IsRightModulo a b c) :=
  inferInstanceAs (Decidable (_ ∣ _))

/-- The sides make a right triangle modulo `2 ^ 32` only. -/
def Collides (a b c : Int32) : Prop :=
  ¬ IsRight a b c ∧ IsRightModulo a b c

section Words

variable {a b c : Int32}

/-- Sums of squares are one word if they are the same modulo `2 ^ 32`. -/
theorem squares_beq_iff :
    (a.toUInt32 * a.toUInt32 + b.toUInt32 * b.toUInt32 == c.toUInt32 * c.toUInt32) = true ↔
      IsRightModulo a b c := by
  have hwords : a.toUInt32 * a.toUInt32 + b.toUInt32 * b.toUInt32 = c.toUInt32 * c.toUInt32 ↔
      a * a + b * b = c * c := by
    rw [← Int32.toUInt32_mul, ← Int32.toUInt32_mul, ← Int32.toUInt32_mul, ← Int32.toUInt32_add]
    exact ⟨fun h => congrArg UInt32.toInt32 h, congrArg Int32.toUInt32⟩
  rw [beq_iff_eq, hwords, ← Int32.toInt_inj, Int32.toInt_add, Int32.toInt_mul, Int32.toInt_mul,
    Int32.toInt_mul, Int.add_bmod_bmod, Int.bmod_add_bmod,
    Int.bmod_eq_bmod_iff_bmod_sub_eq_zero, ← Int.dvd_iff_bmod_eq_zero]
  rfl

/-- Every right triangle is one modulo `2 ^ 32`; the others that are one collide. -/
theorem isRightModulo_iff : IsRightModulo a b c ↔ IsRight a b c ∨ Collides a b c := by
  constructor
  · intro hmodulo
    by_cases hright : IsRight a b c
    · exact .inl hright
    · exact .inr ⟨hright, hmodulo⟩
  · rintro (hright | ⟨-, hmodulo⟩)
    · rw [IsRightModulo, hright, Int.sub_self]
      exact Int.dvd_zero _
    · exact hmodulo

/-- Squares below `2 ^ 32` are words themselves. -/
theorem not_collides_of_small (hab : a.toInt * a.toInt + b.toInt * b.toInt < 2 ^ 32)
    (hc : c.toInt * c.toInt < 2 ^ 32) : ¬ Collides a b c := by
  rintro ⟨hother, k, hk⟩
  rw [IsRight] at hother
  have ha := mul_self_nonneg a.toInt
  have hb := mul_self_nonneg b.toInt
  have hc' := mul_self_nonneg c.toInt
  omega

end Words

end Pythagoras

/-! ## The invocations -/

open Pythagoras

/-- Ask whether two sides and a third make a right triangle. -/
def triangleCall (a b c : Int32) (label : Option String) (separator : Separator) : Invocation where
  target := "is_pythag"
  args := [.i32 a, .i32 b, .i32 c]
  returns := .bool
  label := label
  separator := separator

/-- What the check comes to under a configuration. -/
structure ChecksSquares (config : Config) (a b c : Int32) (result : Except Error Outcome) :
    Prop where
  /-- Entering the function is all that a limit has to cover. -/
  returns_iff : (∃ o, result = .ok o) ↔ ∀ limit, config.fuel = some limit → 1 < limit.toNat
  /-- The answer compares the squares modulo `2 ^ 32`. -/
  answers : ∀ o, result = .ok o → ∃ yes, o.value = some (.bool yes) ∧
    (yes = true ↔ IsRightModulo a b c)
  /-- The answer is right unless the squares collide, and then it is wrong. -/
  right_iff : ∀ o, result = .ok o →
    ((o.value = some (.bool true) ↔ IsRight a b c) ↔ ¬ Collides a b c)
  right_of_small : a.toInt * a.toInt + b.toInt * b.toInt < 2 ^ 32 → c.toInt * c.toInt < 2 ^ 32 →
    ∀ o, result = .ok o → (o.value = some (.bool true) ↔ IsRight a b c)

section

variable {i : Instance} {config : Config}

/-- What the check comes to follows from when it returns and what it compares. -/
theorem ChecksSquares.of_answers {a b c : Int32} {result : Except Error Outcome}
    (hreturns : (∃ o, result = .ok o) ↔ ∀ limit, config.fuel = some limit → 1 < limit.toNat)
    (hanswers : ∀ o, result = .ok o → ∃ yes, o.value = some (.bool yes) ∧
      (yes = true ↔ IsRightModulo a b c)) :
    ChecksSquares config a b c result := by
  have hright : ∀ o, result = .ok o →
      ((o.value = some (.bool true) ↔ IsRight a b c) ↔ ¬ Collides a b c) := by
    intro o ho
    obtain ⟨yes, hvalue, hyes⟩ := hanswers o ho
    rw [isRightModulo_iff] at hyes
    rw [hvalue, Option.some.injEq, Value.bool.injEq, hyes]
    constructor
    · intro hiff hcollides
      exact hcollides.1 (hiff.1 (.inr hcollides))
    · intro hnone
      rw [or_iff_left hnone]
  exact ⟨hreturns, hanswers, hright,
    fun hab hc o ho => (hright o ho).2 (not_collides_of_small hab hc)⟩

theorem checksSquares_invoke (h : i.prepared = ⟨config, pythagModule⟩) (a b c : Int32)
    (label : Option String) (separator : Separator) :
    ChecksSquares config a b c (i.invoke (triangleCall a b c label separator)).result := by
  have hbypasses : i.Bypasses (triangleCall a b c label separator) 0 := by
    refine ⟨⟨⟨[.i32, .i32, .i32], [.i32]⟩, ?_, rfl⟩, rfl⟩
    rw [h]
    rfl
  have hfn : i.prepared.code.funcs[0]? = some isPythag := by
    rw [h]
    rfl
  have hargs : passArgs i.prepared.code none (triangleCall a b c label separator).args
      i.store.refuel =
        ⟨.ok [.i32 a.toUInt32, .i32 b.toUInt32, .i32 c.toUInt32], i.store.refuel, [], []⟩ := rfl
  have hlimit := i.prepared.forall_limit_code_iff (P := (1 < ·))
  rw [h] at hlimit
  rw [hbypasses.invoke_eq.1, exchange]
  simp only [hargs]
  rcases call_isPythag hfn a.toUInt32 b.toUInt32 c.toUInt32 i.store with
    ⟨⟨after, hcall⟩, hfuel⟩ | ⟨⟨after, hcall⟩, l, hl, hspent⟩
  · rw [h] at hfuel
    simp only [hcall]
    refine .of_answers (iff_of_true ⟨_, rfl⟩ (hlimit.1 hfuel)) ?_
    rintro o ⟨⟩
    refine ⟨_, rfl, ?_⟩
    rw [← squares_beq_iff]
    cases a.toUInt32 * a.toUInt32 + b.toUInt32 * b.toUInt32 == c.toUInt32 * c.toUInt32 <;> decide
  · rw [h] at hl
    simp only [hcall]
    refine .of_answers (iff_of_false (by rintro ⟨o, ⟨⟩⟩) fun hfuel => ?_) (by rintro o ⟨⟩)
    exact absurd (hlimit.2 hfuel l hl) (Nat.not_lt_of_le hspent)

end

/-- The text of the module is prepared, and every instance of it, whatever its store, compares the
squares modulo `2 ^ 32`. -/
theorem checks_squares (config : Config) :
    ∃ p, Prepared.ofImage config (.ofText pythagText) = .ok p ∧
      (∃ fresh, p.instantiate = .ok fresh) ∧
      ∀ i : Instance, i.prepared = p → ∀ a b c label separator,
        ChecksSquares config a b c (i.invoke (triangleCall a b c label separator)).result :=
  ⟨_, ofImage_pythagText config, ⟨⟨_, default⟩, rfl⟩, fun _ h a b c label separator =>
    checksSquares_invoke h a b c label separator⟩

/-- A new instance with two units of fuel tells a right triangle with sides above `2 ^ 16` from one
that is none. -/
theorem checks_squares_large_sides : ∃ p fresh,
    Prepared.ofImage { fuel := some 2 } (.ofText pythagText) = .ok p ∧ p.instantiate = .ok fresh ∧
    (∃ o, (fresh.invoke (triangleCall (-120000) 160000 200000 none .eqEq)).result = .ok o ∧
      o.value = some (.bool true)) ∧
    ∃ o, (fresh.invoke (triangleCall 120000 160000 200001 none .eqEq)).result = .ok o ∧
      o.value = some (.bool false) := by
  obtain ⟨p, hp, ⟨fresh, hfresh⟩, hchecks⟩ := checks_squares { fuel := some 2 }
  have hall := hchecks fresh (Prepared.prepared_of_instantiate hfresh)
  have htriangle := hall (-120000) 160000 200000 none .eqEq
  have hother := hall 120000 160000 200001 none .eqEq
  refine ⟨p, fresh, hp, hfresh, ?_, ?_⟩
  · obtain ⟨o, ho⟩ := htriangle.returns_iff.2 (by rintro limit ⟨⟩; decide)
    obtain ⟨yes, hvalue, hyes⟩ := htriangle.answers o ho
    exact ⟨o, ho, by rw [hvalue, hyes.2 (by decide)]⟩
  · obtain ⟨o, ho⟩ := hother.returns_iff.2 (by rintro limit ⟨⟩; decide)
    obtain ⟨yes, hvalue, hyes⟩ := hother.answers o ho
    refine ⟨o, ho, ?_⟩
    rw [hvalue, Bool.eq_false_iff.2 (mt hyes.1 (by decide))]

/-- One side of `2 ^ 16` and two of zero are taken for a right triangle. -/
theorem collapsed_triangle_told_right : ∃ p fresh o,
    Prepared.ofImage {} (.ofText pythagText) = .ok p ∧ p.instantiate = .ok fresh ∧
    (fresh.invoke (triangleCall 65536 0 0 none .eq)).result = .ok o ∧
    o.value = some (.bool true) ∧
    ¬ IsRight 65536 0 0 := by
  refine ⟨_, _, _, ofImage_pythagText {}, rfl, rfl, rfl, by decide⟩

end Scenario

end WasmGuest
