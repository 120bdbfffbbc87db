import Mathlib.Algebra.Order.Ring.Int
import WasmGuest.Instance

/-!
# Arguments against parameters

The arguments of an invocation are compared with the parameter types of its
export one by one, each against as many types as it takes.

* `Misfit` says that an argument does not fit one of its parameters, and
  `FirstMisfit` that it is the first one.
* `Compared` lists what a comparison may come to, and `compared_checkParams` is
  the induction over the arguments.  `Compared.unique` makes it the whole truth.
* `checkParams_eq_ok_iff`: the arguments fit exactly if the types that they take,
  one after the other, are the parameter types.
* `checkParamsWithin_eq`: the comparison never looks behind the last parameter.
-/

namespace WasmGuest

open Wasm (ValType)

/-- The number of parameters that arguments take. -/
def totalArity (args : List Value) : Nat :=
  (args.map Value.arity).sum

@[simp] theorem totalArity_nil : totalArity [] = 0 := rfl

@[simp] theorem totalArity_cons (v : Value) (vs : List Value) :
    totalArity (v :: vs) = v.arity + totalArity vs := by
  rw [totalArity, List.map_cons, List.sum_cons, totalArity]

theorem length_flatMap_slots (args : List Value) :
    (args.flatMap Value.slots).length = totalArity args := by
  induction args with
  | nil => rfl
  | cons v vs ih => rw [List.flatMap_cons, List.length_append, ih, totalArity_cons, Value.arity]

theorem foldr_arity (args : List Value) :
    args.foldr (fun v n => v.arity + n) 0 = totalArity args := by
  induction args with
  | nil => rfl
  | cons v vs ih => rw [List.foldr_cons, ih, totalArity_cons]

/-- All slots of a value have one type. -/
theorem Value.fits_iff {v : Value} {t : ValType} {j : Nat} (hj : j < v.arity) :
    v.fits t = true ↔ v.slots[j]? = some t := by
  cases v with
  | list xs =>
    obtain rfl | rfl : j = 0 ∨ j = 1 := by
      simp only [Value.arity, Value.slots, List.length_cons, List.length_nil] at hj
      omega
    all_goals simp [Value.fits, Value.slots, eq_comm]
  | _ =>
    obtain rfl : j = 0 := Nat.lt_one_iff.1 hj
    simp [Value.fits, Value.slots, eq_comm]

/-! ## Arguments that do not fit -/

/-- Argument `k` is `v`, the type at place `j` among its parameters is `t`, and `v` does not fit. -/
structure Misfit (args : List Value) (params : List ValType) (k j : Nat) (v : Value) (t : ValType) :
    Prop where
  argument : args[k]? = some v
  slot : j < v.arity
  /-- The parameters of an argument follow on those of the arguments before it. -/
  parameter : params[totalArity (args.take k) + j]? = some t
  unfit : v.slots[j]? ≠ some t

/-- Argument `k` is the first that does not fit, and `t` is the first type that it does not fit. -/
def FirstMisfit (args : List Value) (params : List ValType) (k : Nat) (v : Value) (t : ValType) :
    Prop :=
  ∃ j, Misfit args params k j v t ∧
    ∀ k' j' v' t', Misfit args params k' j' v' t' → k < k' ∨ k = k' ∧ j ≤ j'

section Misfit

variable {v w : Value} {vs args : List Value} {params : List ValType} {t : ValType} {k j : Nat}

theorem misfit_zero : Misfit (v :: vs) params 0 j w t ↔
    v = w ∧ j < v.arity ∧ params[j]? = some t ∧ v.slots[j]? ≠ some t := by
  constructor
  · rintro ⟨hv, hj, hparam, hunfit⟩
    obtain rfl : v = w := Option.some.inj hv
    rw [List.take_zero, totalArity_nil, Nat.zero_add] at hparam
    exact ⟨rfl, hj, hparam, hunfit⟩
  · rintro ⟨rfl, hj, hparam, hunfit⟩
    refine ⟨rfl, hj, ?_, hunfit⟩
    rw [List.take_zero, totalArity_nil, Nat.zero_add, hparam]

theorem misfit_succ : Misfit (v :: vs) params (k + 1) j w t ↔
    Misfit vs (params.drop v.arity) k j w t := by
  have hplace : params[totalArity ((v :: vs).take (k + 1)) + j]? =
      (params.drop v.arity)[totalArity (vs.take k) + j]? := by
    rw [List.take_succ_cons, totalArity_cons, List.getElem?_drop, Nat.add_assoc]
  constructor
  · rintro ⟨hv, hj, hparam, hunfit⟩
    exact ⟨hv, hj, hplace ▸ hparam, hunfit⟩
  · rintro ⟨hv, hj, hparam, hunfit⟩
    exact ⟨hv, hj, hplace.trans hparam, hunfit⟩

/-- If the types that the arguments take are the parameter types, every argument fits. -/
theorem not_misfit (h : args.flatMap Value.slots = params) : ¬ Misfit args params k j w t := by
  induction args generalizing k params with
  | nil => exact fun hmisfit => nomatch hmisfit.argument
  | cons v vs ih =>
    rw [List.flatMap_cons] at h
    cases k with
    | zero =>
      rw [misfit_zero]
      rintro ⟨-, hj, hparam, hunfit⟩
      rw [← h, List.getElem?_append_left hj] at hparam
      exact hunfit hparam
    | succ k =>
      rw [misfit_succ]
      refine ih ?_
      rw [← h, Value.arity, List.drop_left]

theorem FirstMisfit.unique {k' : Nat} {w' : Value} {t' : ValType}
    (h : FirstMisfit args params k w t) (h' : FirstMisfit args params k' w' t') :
    k = k' ∧ w = w' ∧ t = t' := by
  obtain ⟨j, hmisfit, hfirst⟩ := h
  obtain ⟨j', hmisfit', hfirst'⟩ := h'
  have hle := hfirst _ _ _ _ hmisfit'
  have hle' := hfirst' _ _ _ _ hmisfit
  obtain rfl : k = k' := by omega
  obtain rfl : j = j' := by omega
  exact ⟨rfl, Option.some.inj (hmisfit.argument.symm.trans hmisfit'.argument),
    Option.some.inj (hmisfit.parameter.symm.trans hmisfit'.parameter)⟩

/-- If the first argument does not fit, the first of its types that is wrong is the first misfit. -/
theorem firstMisfit_zero (hfind : (params.take v.arity).find? (!v.fits ·) = some t) :
    FirstMisfit (v :: vs) params 0 v t := by
  obtain ⟨hunfit, j, hj, hparam, hbefore⟩ := List.find?_eq_some_iff_getElem.1 hfind
  have hslot : j < v.arity := by
    rw [List.length_take] at hj
    omega
  have hget : params[j]? = some t := by
    rw [← List.getElem?_take_of_lt hslot, List.getElem?_eq_getElem hj, hparam]
  refine ⟨j, misfit_zero.2 ⟨rfl, hslot, hget, ?_⟩, ?_⟩
  · intro hsame
    rw [(Value.fits_iff hslot).2 hsame] at hunfit
    cases hunfit
  · intro k' j' v' t' hmisfit
    cases k' with
    | succ k' => exact .inl (Nat.succ_pos k')
    | zero =>
      obtain ⟨-, hslot', hget', hunfit'⟩ := misfit_zero.1 hmisfit
      refine .inr ⟨rfl, ?_⟩
      by_contra hlt
      have hlt : j' < j := Nat.lt_of_not_le hlt
      have hfits := hbefore j' hlt
      have hsame : (params.take v.arity)[j'] = t' := by
        rw [← List.getElem?_take_of_lt hslot', List.getElem?_eq_getElem (by omega)] at hget'
        exact Option.some.inj hget'
      rw [hsame, Bool.not_not] at hfits
      exact hunfit' ((Value.fits_iff hslot').1 hfits)

/-- If the first argument fits, the misfits are those of the others. -/
theorem firstMisfit_succ (hfits : params.take v.arity = v.slots)
    (h : FirstMisfit vs (params.drop v.arity) k w t) :
    FirstMisfit (v :: vs) params (k + 1) w t := by
  obtain ⟨j, hmisfit, hfirst⟩ := h
  refine ⟨j, misfit_succ.2 hmisfit, fun k' j' v' t' hmisfit' => ?_⟩
  cases k' with
  | zero =>
    obtain ⟨-, hslot, hparam, hunfit⟩ := misfit_zero.1 hmisfit'
    rw [← hfits, List.getElem?_take_of_lt hslot] at hunfit
    exact absurd hparam hunfit
  | succ k' =>
    have := hfirst _ _ _ _ (misfit_succ.1 hmisfit')
    omega

end Misfit

/-! ## The comparison -/

/-- What a comparison of arguments with parameter types comes to: their numbers differ, some
argument does not fit, or they take exactly these types. -/
inductive Compared (args : List Value) (params : List ValType) : Except CallError Unit → Prop where
  | arity (hcount : totalArity args ≠ params.length) :
      Compared args params (.error (.arityMismatch params.length (totalArity args)))
  | type {k : Nat} {v : Value} {t : ValType} (hcount : totalArity args = params.length)
      (hmisfit : FirstMisfit args params k v t) :
      Compared args params (.error (.typeMismatch k t.name v.kind))
  | fits (h : args.flatMap Value.slots = params) : Compared args params (.ok ())

theorem Compared.unique {args : List Value} {params : List ValType} {r r' : Except CallError Unit}
    (h : Compared args params r) (h' : Compared args params r') : r = r' := by
  have hcount (hfits : args.flatMap Value.slots = params) : totalArity args = params.length := by
    rw [← length_flatMap_slots, hfits]
  have hnone {k v t} (hfits : args.flatMap Value.slots = params) :
      ¬ FirstMisfit args params k v t := fun ⟨_, hmisfit, _⟩ => not_misfit hfits hmisfit
  cases h with
  | arity hne =>
    cases h' with
    | arity => rfl
    | type heq => exact absurd heq hne
    | fits hfits => exact absurd (hcount hfits) hne
  | type heq hmisfit =>
    cases h' with
    | arity hne => exact absurd heq hne
    | type _ hmisfit' =>
      obtain ⟨rfl, rfl, rfl⟩ := hmisfit.unique hmisfit'
      rfl
    | fits hfits => exact absurd hmisfit (hnone hfits)
  | fits hfits =>
    cases h' with
    | arity hne => exact absurd (hcount hfits) hne
    | type _ hmisfit => exact absurd hmisfit (hnone hfits)
    | fits => rfl

/-- The types that an argument is compared with are its own if it fits all of them. -/
theorem take_eq_slots {v : Value} {params : List ValType} (hlen : v.arity ≤ params.length)
    (hfind : (params.take v.arity).find? (!v.fits ·) = none) : params.take v.arity = v.slots := by
  refine List.ext_getElem (by rw [List.length_take, Nat.min_eq_left hlen, Value.arity]) ?_
  intro j hj hj'
  have hfits := List.find?_eq_none.1 hfind _ (List.getElem_mem hj)
  rw [Bool.not_eq_true, Bool.not_eq_false', Value.fits_iff hj'] at hfits
  rw [List.getElem?_eq_getElem hj'] at hfits
  exact (Option.some.inj hfits).symm

/-- The walk over the arguments finds the first misfit; it starts at argument `index`. -/
theorem checkTypes_cases (index : Nat) {args : List Value} {params : List ValType}
    (hcount : totalArity args = params.length) :
    (args.flatMap Value.slots = params ∧ checkTypes index args params = .ok ()) ∨
      ∃ k v t, FirstMisfit args params k v t ∧
        checkTypes index args params = .error (.typeMismatch (index + k) t.name v.kind) := by
  induction args generalizing index params with
  | nil => exact .inl ⟨(List.eq_nil_of_length_eq_zero hcount.symm).symm, rfl⟩
  | cons v vs ih =>
    rw [totalArity_cons] at hcount
    rw [checkTypes]
    cases hfind : (params.take v.arity).find? (!v.fits ·) with
    | some t => exact .inr ⟨0, v, t, firstMisfit_zero hfind, rfl⟩
    | none =>
      have hslots := take_eq_slots (by omega) hfind
      have hrest : totalArity vs = (params.drop v.arity).length := by
        rw [List.length_drop]
        omega
      rcases ih (index + 1) hrest with ⟨hfits, hok⟩ | ⟨k, w, t, hmisfit, herror⟩
      · refine .inl ⟨?_, hok⟩
        rw [List.flatMap_cons, hfits, ← hslots, List.take_append_drop]
      · refine .inr ⟨k + 1, w, t, firstMisfit_succ hslots hmisfit, ?_⟩
        rw [show index + (k + 1) = index + 1 + k by omega]
        exact herror

/-- The walk over the arguments in which a look behind the last parameter has no result. -/
def checkTypesWithin : (index : Nat) → List Value → List ValType → Option (Except CallError Unit)
  | _, [], _ => some (.ok ())
  | index, v :: vs, types =>
    if types.length < v.arity then none
    else match (types.take v.arity).find? (!v.fits ·) with
      | some t => some (.error (.typeMismatch index t.name v.kind))
      | none => checkTypesWithin (index + 1) vs (types.drop v.arity)

/-- Once the numbers agree the walk never looks behind the last parameter. -/
theorem checkTypesWithin_eq (index : Nat) {args : List Value} {params : List ValType}
    (hcount : totalArity args = params.length) :
    checkTypesWithin index args params = some (checkTypes index args params) := by
  induction args generalizing index params with
  | nil => rfl
  | cons v vs ih =>
    rw [totalArity_cons] at hcount
    have hrest : totalArity vs = (params.drop v.arity).length := by
      rw [List.length_drop]
      omega
    rw [checkTypesWithin, checkTypes, if_neg (by omega)]
    cases (params.take v.arity).find? (!v.fits ·) with
    | some t => rfl
    | none => exact ih (index + 1) hrest

theorem compared_checkParams (args : List Value) (params : List ValType) :
    Compared args params (checkParams args params) := by
  rw [checkParams, foldr_arity]
  by_cases hcount : totalArity args = params.length
  · rw [if_neg (not_not_intro hcount)]
    rcases checkTypes_cases 0 hcount with ⟨hfits, hok⟩ | ⟨k, v, t, hmisfit, herror⟩
    · rw [hok]
      exact .fits hfits
    · rw [herror, Nat.zero_add]
      exact .type hcount hmisfit
  · rw [if_pos hcount]
    exact .arity hcount

/-- The comparison in which a look behind the last parameter has no result. -/
def checkParamsWithin (args : List Value) (params : List ValType) :
    Option (Except CallError Unit) :=
  if totalArity args ≠ params.length then
    some (.error (.arityMismatch params.length (totalArity args)))
  else checkTypesWithin 0 args params

/-- The comparison never looks behind the last parameter. -/
theorem checkParamsWithin_eq (args : List Value) (params : List ValType) :
    checkParamsWithin args params = some (checkParams args params) := by
  rw [checkParamsWithin, checkParams, foldr_arity]
  by_cases hcount : totalArity args = params.length
  · rw [if_neg (not_not_intro hcount), if_neg (not_not_intro hcount), checkTypesWithin_eq 0 hcount]
  · rw [if_pos hcount, if_pos hcount]

/-- The arguments fit exactly if they take the parameter types. -/
theorem checkParams_eq_ok_iff {args : List Value} {params : List ValType} :
    checkParams args params = .ok () ↔ args.flatMap Value.slots = params := by
  have hcompared := compared_checkParams args params
  constructor
  · intro hok
    rw [hok] at hcompared
    cases hcompared with
    | fits hfits => exact hfits
  · exact fun hfits => hcompared.unique (.fits hfits)

end WasmGuest
