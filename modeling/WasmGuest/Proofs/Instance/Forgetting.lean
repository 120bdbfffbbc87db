import WasmGuest.Proofs.Guest.Custody
import WasmGuest.Proofs.Instance.Preflight

/-!
# What a call does not remember

Whatever happened before, a call that passes its checks starts from the full
limit: how much fuel earlier calls left is forgotten.  Two instances that differ in
their fuel at most therefore reply alike to all invocations, and from the first
that passes its checks on they do not differ at all.

* `Passes`: the checks of the arguments and of the results find nothing wrong.
* `forall₂_session` is the induction over a session on both instances, and
  `session_drop_eq` the one up to the invocation that passes.
* `Instance.Reachable.forgets_fuel` puts both together.
* `dropped_segment_shows`: what a call dropped is remembered, though no memory, global or
  table shows it.
-/

namespace WasmGuest

open Wasm (Module)
open Machine (SameContents Store)

/-- An invocation names a function that takes its arguments and whose results can be read as asked.
What lists need may still be missing. -/
def Passes (m : Module) (i : Invocation) : Prop :=
  ∃ type, m.Exports i.target (.func type) ∧ Suits i type

/-- Passing the checks is having the function and getting past `Instance.check`. -/
theorem passes_iff {m : Module} (hvalid : m.validate = .ok ()) {i : Invocation} :
    Passes m i ↔ ∃ f type, Guest.function? m i.target = some (f, type) ∧
      Instance.check i type = .ok () := by
  constructor
  · rintro ⟨type, hexport, hsuits⟩
    obtain ⟨f, hf⟩ := (Guest.function?_eq_some_iff hvalid).2 hexport
    exact ⟨f, type, hf, check_eq_ok_iff.2 hsuits⟩
  · rintro ⟨f, type, hf, hchecked⟩
    exact ⟨type, (Guest.function?_eq_some_iff hvalid).1 ⟨f, hf⟩, check_eq_ok_iff.1 hchecked⟩

section Sessions

variable {p : Prepared} {st st' : Store}

/-- One invocation keeps the contents the same, so the next one meets what the first one met. -/
theorem forall₂_session (h : SameContents st st') (is : List Invocation) :
    List.Forall₂ Reply.SameButFuel (Instance.session ⟨p, st⟩ is) (Instance.session ⟨p, st'⟩ is) ∧
      SameContents (Instance.afterAll ⟨p, st⟩ is).store (Instance.afterAll ⟨p, st'⟩ is).store := by
  induction is generalizing st st' with
  | nil => exact ⟨.nil, h⟩
  | cons i is ih =>
    have hsame := (Instance.invoke_of_sameContents p h i).1
    rw [Instance.session, Instance.session, Instance.afterAll_cons, Instance.afterAll_cons,
      Instance.after_invoke p st, Instance.after_invoke p st']
    exact ⟨.cons hsame (ih hsame.contents).1, (ih hsame.contents).2⟩

/-- The invocation that passes its checks refuels, and what follows meets the same store. -/
theorem session_drop_eq (hvalid : p.module.validate = .ok ()) (h : SameContents st st')
    {is : List Invocation} {k : Nat} {i : Invocation} (hk : is[k]? = some i)
    (hpasses : Passes p.module i) :
    (Instance.session ⟨p, st'⟩ is).drop k = (Instance.session ⟨p, st⟩ is).drop k ∧
      Instance.afterAll ⟨p, st'⟩ is = Instance.afterAll ⟨p, st⟩ is := by
  induction is generalizing st st' k with
  | nil => cases hk
  | cons j is ih =>
    obtain ⟨hsame, hequal⟩ := Instance.invoke_of_sameContents p h j
    cases k with
    | zero =>
      cases hk
      have hreply := hequal ((passes_iff hvalid).1 hpasses)
      rw [List.drop_zero, List.drop_zero, Instance.session, Instance.session,
        Instance.afterAll_cons, Instance.afterAll_cons, hreply]
      exact ⟨rfl, rfl⟩
    | succ k =>
      rw [Instance.session, Instance.session, Instance.afterAll_cons, Instance.afterAll_cons,
        List.drop_succ_cons, List.drop_succ_cons, Instance.after_invoke p st,
        Instance.after_invoke p st']
      exact ih hsame.contents hk

end Sessions

/-- The same invocations on two instances: the fuel that was left before shows in nothing but the
fuel that is left, and there only until an invocation passes its checks. -/
structure Instance.ForgetsFuel (a b : Instance) (is : List Invocation) : Prop where
  /-- Every step gives the same result, with the same fuel consumed, makes the same calls, and
  leaves the same memories, globals, tables and segments. -/
  replies : List.Forall₂ Reply.SameButFuel (a.session is) (b.session is)
  contents : SameContents (a.afterAll is).store (b.afterAll is).store
  /-- From an invocation on that passes its checks the replies are equal, with the instance behind
  each of them and the fuel that it has left, however the invocation ends. -/
  equal_of_passes : ∀ k i, is[k]? = some i → Passes a.prepared.module i →
    (b.session is).drop k = (a.session is).drop k ∧ b.afterAll is = a.afterAll is

/-- Every call starts from the full limit: of what happened before on an instance that is come by,
later replies know the contents of the store, and not the fuel that was left. -/
theorem Instance.Reachable.forgets_fuel {a b : Instance} (ha : a.Reachable)
    (hprepared : b.prepared = a.prepared) (hcontents : SameContents a.store b.store)
    (is : List Invocation) : a.ForgetsFuel b is := by
  obtain ⟨p, st⟩ := a
  obtain ⟨_, st'⟩ := b
  cases hprepared
  obtain ⟨hreplies, hafter⟩ := forall₂_session hcontents is
  exact ⟨hreplies, hafter, fun k i hk hpasses => session_drop_eq ha.validate hcontents hk hpasses⟩

/-- Two instances have 17 and 15 units left.  An invocation that is turned away leaves it at that;
the next one is starved of the fuel to hand its blocks back, and from there on all is equal. -/
theorem forgets_fuel_clerk :
    let a := clerk (some 17)
    let b := (clerk (some 17)).afterAll [freedCall]
    let is := [{ target := "lent" }, lengthsCall, freedCall]
    a.Reachable ∧ b.Reachable ∧ b.prepared = a.prepared ∧ SameContents a.store b.store ∧
      a.ForgetsFuel b is ∧ (b.session is).drop 1 = (a.session is).drop 1 ∧
      (a.session is).map Reply.result = [.error (.exportNotFound "lent"),
        .error (.invocation "lengths" (.guest (.free 8 (.trap .outOfFuel)))),
        .ok ⟨some (.i32 0), some 2⟩] ∧
      (a.session is).map (fun r => r.after.fuelRemaining) = [some 17, some 0, some 15] ∧
      (b.session is).map (fun r => r.after.fuelRemaining) = [some 15, some 0, some 15] := by
  intro a b is
  have ha : a.Reachable := reachable_clerk (some 17) []
  have hprepared : b.prepared = a.prepared := rfl
  have hcontents : SameContents a.store b.store := rfl
  have hforgets : a.ForgetsFuel b is := ha.forgets_fuel hprepared hcontents is
  have hpasses : Passes clerkModule lengthsCall :=
    (passes_iff validate_clerkModule).2 ⟨3, ⟨[.i32, .i32, .i32, .i32], [.i32]⟩, rfl, rfl⟩
  exact ⟨ha, reachable_clerk (some 17) _, hprepared, hcontents, hforgets,
    (hforgets.equal_of_passes 1 lengthsCall rfl hpasses).1, by rfl, by rfl, by rfl⟩

/-! ## A segment that was dropped -/

/-- A module that copies the four bytes of a data segment to its memory and returns them as a list
of one, and that can drop the segment. -/
def sowerText : String := r#"(module
  (memory (export "memory") 1)
  (data $seed "\2a\00\00\00")
  (func (export "alloc") (param i32) (result i32)
    i32.const 8)
  (func (export "drop")
    data.drop $seed)
  (func (export "sow") (result i32 i32)
    (memory.init $seed (i32.const 8) (i32.const 0) (i32.const 4))
    i32.const 8
    i32.const 1))"#

def sowerModule : Module where
  funcs := [
    ⟨⟨[.i32], [.i32]⟩, [], [.const (.i32 8)]⟩,
    ⟨⟨[], []⟩, [], [.dataDrop 0]⟩,
    ⟨⟨[], [.i32, .i32]⟩, [], [.const (.i32 8), .const (.i32 0), .const (.i32 4), .memoryInit 0 0,
      .const (.i32 8), .const (.i32 1)]⟩]
  memories := [⟨⟨1, none⟩, .w32⟩]
  datas := [⟨[42, 0, 0, 0], .passive⟩]
  exports := [⟨"memory", .memory 0⟩, ⟨"alloc", .func 0⟩, ⟨"drop", .func 1⟩, ⟨"sow", .func 2⟩]

theorem validate_sowerModule : sowerModule.validate = .ok () := by
  rfl

set_option maxRecDepth 4000 in
theorem parse_sowerText : ∃ cs, sowerText = String.ofList ('(' :: cs) ∧
    Module.ofText ('(' :: cs) = .ok sowerModule := by
  refine ⟨_, by unfold sowerText; rfl, ?_⟩
  rfl

/-- A new instance of the module, under a limit on fuel. -/
def sower (fuel : UInt64) : Instance :=
  ⟨⟨{ fuel := some fuel }, sowerModule⟩,
    ⟨⟨[.ofPages 1 none], #[], [], [[42, 0, 0, 0]], []⟩, 0, 0⟩⟩

theorem reachable_sower (fuel : UInt64) (is : List Invocation) :
    ((sower fuel).afterAll is).Reachable := by
  obtain ⟨cs, htext, hread⟩ := parse_sowerText
  exact ⟨{ fuel := some fuel }, .ofText sowerText, ⟨{ fuel := some fuel }, sowerModule⟩, sower fuel,
    is, Prepared.ofImage_ofText _ htext hread validate_sowerModule, rfl, rfl⟩

/-- Drop the segment. -/
def dropCall : Invocation where
  target := "drop"

/-- Copy the segment, and take back its first item. -/
def sowCall : Invocation where
  target := "sow"
  returns := .list

/-- Of two instances with the same memories, globals and tables one has dropped its segment.  The
same call gives a list on the other one, and traps on this one. -/
theorem dropped_segment_shows :
    let a := sower 1000
    let b := a.afterAll [dropCall]
    a.Reachable ∧ b.Reachable ∧ b.prepared = a.prepared ∧
      b.store.memories = a.store.memories ∧ b.store.globals = a.store.globals ∧
      b.store.tables = a.store.tables ∧ b.fuelRemaining ≠ a.fuelRemaining ∧
      (a.invoke sowCall).result = .ok ⟨some (.list [42]), some 7⟩ ∧
      (b.invoke sowCall).result =
        .error (.invocation "sow" (.trap (.trap .memoryOutOfBounds))) := by
  intro a b
  exact ⟨reachable_sower 1000 [], reachable_sower 1000 [dropCall], rfl, rfl, rfl, rfl, by decide,
    rfl, rfl⟩

end WasmGuest
