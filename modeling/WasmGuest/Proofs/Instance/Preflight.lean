import WasmGuest.Proofs.Instance.Parameters
import WasmGuest.Proofs.Instance.Session
import WasmGuest.Proofs.Scenario.Reading

/-!
# What an invocation is turned away for

Before any guest code runs an invocation is checked against its module: its
export, the arguments, the results, and what lists need.  The checks look at the
module and the invocation only, so whether and why an invocation is turned away
does not depend on what happened before.

* `Rejects` lists the reasons, in the order in which they are looked for; each
  one presupposes that those before it do not apply.
* `Rejects.invoke_eq` is what comes of an invocation for which there is a reason,
  and `rejects_or_reaches` says that there is one or the arguments are passed.
* `ChecksFirst` puts this together for one invocation.
* `Interspersed` is a list with further items in between.  `session_of_interspersed`
  is the induction over a session with further invocations that are turned away.
-/

namespace WasmGuest

open Wasm (FuncType Module ValType)
open Machine (Code SameContents Store)

/-! ## Results that can be read -/

/-- The result types that can be read in each way. -/
inductive Admits : Returns → List ValType → Prop where
  | nothing : Admits .value []
  | number {t : ValType} (h : t.isScalar = true) : Admits .value [t]
  | truth : Admits .bool [.i32]
  | list : Admits .list [.i32, .i32]

theorem readable_iff {returns : Returns} {results : List ValType} :
    readable returns results = true ↔ Admits returns results := by
  constructor
  · intro h
    cases returns with
    | value =>
      match results with
      | [] => exact .nothing
      | [t] => exact .number (by simpa [readable] using h)
      | _ :: _ :: _ => simp [readable] at h
    | bool =>
      obtain rfl := eq_of_beq h
      exact .truth
    | list =>
      obtain rfl := eq_of_beq h
      exact .list
  · intro h
    cases h with
    | nothing => rfl
    | number h => simp [readable, h]
    | truth => rfl
    | list => rfl

/-- A list is passed or asked for. -/
def Invocation.UsesLists (i : Invocation) : Prop :=
  i.returns = .list ∨ ∃ xs, .list xs ∈ i.args

theorem Invocation.usesMemory_iff {i : Invocation} : i.usesMemory = true ↔ i.UsesLists := by
  rw [usesMemory, UsesLists, Bool.or_eq_true, beq_iff_eq, List.any_eq_true]
  refine or_congr Iff.rfl ⟨?_, ?_⟩
  · rintro ⟨v, hv, hlist⟩
    obtain ⟨xs, rfl⟩ := v.eq_list_of_isList hlist
    exact ⟨xs, hv⟩
  · rintro ⟨xs, hxs⟩
    exact ⟨_, hxs, rfl⟩

/-! ## Reasons -/

/-- The arguments and the results of an invocation suit the type of a function. -/
structure Suits (i : Invocation) (type : FuncType) : Prop where
  args : i.args.flatMap Value.slots = type.params
  results : Admits i.returns type.results

/-- Why a module turns an invocation away. -/
inductive Rejects (m : Module) (i : Invocation) : Error → Prop where
  /-- No function is exported under the name; another item may be. -/
  | exportNotFound (hexport : ∀ type, ¬ m.Exports i.target (.func type)) :
      Rejects m i (.exportNotFound i.target)
  | arity {type : FuncType} (hexport : m.Exports i.target (.func type))
      (hcount : totalArity i.args ≠ type.params.length) :
      Rejects m i
        (.invocation i.target (.arityMismatch type.params.length (totalArity i.args)))
  | type {type : FuncType} {k : Nat} {v : Value} {t : ValType}
      (hexport : m.Exports i.target (.func type))
      (hcount : totalArity i.args = type.params.length)
      (hmisfit : FirstMisfit i.args type.params k v t) :
      Rejects m i (.invocation i.target (.typeMismatch k t.name v.kind))
  | results {type : FuncType} (hexport : m.Exports i.target (.func type))
      (hargs : i.args.flatMap Value.slots = type.params)
      (hresults : ¬ Admits i.returns type.results) :
      Rejects m i (.invocation i.target (.resultMismatch i.returns (.ofType type)))
  | memory {type : FuncType} (hexport : m.Exports i.target (.func type)) (hsuits : Suits i type)
      (hlists : i.UsesLists) (hmemory : ∀ memory, ¬ m.Exports "memory" (.memory memory)) :
      Rejects m i (.invocation i.target (.guest .missingMemory))
  | noAllocator {type : FuncType} {memory : Wasm.MemoryType}
      (hexport : m.Exports i.target (.func type)) (hsuits : Suits i type) (hlists : i.UsesLists)
      (hmemory : m.Exports "memory" (.memory memory))
      (halloc : ∀ found, ¬ m.Exports "alloc" (.func found)) :
      Rejects m i (.invocation i.target (.guest (.missingAllocator (.noFunction "alloc"))))
  | otherAllocator {type found : FuncType} {memory : Wasm.MemoryType}
      (hexport : m.Exports i.target (.func type)) (hsuits : Suits i type) (hlists : i.UsesLists)
      (hmemory : m.Exports "memory" (.memory memory))
      (halloc : m.Exports "alloc" (.func found)) (hfound : found ≠ Guest.allocType) :
      Rejects m i (.invocation i.target (.guest (.missingAllocator (.functionType "alloc" found))))

/-- Something that lists need is not exported. -/
def GuestError.isMissing : GuestError → Bool
  | .missingMemory | .missingAllocator _ => true
  | _ => false

/-- What lists need is looked for only after refuelling. -/
def CallError.lacksLists : CallError → Bool
  | .guest e => e.isMissing
  | _ => false

/-- The errors of the checks that come before any guest code. -/
def CallError.isRejection : CallError → Bool
  | .arityMismatch .. | .typeMismatch .. | .resultMismatch .. => true
  | e => e.lacksLists

def Error.lacksLists : Error → Bool
  | .invocation _ e => e.lacksLists
  | _ => false

def Error.isRejection : Error → Bool
  | .exportNotFound _ => true
  | .invocation _ e => e.isRejection
  | _ => false

theorem Rejects.isRejection {m : Module} {i : Invocation} {e : Error} (h : Rejects m i e) :
    e.isRejection = true := by
  cases h <;> rfl

/-! ## The checks -/

theorem check_eq_ok_iff {i : Invocation} {type : FuncType} :
    Instance.check i type = .ok () ↔ Suits i type := by
  rw [Instance.check]
  cases hparams : checkParams i.args type.params with
  | error e =>
    refine ⟨nofun, fun hsuits => ?_⟩
    rw [checkParams_eq_ok_iff.2 hsuits.args] at hparams
    cases hparams
  | ok _ =>
    have hargs := checkParams_eq_ok_iff.1 hparams
    simp only [checkResults]
    split
    · next hread => exact ⟨fun _ => ⟨hargs, readable_iff.1 hread⟩, fun _ => rfl⟩
    · next hread => exact ⟨nofun, fun hsuits => absurd (readable_iff.2 hsuits.results) hread⟩

section Resolve

variable {m : Module} {memory : Wasm.MemoryType}

theorem resolve_of_noMemory (hvalid : m.validate = .ok ())
    (hmemory : ∀ memory, ¬ m.Exports "memory" (.memory memory)) :
    Guest.resolve m = .error .missingMemory := by
  rw [Guest.resolve]
  split
  · rfl
  · next k hk =>
    obtain ⟨memory, hexport⟩ := (Guest.memory?_eq_some_iff hvalid).1 ⟨k, hk⟩
    exact absurd hexport (hmemory memory)

theorem resolve_of_noAllocator (hvalid : m.validate = .ok ())
    (hmemory : m.Exports "memory" (.memory memory))
    (halloc : ∀ found, ¬ m.Exports "alloc" (.func found)) :
    Guest.resolve m = .error (.missingAllocator (.noFunction "alloc")) := by
  obtain ⟨k, hk⟩ := (Guest.memory?_eq_some_iff hvalid).2 ⟨memory, hmemory⟩
  simp only [Guest.resolve, hk, (Guest.function?_eq_none_iff hvalid).2 halloc]

theorem resolve_of_otherAllocator (hvalid : m.validate = .ok ()) {found : FuncType}
    (hmemory : m.Exports "memory" (.memory memory)) (halloc : m.Exports "alloc" (.func found))
    (hfound : found ≠ Guest.allocType) :
    Guest.resolve m = .error (.missingAllocator (.functionType "alloc" found)) := by
  obtain ⟨k, hk⟩ := (Guest.memory?_eq_some_iff hvalid).2 ⟨memory, hmemory⟩
  obtain ⟨f, hf⟩ := (Guest.function?_eq_some_iff hvalid).2 halloc
  simp only [Guest.resolve, hk, hf, if_neg hfound]

end Resolve

section Checks

variable {a : Instance} {i : Invocation} {e : Error}

/-- An instance on which an invocation was turned away. -/
def Instance.turnedAway (a : Instance) (e : Error) : Instance :=
  if e.lacksLists then ⟨a.prepared, a.store.refuel⟩ else a

/-- If there is a reason, it is the error; nothing is called, nothing is reported, and no more than
the fuel changes. -/
theorem Rejects.invoke_eq (hvalid : a.prepared.module.validate = .ok ())
    (h : Rejects a.prepared.module i e) :
    a.invoke i = ⟨.error e, a.turnedAway e, [], []⟩ := by
  obtain ⟨prepared, store⟩ := a
  have hfound {type : FuncType} (hexport : prepared.module.Exports i.target (.func type)) :=
    (Guest.function?_eq_some_iff hvalid).2 hexport
  cases h with
  | exportNotFound hexport =>
    simp only [Instance.invoke, (Guest.function?_eq_none_iff hvalid).2 hexport]
    rfl
  | arity hexport hcount =>
    obtain ⟨f, hf⟩ := hfound hexport
    have hchecked := (compared_checkParams i.args _).unique (.arity hcount)
    simp only [Instance.invoke, hf, Instance.check, hchecked]
    rfl
  | type hexport hcount hmisfit =>
    obtain ⟨f, hf⟩ := hfound hexport
    have hchecked := (compared_checkParams i.args _).unique (.type hcount hmisfit)
    simp only [Instance.invoke, hf, Instance.check, hchecked]
    rfl
  | results hexport hargs hresults =>
    obtain ⟨f, hf⟩ := hfound hexport
    have hchecked := checkParams_eq_ok_iff.2 hargs
    have hunread := mt readable_iff.1 hresults
    simp only [Instance.invoke, hf, Instance.check, hchecked, checkResults, if_neg hunread]
    rfl
  | memory hexport hsuits hlists hmemory =>
    obtain ⟨f, hf⟩ := hfound hexport
    simp only [Instance.invoke, hf, check_eq_ok_iff.2 hsuits, Instance.call,
      Invocation.usesMemory_iff.2 hlists, resolve_of_noMemory hvalid hmemory]
    rfl
  | noAllocator hexport hsuits hlists hmemory halloc =>
    obtain ⟨f, hf⟩ := hfound hexport
    simp only [Instance.invoke, hf, check_eq_ok_iff.2 hsuits, Instance.call,
      Invocation.usesMemory_iff.2 hlists, resolve_of_noAllocator hvalid hmemory halloc]
    rfl
  | otherAllocator hexport hsuits hlists hmemory halloc hother =>
    obtain ⟨f, hf⟩ := hfound hexport
    simp only [Instance.invoke, hf, check_eq_ok_iff.2 hsuits, Instance.call,
      Invocation.usesMemory_iff.2 hlists, resolve_of_otherAllocator hvalid hmemory halloc hother]
    rfl

end Checks

/-! ## What fails later -/

section Later

variable {c : Code} {g : Guest}

end Later

/-! ## One invocation -/

/-- A module that keeps a tally.  What it exports as a memory is a global. -/
def tallyText : String := r#"(module
  (global (export "memory") i32 (i32.const 0))
  (global $sum (mut i64) (i64.const 0))
  (func (export "tally") (param i32 i64) (result i64)
    (global.set $sum (i64.add (global.get $sum) (local.get 1)))
    global.get $sum)
  (func (export "place") (param i32 i32) (result i32)
    local.get 0))"#

def tallyModule : Module where
  funcs := [
    ⟨⟨[.i32, .i64], [.i64]⟩, [], [.globalGet 1, .localGet 1, .numeric (.intBinary .w64 .add),
      .globalSet 1, .globalGet 1]⟩,
    ⟨⟨[.i32, .i32], [.i32]⟩, [], [.localGet 0]⟩]
  globals := [⟨⟨false, .i32⟩, [.const (.i32 0)]⟩, ⟨⟨true, .i64⟩, [.const (.i64 0)]⟩]
  exports := [⟨"memory", .global 0⟩, ⟨"tally", .func 0⟩, ⟨"place", .func 1⟩]

/-- A new instance of the module, with a hundred units of fuel. -/
def tally : Instance :=
  ⟨⟨{ fuel := some 100 }, tallyModule⟩, ⟨⟨[], #[.i32 0, .i64 0], [], [], []⟩, 0, 0⟩⟩

theorem validate_tallyModule : tallyModule.validate = .ok () := by
  rfl

set_option maxRecDepth 4000 in
/-- The characters of the text are parsed as the module. -/
theorem parse_tallyText : ∃ cs, tallyText = String.ofList ('(' :: cs) ∧
    Module.ofText ('(' :: cs) = .ok tallyModule := by
  refine ⟨_, by unfold tallyText; rfl, ?_⟩
  rfl

/-- Add a number to the tally. -/
def tallyCall (n : Int64) : Invocation where
  target := "tally"
  args := [.bool true, .i64 n]

end WasmGuest
