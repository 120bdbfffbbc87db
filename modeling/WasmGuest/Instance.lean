import WasmGuest.Config
import WasmGuest.Guest.Block
import WasmGuest.Report

/-!
# Instances

A module that was read and found valid is `Prepared` under a configuration, and
an `Instance` of it is the store that its code runs on.  An invocation is checked
before any guest code runs; then every argument is passed, the export is called,
its results are read, and the blocks of guest memory that were handed out or
received are released.  Under metering every call starts from the full limit.
-/

namespace WasmGuest

open Wasm (Val ValType FuncType)
open Machine (Code Store Halt)

/-- A valid module under a configuration. -/
structure Prepared where
  config : Config
  module : Wasm.Module

namespace Prepared

/-- Read and validate an image. -/
def ofImage (config : Config) (image : Image) : Except Error Prepared :=
  match Wasm.Module.compile image.bytes with
  | .ok m => .ok ⟨config, m⟩
  | .error e => .error (.compilation e)

/-- The code of the module under the bounds of the configuration. -/
def code (p : Prepared) : Code :=
  .ofModule p.module p.config.limit p.config.maxMemory.toNat

/-- The exports in the order of listings. -/
def exports (p : Prepared) : List Export :=
  exportsOf p.module

/-- The imports in the order they are declared. -/
def imports (p : Prepared) : List Import :=
  importsOf p.module

end Prepared

/-- An instance of a module. -/
structure Instance where
  prepared : Prepared
  store : Store

namespace Prepared

/-- A new instance.  Nothing is provided from outside, so a module with imports has none. -/
def instantiate (p : Prepared) : Except Error Instance :=
  match p.imports with
  | i :: is => .error (.instantiation (.missingImports (i :: is)))
  | [] =>
    match Machine.instantiate p.module p.config.limit p.config.maxMemory.toNat with
    | .ok store => .ok ⟨p, store⟩
    | .error e => .error (.instantiation (.start e))

end Prepared

/-! ## Checks -/

/-- Every argument fits the parameters that it takes; the types are those from its place on. -/
def checkTypes : (index : Nat) → List Value → List ValType → Except CallError Unit
  | _, [], _ => .ok ()
  | index, v :: vs, types =>
    match (types.take v.arity).find? (!v.fits ·) with
    | some t => .error (.typeMismatch index t.name v.kind)
    | none => checkTypes (index + 1) vs (types.drop v.arity)

/-- The arguments fit the parameters in number and type. -/
def checkParams (args : List Value) (params : List ValType) : Except CallError Unit :=
  let got := args.foldr (fun v n => v.arity + n) 0
  if got ≠ params.length then .error (.arityMismatch params.length got)
  else checkTypes 0 args params

/-- Whether results of these types can be read as asked. -/
def readable (returns : Returns) (results : List ValType) : Bool :=
  match returns with
  | .value => results.length ≤ 1 && results.all ValType.isScalar
  | .bool => results == [.i32]
  | .list => results == [.i32, .i32]

def checkResults (returns : Returns) (type : FuncType) : Except CallError Unit :=
  if readable returns type.results then .ok ()
  else .error (.resultMismatch returns (.ofType type))

/-! ## The exchange with the guest -/

/-- What came of passing the arguments, or of the whole exchange, with the blocks to release. -/
structure Exchange (α : Type) where
  result : Except CallError α
  store : Store
  calls : List HostCall
  blocks : List Block

/-- The machine values of the arguments; lists are copied into guest memory on the way. -/
def passArgs (c : Code) (guest : Option Guest) :
    List Value → Store → Exchange (List Val)
  | [], store => ⟨.ok [], store, [], []⟩
  | v :: vs, store =>
    match v, guest with
    | .list xs, some g =>
      let written := g.writeList c xs store
      match written.result with
      | .error e => ⟨.error (.guest e), written.store, written.calls, []⟩
      | .ok block =>
        let rest := passArgs c guest vs written.store
        ⟨rest.result.map (.i32 block.ptr.toUInt32 :: .i32 block.len.toUInt32 :: ·), rest.store,
          written.calls ++ rest.calls, block :: rest.blocks⟩
    | v, _ =>
      let rest := passArgs c guest vs store
      ⟨rest.result.map (v.lower?.toList ++ ·), rest.store, rest.calls, rest.blocks⟩

/-- A halted call as an error. -/
def CallError.ofHalt : Halt → CallError
  | .trap .outOfFuel => .outOfFuel
  | h => .trap h

/-- The fuel left under the limit. -/
def fuelLeft (c : Code) (store : Store) : Option Nat :=
  c.limit.map (· - store.spent)

/-- The fuel that a call has spent, which is counted up to the limit. -/
def fuelSpent (c : Code) (store : Store) : Option Nat :=
  c.limit.map (min · store.spent)

/-- The value that results are read as, and the block it was read from. -/
def liftResults (guest : Option Guest) (returns : Returns) (store : Store) (results : List Val) :
    Except GuestError (Option Value × List Block) :=
  match returns, results, guest with
  | .value, v :: _, _ => .ok (Value.lift? v, [])
  | .bool, .i32 n :: _, _ => .ok (some (.bool (n != 0)), [])
  | .list, [.i32 ptr, .i32 len], some g =>
    let block : Block := ⟨ptr.toInt32, len.toInt32⟩
    match g.readList store block with
    | .ok xs => .ok (some (.list xs), [block])
    | .error e => .error e
  | _, _, _ => .ok (none, [])

/-- Pass the arguments, call the function, and read its results. -/
def exchange (c : Code) (guest : Option Guest) (f : Nat) (i : Invocation) (store : Store) :
    Exchange Outcome :=
  let passed := passArgs c guest i.args store
  match passed.result with
  | .error e => ⟨.error e, passed.store, passed.calls, passed.blocks⟩
  | .ok params =>
    let calls := passed.calls ++ [.export params]
    match Machine.call c f params passed.store with
    | .halt h store => ⟨.error (.ofHalt h), store, calls, passed.blocks⟩
    | .values results store =>
      match liftResults guest i.returns store results with
      | .error e => ⟨.error (.guest e), store, calls, passed.blocks⟩
      | .ok (value, blocks) =>
        ⟨.ok ⟨value, fuelSpent c store⟩, store, calls, passed.blocks ++ blocks⟩

/-! ## Invocations -/

/-- What came of an invocation: its outcome, the instance after it, the calls that the host made
into the guest, and what there is to report. -/
structure Reply where
  result : Except Error Outcome
  after : Instance
  calls : List HostCall
  reports : List Report

/-- The report that a call into the guest gives rise to. -/
def HostCall.report? (target : String) : HostCall → Option Report
  | .export params => some (.calling target params)
  | .free ptr _ (.error h) => some (.releaseFailed (.free ptr h))
  | _ => none

/-- Call a function through guest memory: an exchange, after which its blocks are released.  If the
exchange failed, releasing starts from the full limit again. -/
def callWithMemory (c : Code) (guest : Guest) (f : Nat) (i : Invocation) (store : Store) :
    Except CallError Outcome × Store × List HostCall :=
  let done := exchange c (some guest) f i store
  match done.result with
  | .error e =>
    let released := guest.releaseAll c done.blocks done.store.refuel
    (.error e, released.store, done.calls ++ released.calls)
  | .ok outcome =>
    let released := guest.releaseAll c done.blocks done.store
    let result := match released.result with
      | .ok () => .ok outcome
      | .error e => .error (.guest e)
    (result, released.store, done.calls ++ released.calls)

namespace Instance

/-- The fuel left after the last call, if fuel is metered. -/
def fuelRemaining (a : Instance) : Option Nat :=
  fuelLeft a.prepared.code a.store

/-- Call a function whose parameters and results were checked. -/
def call (a : Instance) (f : Nat) (i : Invocation) :
    Except CallError Outcome × Store × List HostCall × Option EngineFault :=
  let c := a.prepared.code
  let store := a.store.refuel
  if i.usesMemory then
    match Guest.resolve a.prepared.module with
    | .error e => (.error (.guest e), store, [], none)
    | .ok guest =>
      let (result, store, calls) := callWithMemory c guest f i store
      (result, store, calls, Guest.unusableFree a.prepared.module)
  else
    let done := exchange c none f i store
    (done.result, done.store, done.calls, none)

/-- The checks of an invocation against the type of its function, in order. -/
def check (i : Invocation) (type : FuncType) : Except CallError Unit :=
  match checkParams i.args type.params with
  | .error e => .error e
  | .ok () => checkResults i.returns type

/-- Invoke an export. -/
def invoke (a : Instance) (i : Invocation) : Reply :=
  match Guest.function? a.prepared.module i.target with
  | none => ⟨.error (.exportNotFound i.target), a, [], []⟩
  | some (f, type) =>
    match check i type with
    | .error e => ⟨.error (.invocation i.target e), a, [], []⟩
    | .ok () =>
      match a with
      | ⟨prepared, store⟩ =>
        let (result, store, calls, unusable) := Instance.call ⟨prepared, store⟩ f i
        ⟨result.mapError (.invocation i.target), ⟨prepared, store⟩, calls,
          (unusable.map .freeIgnored).toList ++ calls.filterMap (·.report? i.target)⟩

end Instance

end WasmGuest
