import WasmGuest.Machine.Run

/-!
# What code may do

Two facts carry the arguments about runs.  Instructions are trees, so what is to
hold of every instruction is shown with the bodies in it first (`Instr.induct`).  And
an instruction that has no body and makes no call is left to `step`, which changes the
contents of a store in few ways and never has to do with fuel (`stepped_step`).

* `exec_eq_step`: which instructions are left to `step`.
* `Touches`: what such an instruction may do to the contents; `Stepped`: how it is left.
* `withCallee_cases`: an indirect call goes on with some function, or it halts.
* `Touches.memorySize_le`: no memory becomes smaller.
-/

namespace WasmGuest.Machine

open Wasm

/-- The store that a piece of code leaves behind. -/
def Exit.store : Exit → Store
  | next s => s.store
  | branch _ s => s.store
  | ret s => s.store
  | tail _ _ st => st
  | halt _ st => st

/-! ## Instructions as trees -/

/-- Whether an instruction has a body or makes a call. -/
def isControl : Instr → Bool
  | .block .. | .loop .. | .ifElse .. | .call .. | .callIndirect .. | .returnCall ..
  | .returnCallIndirect .. => true
  | _ => false

section Induct

variable {motive : Instr → Prop}
  (block : ∀ type body, (∀ i ∈ body, motive i) → motive (.block type body))
  (loop : ∀ type body, (∀ i ∈ body, motive i) → motive (.loop type body))
  (ifElse : ∀ type onTrue onFalse, (∀ i ∈ onTrue, motive i) → (∀ i ∈ onFalse, motive i) →
    motive (.ifElse type onTrue onFalse))
  (call : ∀ f, motive (.call f))
  (callIndirect : ∀ x type, motive (.callIndirect x type))
  (returnCall : ∀ f, motive (.returnCall f))
  (returnCallIndirect : ∀ x type, motive (.returnCallIndirect x type))
  (single : ∀ i, isControl i = false → motive i)

include block loop ifElse call callIndirect returnCall returnCallIndirect single

set_option linter.unusedSectionVars false

mutual

/-- Induction over instructions and the bodies in them. -/
@[elab_as_elim]
theorem Instr.induct : ∀ i, motive i
  | .block type body => block type body (Instr.induct_body body)
  | .loop type body => loop type body (Instr.induct_body body)
  | .ifElse type onTrue onFalse =>
    ifElse type onTrue onFalse (Instr.induct_body onTrue) (Instr.induct_body onFalse)
  | .call f => call f
  | .callIndirect x type => callIndirect x type
  | .returnCall f => returnCall f
  | .returnCallIndirect x type => returnCallIndirect x type
  | .unreachable | .nop | .drop | .select _ | .br _ | .brIf _ | .brTable _ _ | .ret
  | .localGet _ | .localSet _ | .localTee _ | .globalGet _ | .globalSet _ | .load _ _ | .store _ _
  | .memorySize _ _ | .memoryGrow _ _ | .memoryFill _ | .memoryCopy _ _ | .memoryInit _ _
  | .dataDrop _ | .tableGet _ | .tableSet _ | .tableSize _ _ | .tableGrow _ _ | .tableFill _
  | .tableCopy _ _ | .tableInit _ _ | .elemDrop _ | .const _ | .refFunc _ | .refIsNull
  | .numeric _ => single _ rfl

theorem Instr.induct_body : ∀ is : List Instr, ∀ i ∈ is, motive i
  | [], _, h => absurd h List.not_mem_nil
  | j :: js, i, h => (List.mem_cons.1 h).elim (fun e => e ▸ Instr.induct j) (Instr.induct_body js i)

end

end Induct

theorem exec_eq_step {c : Code} {calls : Nat → List Val → Store → CallResult} {i : Instr}
    {s : State} (h : isControl i = false) : exec c calls i s = step c i s := by
  cases i <;> first | simp only [exec]; done | cases h

/-! ## Operators and fuel -/

theorem Word32.binary_ne_outOfFuel (op : IntBinary) (a b : UInt32) :
    Word32.binary op a b ≠ .error .outOfFuel := by
  fun_cases Word32.binary op a b with
  | case4 sign => fun_cases Word32.divide sign a b <;> rintro ⟨⟩
  | case5 sign => fun_cases Word32.remainder sign a b <;> rintro ⟨⟩
  | _ => rintro ⟨⟩

theorem Word64.binary_ne_outOfFuel (op : IntBinary) (a b : UInt64) :
    Word64.binary op a b ≠ .error .outOfFuel := by
  fun_cases Word64.binary op a b with
  | case4 sign => fun_cases Word64.divide sign a b <;> rintro ⟨⟩
  | case5 sign => fun_cases Word64.remainder sign a b <;> rintro ⟨⟩
  | _ => rintro ⟨⟩

theorem truncate_ne_outOfFuel (f : Floating.Format) (range : Int × Int) (saturating : Bool)
    (a : Nat) : truncate f range saturating a ≠ .error .outOfFuel := by
  fun_cases truncate f range saturating a with
  | _ => rintro ⟨⟩

theorem convert_ne_outOfFuel (op : Conversion) (v : Val) :
    convert op v ≠ .error (.trap .outOfFuel) := by
  fun_cases convert op v with
  | case5 target source sign saturating v a _ t ht =>
    rintro ⟨⟩
    exact truncate_ne_outOfFuel _ _ _ _ ht
  | _ => rintro ⟨⟩

theorem pushResult_ne_outOfFuel {α : Type} {val : α → Val} {stack : List Val} {r : Except Trap α}
    (h : r ≠ .error .outOfFuel) : pushResult val stack r ≠ .error (.trap .outOfFuel) := by
  cases r with
  | ok a => rintro ⟨⟩
  | error t =>
    rintro ⟨⟩
    exact h rfl

/-- No numeric operator has to do with fuel. -/
theorem numeric_ne_outOfFuel (op : Numeric) (stack : List Val) :
    numeric op stack ≠ .error (.trap .outOfFuel) := by
  fun_cases numeric op stack with
  | case1 op b a stack => exact pushResult_ne_outOfFuel (Word32.binary_ne_outOfFuel op a b)
  | case2 op b a stack => exact pushResult_ne_outOfFuel (Word64.binary_ne_outOfFuel op a b)
  | case15 op v stack =>
    have hconvert := convert_ne_outOfFuel op v
    cases hresult : convert op v with
    | ok w => rintro ⟨⟩
    | error cause =>
      rw [hresult] at hconvert
      rintro ⟨⟩
      exact hconvert rfl
  | _ => rintro ⟨⟩

/-! ## What one instruction does -/

/-- What an instruction without a body or a call may do to the contents. -/
inductive Touches (maxMemory : Nat) (k : Contents) : Contents → Prop where
  | nothing : Touches maxMemory k k
  | globals (gs : Array Val) : Touches maxMemory k { k with globals := gs }
  | write (x i : Nat) (bs : List UInt8) (hin : i + bs.length ≤ k.memorySize x) :
      Touches maxMemory k (k.write x i bs)
  | grow (x : Nat) (w : Width) (n : Nat) : Touches maxMemory k (k.growMemory maxMemory x w n).1
  | tables (ts : List Table) : Touches maxMemory k { k with tables := ts }
  | datas (ds : List (List UInt8)) : Touches maxMemory k { k with datas := ds }
  | elems (es : List (List Val)) : Touches maxMemory k { k with elems := es }

/-- How a single instruction is left: it goes on or away on touched contents, or it halts on the
contents that it found, and not for want of fuel. -/
inductive Effect.Sound (maxMemory : Nat) (k : Contents) : Effect → Prop where
  | next {stack : List Val} {locals : Array Val} {after : Contents}
      (htouch : Touches maxMemory k after) : Sound maxMemory k (.next stack locals after)
  | branch {l : Nat} {stack : List Val} {locals : Array Val} :
      Sound maxMemory k (.branch l stack locals k)
  | ret {stack : List Val} {locals : Array Val} : Sound maxMemory k (.ret stack locals k)
  | halt {cause : Halt} (hcause : cause ≠ .trap .outOfFuel) : Sound maxMemory k (.halt cause k)

section Effects

variable {maxMemory : Nat} {k : Contents} {stack : List Val} {locals : Array Val}

theorem Contents.touches_growTable (k : Contents) (x : Nat) (w : Width) (n : Nat) (v : Val) :
    Touches maxMemory k (k.growTable x w n v).1 := by
  fun_cases Contents.growTable k x w n v with
  | case1 => exact .tables _
  | case2 => exact .nothing
  | case3 => exact .nothing

theorem sound_putBytes (x i : Nat) (bytes : Option (List UInt8)) :
    (putBytes x i bytes stack locals k).Sound maxMemory k := by
  fun_cases putBytes x i bytes stack locals k with
  | case1 bs hin => exact .next (.write x i bs hin)
  | case2 => exact .halt (by decide)
  | case3 => exact .halt (by decide)

theorem sound_putEntries (x i : Nat) (entries : Option (List Val)) :
    (putEntries x i entries stack locals k).Sound maxMemory k := by
  fun_cases putEntries x i entries stack locals k with
  | case1 => exact .next (.tables _)
  | case2 => exact .halt (by decide)
  | case3 => exact .halt (by decide)

theorem sound_effect (i : Instr) : (effect maxMemory i stack locals k).Sound maxMemory k := by
  fun_cases effect maxMemory i stack locals k with
  | case8 =>
    rename_i hop
    refine .halt ?_
    rintro rfl
    exact numeric_ne_outOfFuel _ _ hop
  | case20 _ x w _ _ n _ after old hgrown =>
    have hgrow : Touches maxMemory k (k.growMemory maxMemory x w n).1 := .grow x w n
    rw [hgrown] at hgrow
    exact .next hgrow
  | case35 _ x w _ v _ n _ after old hgrown =>
    have hgrow : Touches maxMemory k (k.growTable x w n v).1 := k.touches_growTable x w n v
    rw [hgrown] at hgrow
    exact .next hgrow
  | _ =>
    first
    | exact .next .nothing
    | exact .branch
    | exact .ret
    | exact .halt (by decide)
    | exact sound_putBytes _ _ _
    | exact sound_putEntries _ _ _
    | exact .next (.globals _)
    | exact .next (.datas _)
    | exact .next (.elems _)

end Effects

/-- How `step` leaves a store: as `Effect.Sound` says of the contents, with the fuel as it is. -/
inductive Stepped (maxMemory : Nat) (st : Store) : Exit → Prop where
  | next {stack : List Val} {locals : Array Val} {k : Contents}
      (htouch : Touches maxMemory st.toContents k) :
      Stepped maxMemory st (.next ⟨stack, locals, { st with toContents := k }⟩)
  | branch {l : Nat} {stack : List Val} {locals : Array Val} :
      Stepped maxMemory st (.branch l ⟨stack, locals, st⟩)
  | ret {stack : List Val} {locals : Array Val} : Stepped maxMemory st (.ret ⟨stack, locals, st⟩)
  | halt {cause : Halt} (hcause : cause ≠ .trap .outOfFuel) :
      Stepped maxMemory st (.halt cause st)

theorem stepped_step (c : Code) (i : Instr) (s : State) :
    Stepped c.maxMemory s.store (step c i s) := by
  obtain ⟨stack, locals, ⟨contents, spent, settled⟩⟩ := s
  have hsound : (effect c.maxMemory i stack locals contents).Sound c.maxMemory contents :=
    sound_effect i
  rw [step]
  generalize effect c.maxMemory i stack locals contents = e at hsound ⊢
  cases hsound with
  | next htouch => exact .next htouch
  | branch => exact .branch
  | ret => exact .ret
  | halt hcause => exact .halt hcause

/-! ## Indirect calls -/

theorem callee_ne_outOfFuel (c : Code) (x : Nat) (type : FuncType) (i : Nat) (k : Contents) :
    callee c x type i k ≠ .error (.trap .outOfFuel) := by
  fun_cases callee c x type i k with
  | _ => rintro ⟨⟩

/-- An indirect call goes on with some function on the same store, or it halts, and not for want
of fuel. -/
theorem withCallee_cases (c : Code) (x : Nat) (type : FuncType) (s : State) :
    (∃ f stack, ∀ (α : Type) (halted : Halt → Store → α) (go : Nat → State → α),
      withCallee c x type halted go s = go f ⟨stack, s.locals, s.store⟩) ∨
    ∃ cause st, cause ≠ .trap .outOfFuel ∧ (st = s.store ∨ st = s.store.settle) ∧
      ∀ (α : Type) (halted : Halt → Store → α) (go : Nat → State → α),
        withCallee c x type halted go s = halted cause st := by
  obtain ⟨stack, locals, store⟩ := s
  cases stack with
  | nil => exact .inr ⟨.stuck, store, by decide, .inl rfl, fun _ _ _ => rfl⟩
  | cons v stack =>
    cases haddress : address? v with
    | none =>
      refine .inr ⟨.stuck, store, by decide, .inl rfl, fun α halted go => ?_⟩
      simp only [withCallee, haddress]
    | some i =>
      cases hcallee : callee c x type i store.toContents with
      | ok f =>
        refine .inl ⟨f, stack, fun α halted go => ?_⟩
        simp only [withCallee, haddress, hcallee]
      | error cause =>
        refine .inr ⟨cause, store.settle, ?_, .inr rfl, fun α halted go => ?_⟩
        · rintro rfl
          exact callee_ne_outOfFuel _ _ _ _ _ hcallee
        · simp only [withCallee, haddress, hcallee]

/-! ## Entering a function -/

theorem turnBound_eq : turnBound - 1 + 1 = turnBound :=
  Nat.sub_add_cancel (by decide)

/-- A call from within counts the entry, looks at the limit and runs the body. -/
theorem invoke_succ (c : Code) (depth f : Nat) (args : List Val) (st : Store) :
    invoke c (depth + 1) f args st =
      if c.exhausted (st.spend 1) then .halt (.trap .outOfFuel) (st.spend 1)
      else match c.funcs[f]? with
        | none => .halt .stuck (st.spend 1)
        | some fn =>
          returned fn.type.results.length (enter c (invoke c depth) (turnBound - 1))
            (execAll c (invoke c depth) fn.body
              ⟨[], args.reverse.toArray ++ (fn.locals.map Val.zero).toArray, st.spend 1⟩) := by
  calc invoke c (depth + 1) f args st
    _ = enter c (invoke c depth) (turnBound - 1 + 1) f args st := by rw [invoke, turnBound_eq]
    _ = _ := by
      unfold enter
      cases c.funcs[f]? <;> rfl

/-! ## The size of the memories -/

namespace Contents

theorem memorySize_of_eq_some {k : Contents} {x : Nat} {m : Memory}
    (h : k.memories[x]? = some m) : k.memorySize x = m.size := by
  rw [memorySize, h]

theorem memorySize_of_eq_none {k : Contents} {x : Nat} (h : k.memories[x]? = none) :
    k.memorySize x = 0 := by
  rw [memorySize, h]

theorem memorySize_eq_elim (k : Contents) (x : Nat) :
    k.memorySize x = k.memories[x]?.elim 0 Memory.size := by
  rw [memorySize]
  cases k.memories[x]? <;> rfl

/-- Changing one memory leaves the others. -/
theorem getElem?_memories_modify (k : Contents) (x y : Nat) (f : Memory → Memory) :
    (k.memories.modify x f)[y]? = k.memories[y]?.map fun m => if x = y then f m else m := by
  rw [List.getElem?_modify]
  split <;> simp

theorem getElem?_memories_modify_self {k : Contents} {x : Nat} {m : Memory}
    (h : k.memories[x]? = some m) (f : Memory → Memory) :
    (k.memories.modify x f)[x]? = some (f m) := by
  rw [getElem?_memories_modify, h, Option.map_some, if_pos rfl]

@[simp] theorem memorySize_write (k : Contents) (x y i : Nat) (bs : List UInt8) :
    (k.write x i bs).memorySize y = k.memorySize y := by
  rw [memorySize_eq_elim, memorySize_eq_elim, write, getElem?_memories_modify]
  cases k.memories[y]? with
  | none => rfl
  | some m =>
    rw [Option.map_some, Option.elim_some, Option.elim_some]
    split
    · exact m.size_write i bs
    · rfl

/-- Growing adds pages and tells the old number of pages, or changes nothing. -/
theorem growMemory_cases (k : Contents) (maxMemory x : Nat) (w : Width) (n : Nat) :
    (∃ m, k.memories[x]? = some m ∧ k.growMemory maxMemory x w n =
      ({ k with memories := k.memories.modify x (·.grow n) }, some m.pages.size)) ∨
    k.growMemory maxMemory x w n = (k, none) := by
  rw [growMemory]
  cases hm : k.memories[x]? with
  | none => exact .inr rfl
  | some m =>
    simp only
    split
    · exact .inl ⟨m, rfl, rfl⟩
    · exact .inr rfl

theorem memorySize_le_growMemory (k : Contents) (maxMemory x y : Nat) (w : Width) (n : Nat) :
    k.memorySize y ≤ (k.growMemory maxMemory x w n).1.memorySize y := by
  rcases k.growMemory_cases maxMemory x w n with ⟨_, -, hgrown⟩ | hsame
  · rw [hgrown, memorySize_eq_elim, memorySize_eq_elim, getElem?_memories_modify]
    cases k.memories[y]? with
    | none => exact Nat.zero_le _
    | some m =>
      rw [Option.map_some, Option.elim_some, Option.elim_some]
      split
      · rw [Memory.size_grow]
        omega
      · exact Nat.le_refl m.size
  · exact Nat.le_of_eq (by rw [hsame])

end Contents

/-- No memory becomes smaller. -/
theorem Touches.memorySize_le {maxMemory : Nat} {k after : Contents} (h : Touches maxMemory k after)
    (y : Nat) : k.memorySize y ≤ after.memorySize y := by
  cases h with
  | write x i bs => exact Nat.le_of_eq (k.memorySize_write x y i bs).symm
  | grow x w n => exact k.memorySize_le_growMemory maxMemory x y w n
  | _ => exact Nat.le_refl _

end WasmGuest.Machine
