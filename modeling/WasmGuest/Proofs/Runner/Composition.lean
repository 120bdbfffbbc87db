import WasmGuest.Proofs.Instance.Preflight
import WasmGuest.Proofs.Output
import WasmGuest.Runner

/-!
# Runs as compositions

A run takes its steps in order and ends with the first that fails: a module is
loaded, prepared and instantiated, and invocations are made on the instance as in
a session.

* `performAll_cons_of_error`, `performAll_cons_of_written` and
  `performAll_cons_of_fault` are what one more invocation in front does.
* `Ends` finds the first failure in the replies of a session, and
  `exists_ends_performAll` is the induction over the invocations.
* `performAll_append_of_error` and `performAll_append_of_ok` go on with further
  invocations.
* `fresh` composes the steps that lead to an instance; `ComposesSteps` and `GoesOn`
  are about whole runs, alone and with further invocations behind.
-/

namespace WasmGuest

/-! ## One more invocation -/

section Cons

variable {line : LineFormat} {i : Invocation} {is : List Invocation} {a : Instance}
  {output output' : Output} {o : Outcome}

/-- The bytes of a line. -/
def lineBytes (s : String) : List UInt8 :=
  (s ++ "\n").toUTF8.data.toList

theorem Output.writeLine_eq (output : Output) (s : String) :
    output.writeLine s = output.write (lineBytes s) := rfl

theorem performAll_cons_of_error {e : Error} (h : (a.invoke i).result = .error e) :
    performAll line (i :: is) a output = ⟨.error e, output, (a.invoke i).reports⟩ := by
  simp only [performAll, performOne, h, Performed.andThen]

theorem performAll_cons_of_written (h : (a.invoke i).result = .ok o)
    (hwrite : output.write (lineBytes (line i o)) = (.ok (), output')) :
    performAll line (i :: is) a output =
      let rest := performAll line is (a.invoke i).after output'
      ⟨rest.result.map (o :: ·), rest.output,
        (a.invoke i).reports ++ .invoked i.target o.value :: rest.reports⟩ := by
  simp only [performAll, performOne, h, Output.writeLine_eq, hwrite, Performed.andThen,
    List.append_assoc, List.singleton_append]

theorem performAll_cons_of_fault {fault : WriteFault} (h : (a.invoke i).result = .ok o)
    (hwrite : output.write (lineBytes (line i o)) = (.error fault, output')) :
    performAll line (i :: is) a output =
      ⟨.error (.emit fault), output', (a.invoke i).reports ++ [.invoked i.target o.value]⟩ := by
  simp only [performAll, performOne, h, Output.writeLine_eq, hwrite, Performed.andThen]

end Cons

/-! ## Up to the first failure -/

/-- What replies come to if nothing counts behind the first failure: the outcomes before it, and the
failure unless all succeed. -/
inductive Ends : List Reply → List Outcome → Option Error → Prop where
  | nil : Ends [] [] none
  | failure {r : Reply} {rs : List Reply} {e : Error} (h : r.result = .error e) :
      Ends (r :: rs) [] (some e)
  | cons {r : Reply} {rs : List Reply} {o : Outcome} {os : List Outcome} {failure : Option Error}
      (h : r.result = .ok o) (rest : Ends rs os failure) : Ends (r :: rs) (o :: os) failure

theorem Ends.unique {rs : List Reply} {os os' : List Outcome} {failure failure' : Option Error}
    (h : Ends rs os failure) (h' : Ends rs os' failure') : os = os' ∧ failure = failure' := by
  induction h generalizing os' with
  | nil =>
    cases h'
    exact ⟨rfl, rfl⟩
  | failure hr =>
    cases h' with
    | failure hr' =>
      rw [hr] at hr'
      cases hr'
      exact ⟨rfl, rfl⟩
    | cons hr' =>
      rw [hr] at hr'
      cases hr'
  | cons hr _ ih =>
    cases h' with
    | failure hr' =>
      rw [hr] at hr'
      cases hr'
    | cons hr' rest' =>
      rw [hr] at hr'
      cases hr'
      obtain ⟨rfl, rfl⟩ := ih rest'
      exact ⟨rfl, rfl⟩

/-- The lines for invocations with these outcomes. -/
def lines (line : LineFormat) (is : List Invocation) (os : List Outcome) : List UInt8 :=
  (is.zip os).flatMap fun x => lineBytes (line x.1 x.2)

@[simp] theorem lines_nil (line : LineFormat) (is : List Invocation) : lines line is [] = [] := by
  rw [lines, List.zip_nil_right, List.flatMap_nil]

@[simp] theorem lines_cons (line : LineFormat) (i : Invocation) (is : List Invocation) (o : Outcome)
    (os : List Outcome) :
    lines line (i :: is) (o :: os) = lineBytes (line i o) ++ lines line is os := rfl

/-- What a run reports of an invocation. -/
def reportsOf (i : Invocation) (r : Reply) : List Report :=
  r.reports ++ r.result.toOption.toList.map fun o => .invoked i.target o.value

theorem reportsOf_of_error {i : Invocation} {r : Reply} {e : Error} (h : r.result = .error e) :
    reportsOf i r = r.reports := by
  rw [reportsOf, h]
  exact List.append_nil _

theorem reportsOf_of_ok {i : Invocation} {r : Reply} {o : Outcome} (h : r.result = .ok o) :
    reportsOf i r = r.reports ++ [.invoked i.target o.value] := by
  rw [reportsOf, h]
  rfl

/-- What a run reports of the first so many invocations of a session. -/
def reportsOfFirst (n : Nat) (is : List Invocation) (rs : List Reply) : List Report :=
  ((is.zip rs).take n).flatMap fun x => reportsOf x.1 x.2

@[simp] theorem reportsOfFirst_zero (is : List Invocation) (rs : List Reply) :
    reportsOfFirst 0 is rs = [] := rfl

@[simp] theorem reportsOfFirst_succ (n : Nat) (i : Invocation) (is : List Invocation) (r : Reply)
    (rs : List Reply) :
    reportsOfFirst (n + 1) (i :: is) (r :: rs) = reportsOf i r ++ reportsOfFirst n is rs := rfl

/-- The induction over the invocations: if all lines fit, those before the first failure are written,
and nothing is done behind it. -/
theorem exists_ends_performAll (line : LineFormat) (is : List Invocation) (a : Instance)
    (written : List UInt8) (whenFull : WriteFault) :
    ∃ os failure, Ends (a.session is) os failure ∧
      performAll line is a ⟨written, none, whenFull⟩ =
        ⟨failure.elim (.ok os) .error, ⟨written ++ lines line is os, none, whenFull⟩,
          reportsOfFirst (os.length + 1) is (a.session is)⟩ := by
  induction is generalizing a written with
  | nil =>
    refine ⟨[], none, .nil, ?_⟩
    rw [performAll, lines_nil, List.append_nil]
    rfl
  | cons i is ih =>
    cases hresult : (a.invoke i).result with
    | error e =>
      refine ⟨[], some e, .failure hresult, ?_⟩
      rw [performAll_cons_of_error hresult, lines_nil, List.append_nil, Instance.session,
        List.length_nil, reportsOfFirst_succ, reportsOf_of_error hresult, reportsOfFirst_zero,
        List.append_nil]
      rfl
    | ok o =>
      obtain ⟨os, failure, hends, hrest⟩ := ih (a.invoke i).after (written ++ lineBytes (line i o))
      refine ⟨o :: os, failure, .cons hresult hends, ?_⟩
      rw [performAll_cons_of_written hresult Output.write_unlimited, hrest, Instance.session,
        List.length_cons, reportsOfFirst_succ, reportsOf_of_ok hresult, lines_cons]
      cases failure <;> simp [Except.map]

/-! ## Further invocations -/

section Append

variable {line : LineFormat} {i : Invocation} {is : List Invocation} {a : Instance}
  {output : Output}

theorem Performed.andThen_of_error {p : Performed} {e : Error} (h : p.result = .error e)
    (rest : Instance → Output → Run (List Outcome)) :
    p.andThen rest = ⟨.error e, p.output, p.reports⟩ := by
  simp only [andThen, h]

theorem Performed.andThen_of_ok {p : Performed} {o : Outcome} (h : p.result = .ok o)
    (rest : Instance → Output → Run (List Outcome)) :
    p.andThen rest = ⟨(rest p.after p.output).result.map (o :: ·), (rest p.after p.output).output,
      p.reports ++ (rest p.after p.output).reports⟩ := by
  simp only [andThen, h]

theorem after_performOne : (performOne line i a output).after = (a.invoke i).after := by
  fun_cases performOne line i a output <;> rfl

theorem written_performOne : output.written <+: (performOne line i a output).output.written := by
  fun_cases performOne line i a output with
  | case1 => exact List.prefix_rfl
  | case2 _ o _ _ e output' hwrite =>
    have hadded := Output.written_write output (lineBytes (line i o))
    rw [← Output.writeLine_eq, hwrite] at hadded
    exact hadded ▸ List.prefix_append _ _
  | case3 _ o _ _ output' hwrite =>
    have hadded := Output.written_write output (lineBytes (line i o))
    rw [← Output.writeLine_eq, hwrite] at hadded
    exact hadded ▸ List.prefix_append _ _

/-- Performing invocations only adds to what was written. -/
theorem written_performAll : output.written <+: (performAll line is a output).output.written := by
  induction is generalizing a output with
  | nil => exact List.prefix_rfl
  | cons i is ih =>
    rw [performAll]
    cases hone : (performOne line i a output).result with
    | error e =>
      rw [Performed.andThen_of_error hone]
      exact written_performOne
    | ok o =>
      rw [Performed.andThen_of_ok hone]
      exact written_performOne.trans ih

/-- Behind a failure nothing is done. -/
theorem performAll_append_of_error {e : Error} (h : (performAll line is a output).result = .error e)
    (js : List Invocation) :
    performAll line (is ++ js) a output = performAll line is a output := by
  induction is generalizing a output e with
  | nil => cases h
  | cons i is ih =>
    rw [performAll] at h
    rw [List.cons_append, performAll, performAll]
    generalize performOne line i a output = p at h ⊢
    cases hone : p.result with
    | error e => rw [Performed.andThen_of_error hone, Performed.andThen_of_error hone]
    | ok o =>
      rw [Performed.andThen_of_ok hone] at h
      rw [Performed.andThen_of_ok hone, Performed.andThen_of_ok hone]
      cases hrest : (performAll line is p.after p.output).result with
      | error e' => rw [ih hrest, hrest]
      | ok os =>
        rw [hrest] at h
        cases h

/-- Behind invocations that succeed the others are performed. -/
theorem performAll_append_of_ok {os : List Outcome}
    (h : (performAll line is a output).result = .ok os) (js : List Invocation) :
    performAll line (is ++ js) a output =
      let before := performAll line is a output
      let rest := performAll line js (a.afterAll is) before.output
      ⟨rest.result.map (os ++ ·), rest.output, before.reports ++ rest.reports⟩ := by
  induction is generalizing a output os with
  | nil =>
    cases h
    show performAll line js a output = ⟨(performAll line js a output).result.map id, _, _⟩
    rw [Except.map_id]
    rfl
  | cons i is ih =>
    rw [performAll] at h
    rw [List.cons_append, performAll, performAll]
    have hafter : (performOne line i a output).after = (a.invoke i).after := after_performOne
    generalize performOne line i a output = p at h hafter ⊢
    cases hone : p.result with
    | error e =>
      rw [Performed.andThen_of_error hone] at h
      cases h
    | ok o =>
      rw [Performed.andThen_of_ok hone] at h
      rw [Performed.andThen_of_ok hone, Performed.andThen_of_ok hone]
      cases hrest : (performAll line is p.after p.output).result with
      | error e =>
        rw [hrest] at h
        cases h
      | ok os' =>
        rw [hrest] at h
        cases h
        rw [hafter] at hrest ⊢
        simp only [ih hrest, Instance.afterAll_cons, List.append_assoc]
        generalize performAll line js _ _ = rest
        obtain ⟨result, output', reports⟩ := rest
        cases result <;> rfl

end Append

/-! ## Whole runs -/

/-- A new instance of the module at a path: its image is loaded, prepared and instantiated. -/
def fresh (config : Config) (files : FileSystem) (path : String) : Except Error Instance := do
  let image ← (Image.load files path).mapError .load
  let prepared ← Prepared.ofImage config image
  prepared.instantiate

section Start

variable {config : Config} {files : FileSystem} {path : String}

theorem start_eq : (start config files path).1 = fresh config files path := by
  rw [start, fresh]
  cases Image.load files path with
  | error e => rfl
  | ok image =>
    show _ = (do let prepared ← Prepared.ofImage config image; prepared.instantiate)
    cases himage : Prepared.ofImage config image with
    | error e => simp only [himage]; rfl
    | ok p =>
      show _ = p.instantiate
      cases hfresh : p.instantiate with
      | error e => simp only [himage, hfresh]
      | ok a => simp only [himage, hfresh]

theorem fresh_of_file {bytes : ByteArray} {p : Prepared} (hfile : files path = .ok (.file bytes))
    (hprepared : Prepared.ofImage config ⟨bytes, some path⟩ = .ok p) :
    fresh config files path = p.instantiate := by
  rw [fresh, Image.load, hfile]
  show (do let prepared ← Prepared.ofImage config ⟨bytes, some path⟩; prepared.instantiate) = _
  rw [hprepared]
  rfl

theorem onInstance_of_error {e : Error} (h : fresh config files path = .error e) (output : Output)
    (body : Instance → Output → Run (List Outcome)) :
    onInstance config files path output body =
      ⟨.error e, output, (start config files path).2⟩ := by
  rw [← start_eq] at h
  rw [onInstance]
  split
  · next heq =>
    rw [heq] at h ⊢
    cases h
    rfl
  · next heq =>
    rw [heq] at h
    cases h

theorem onInstance_of_ok {a : Instance} (h : fresh config files path = .ok a) (output : Output)
    (body : Instance → Output → Run (List Outcome)) :
    onInstance config files path output body =
      (body a output).after (start config files path).2 := by
  rw [← start_eq] at h
  rw [onInstance]
  split
  · next heq =>
    rw [heq] at h
    cases h
  · next heq =>
    rw [heq] at h ⊢
    cases h
    rfl

end Start

/-- A run is its steps one after the other, up to the first that fails. -/
structure ComposesSteps (config : Config) (files : FileSystem) (path : String)
    (is : List Invocation) (output : Output) : Prop where
  /-- Without an instance nothing is written. -/
  refused : ∀ e, fresh config files path = .error e →
    run config files path is output =
      ⟨.error e, output, .reached .unloaded :: (start config files path).2⟩
  /-- On the new instance the invocations are made as in a session, up to the first failure; the
  lines before it are written, and no more than its own reply is reported. -/
  performed : ∀ a, fresh config files path = .ok a → ∃ os failure,
    Ends (a.session is) os failure ∧
      run config files path is output =
        ⟨failure.elim (.ok os) .error,
          { output with written := output.written ++ lines (fun i o => o.line i) is os },
          .reached .unloaded :: (start config files path).2 ++
            reportsOfFirst (os.length + 1) is (a.session is)⟩

/-- What a run comes to with further invocations behind: the same if it fails, and else more. -/
structure GoesOn (r r' : Run (List Outcome)) : Prop where
  failed : ∀ e, r.result = .error e → r' = r
  succeeded : ∀ os, r.result = .ok os →
    r.output.written <+: r'.output.written ∧ ∀ os', r'.result = .ok os' → os <+: os'

theorem goesOn_performAll (line : LineFormat) (is js : List Invocation) (a : Instance)
    (output : Output) :
    GoesOn (performAll line is a output) (performAll line (is ++ js) a output) where
  failed _ h := performAll_append_of_error h js
  succeeded os h := by
    rw [performAll_append_of_ok h js]
    refine ⟨written_performAll, fun os' hos' => ?_⟩
    simp only at hos'
    generalize (performAll line js _ _).result = rest at hos'
    cases rest with
    | error e => cases hos'
    | ok more =>
      cases hos'
      exact List.prefix_append os more

theorem GoesOn.after {r r' : Run (List Outcome)} (h : GoesOn r r') (before : List Report) :
    GoesOn (r.after before) (r'.after before) where
  failed e he := by rw [h.failed e he]
  succeeded os hos := h.succeeded os hos

theorem goesOn_run (config : Config) (files : FileSystem) (path : String) (is js : List Invocation)
    (output : Output) :
    GoesOn (run config files path is output) (run config files path (is ++ js) output) := by
  refine .after ?_ _
  cases hfresh : fresh config files path with
  | error e =>
    rw [onInstance_of_error hfresh, onInstance_of_error hfresh]
    exact ⟨fun _ _ => rfl, nofun⟩
  | ok a =>
    rw [onInstance_of_ok hfresh, onInstance_of_ok hfresh]
    exact (goesOn_performAll _ is js a output).after _

theorem composesSteps (config : Config) (files : FileSystem) (path : String)
    (is : List Invocation) (output : Output) (hroom : output.room = none) :
    ComposesSteps config files path is output where
  refused e h := by
    rw [run, onInstance_of_error h]
    rfl
  performed a h := by
    obtain ⟨written, room, whenFull⟩ := output
    cases hroom
    obtain ⟨os, failure, hends, hperformed⟩ :=
      exists_ends_performAll (fun i o => o.line i) is a written whenFull
    refine ⟨os, failure, hends, ?_⟩
    rw [run, onInstance_of_ok h, hperformed]
    rfl

/-- Where all lines fit, a run is the composition of its steps, and with further invocations behind
it fails in the same way or goes on. -/
theorem run_composes_steps (config : Config) (files : FileSystem) (path : String) (output : Output)
    (hroom : output.room = none) :
    (∀ is, ComposesSteps config files path is output) ∧
      ∀ is js, GoesOn (run config files path is output) (run config files path (is ++ js) output) :=
  ⟨fun is => composesSteps config files path is output hroom,
    fun is js => goesOn_run config files path is js output⟩

/-- Files that are all the module that keeps a tally. -/
def tallyFiles : FileSystem := fun _ => .ok (.file (Image.ofText tallyText).bytes)

theorem fresh_tallyFiles (path : String) :
    fresh { fuel := some 100 } tallyFiles path = .ok tally := by
  obtain ⟨cs, htext, hread⟩ := parse_tallyText
  have hprepared := Prepared.ofImage_ofText { fuel := some 100 } htext hread validate_tallyModule
  rw [← Prepared.ofImage_origin _ _ (some path)] at hprepared
  rw [fresh_of_file rfl hprepared]
  rfl

/-- The second of three invocations fails: one line is written, and whatever stands behind is not
made. -/
theorem run_composes_steps_tally :
    let is := [tallyCall 5, { target := "memory" }, tallyCall 6]
    let r := run { fuel := some 100 } tallyFiles "tally.wat" is {}
    r.result = .error (.exportNotFound "memory") ∧
      r.output.written = "tally(true, 5) = 5\n".toUTF8.data.toList ∧
      ∀ js, run { fuel := some 100 } tallyFiles "tally.wat" (is ++ js) {} = r := by
  intro is r
  obtain ⟨hcomposes, hgoesOn⟩ :=
    run_composes_steps { fuel := some 100 } tallyFiles "tally.wat" {} rfl
  obtain ⟨os, failure, hends, hrun⟩ := (hcomposes is).performed tally (fresh_tallyFiles _)
  have hends' : Ends (tally.session is) [⟨some (.i64 5), some 6⟩]
      (some (.exportNotFound "memory")) := .cons rfl (.failure rfl)
  obtain ⟨rfl, rfl⟩ := hends.unique hends'
  have hresult : r.result = .error (.exportNotFound "memory") := congrArg Run.result hrun
  refine ⟨hresult, ?_, fun js => (hgoesOn is js).failed _ hresult⟩
  refine (congrArg (fun r => r.output.written) hrun).trans ?_
  decide +kernel

end WasmGuest
