import WasmGuest.Proofs.Runner.Composition

/-!
# The stages of a run

A run reports its progress as it happens: that nothing is loaded yet, that the
module is compiled, that it is instantiated, and every invocation that returned.  It
never goes back, and behind the first failure it reports no stage.

* `stages` are the stages that reports announce.  An invocation announces none
  (`stages_invoke`), and what leads to an instance the ones it passes
  (`stages_start_of_ok` and its like).
* `Finishes` lists how invocations on an instance end: all return and all lines are
  written, one of them fails, or a line cannot be written.
* `exists_finishes_performAll` is the induction over the invocations.
* `run_reports_stages` is about whole runs.
-/

namespace WasmGuest

/-- The stages that reports announce. -/
def stages (reports : List Report) : List Stage :=
  reports.filterMap Report.stage?

@[simp] theorem stages_append (before behind : List Report) :
    stages (before ++ behind) = stages before ++ stages behind :=
  List.filterMap_append

/-! ## One invocation -/

theorem stage?_of_report? {target : String} {x : HostCall} {r : Report}
    (h : x.report? target = some r) : r.stage? = none := by
  revert h
  fun_cases HostCall.report? target x <;> rintro ⟨⟩ <;> rfl

/-- An invocation reports what it calls and what goes wrong, and no stage. -/
theorem stages_invoke (a : Instance) (i : Invocation) : stages (a.invoke i).reports = [] := by
  fun_cases Instance.invoke a i with
  | case1 => rfl
  | case2 => rfl
  | case3 f type _ _ prepared store result after calls unusable _ =>
    rw [stages_append, stages, stages, List.filterMap_eq_nil_iff.2, List.filterMap_eq_nil_iff.2]
    · rfl
    · intro r hr
      obtain ⟨x, -, hx⟩ := List.mem_filterMap.1 hr
      exact stage?_of_report? hx
    · intro r hr
      obtain ⟨fault, -, rfl⟩ := Option.map_eq_some_iff.1 (Option.mem_toList.1 hr)
      rfl

/-! ## Invocations in order -/

/-- How invocations end that are made in order on an instance, with a line written for each that
returns: the outcomes that were returned, the result, and the output behind it. -/
inductive Finishes (line : LineFormat) (is : List Invocation) (a : Instance) (output : Output) :
    List Outcome → Except Error (List Outcome) → Output → Prop where
  /-- All return, and all lines are written. -/
  | all {returned : List Outcome} {after : Output} (hreplies : Ends (a.session is) returned none)
      (hlines : output.write (lines line is returned) = (.ok (), after)) :
      Finishes line is a output returned (.ok returned) after
  /-- One fails, behind those whose lines are written. -/
  | failure {returned : List Outcome} {e : Error} {after : Output}
      (hreplies : Ends (a.session is) returned (some e))
      (hlines : output.write (lines line is returned) = (.ok (), after)) :
      Finishes line is a output returned (.error e) after
  /-- The line of the last one that returned cannot be written, behind the others. -/
  | fault {emitted : List Outcome} {i : Invocation} {o : Outcome} {before after : Output}
      {fault : WriteFault}
      (hreplies : Ends (a.session (is.take (emitted.length + 1))) (emitted ++ [o]) none)
      (hi : is[emitted.length]? = some i)
      (hlines : output.write (lines line is emitted) = (.ok (), before))
      (hline : before.writeLine (line i o) = (.error fault, after)) :
      Finishes line is a output (emitted ++ [o]) (.error (.emit fault)) after

section Perform

variable {line : LineFormat} {i : Invocation} {is : List Invocation} {a : Instance}
  {output between after : Output} {o : Outcome}

theorem write_lines_cons {os : List Outcome}
    (hwrite : output.write (lineBytes (line i o)) = (.ok (), between)) :
    output.write (lines line (i :: is) (o :: os)) = between.write (lines line is os) := by
  rw [lines_cons, Output.write_append, hwrite]

/-- One more invocation in front that returns, with its line written. -/
theorem Finishes.cons {returned : List Outcome} {result : Except Error (List Outcome)}
    (h : Finishes line is (a.invoke i).after between returned result after)
    (hresult : (a.invoke i).result = .ok o)
    (hwrite : output.write (lineBytes (line i o)) = (.ok (), between)) :
    Finishes line (i :: is) a output (o :: returned) (result.map (o :: ·)) after := by
  cases h with
  | all hreplies hlines =>
    exact .all (.cons hresult hreplies) ((write_lines_cons hwrite).trans hlines)
  | failure hreplies hlines =>
    exact .failure (.cons hresult hreplies) ((write_lines_cons hwrite).trans hlines)
  | @fault emitted j last _ _ _ hreplies hj hlines hline =>
    show Finishes line (i :: is) a output (o :: emitted ++ [last]) _ after
    exact .fault (.cons hresult hreplies) hj ((write_lines_cons hwrite).trans hlines) hline

/-- The induction over the invocations: the stage is reported once for each that returns, and not
again behind the first failure. -/
theorem exists_finishes_performAll (line : LineFormat) (is : List Invocation) (a : Instance)
    (output : Output) : ∃ returned,
      Finishes line is a output returned (performAll line is a output).result
        (performAll line is a output).output ∧
      stages (performAll line is a output).reports = List.replicate returned.length .invoked := by
  induction is generalizing a output with
  | nil => exact ⟨[], .all .nil (Output.write_nil output), rfl⟩
  | cons i is ih =>
    cases hresult : (a.invoke i).result with
    | error e =>
      rw [performAll_cons_of_error hresult]
      exact ⟨[], .failure (.failure hresult) (Output.write_nil output), stages_invoke a i⟩
    | ok o =>
      cases hwrite : output.write (lineBytes (line i o)) with
      | mk written between =>
        cases written with
        | error fault =>
          rw [performAll_cons_of_fault hresult hwrite]
          refine ⟨[] ++ [o], .fault (.cons hresult .nil) rfl (Output.write_nil output) hwrite, ?_⟩
          rw [stages_append, stages_invoke]
          rfl
        | ok _ =>
          obtain ⟨returned, hfinishes, hstages⟩ := ih (a.invoke i).after between
          rw [performAll_cons_of_written hresult hwrite]
          refine ⟨o :: returned, hfinishes.cons hresult hwrite, ?_⟩
          rw [stages_append, stages_invoke]
          exact congrArg (Stage.invoked :: ·) hstages

/-- Three invocations return, and the second line is cut. -/
example : stages (performAll (fun i o => o.line i) [tallyCall 5, tallyCall 6, tallyCall 7] tally
    ⟨[], some 21, .writeZero⟩).reports = [.invoked, .invoked] := by
  decide +kernel

end Perform

/-! ## Whole runs -/

/-- The module at a path, loaded and prepared. -/
def ready (config : Config) (files : FileSystem) (path : String) : Except Error Prepared := do
  let image ← (Image.load files path).mapError .load
  Prepared.ofImage config image

section Start

variable {config : Config} {files : FileSystem} {path : String} {e : Error} {p : Prepared}

/-- What is ready is instantiated. -/
theorem fresh_eq (config : Config) (files : FileSystem) (path : String) :
    fresh config files path = ready config files path >>= Prepared.instantiate := by
  rw [fresh, ready]
  cases Image.load files path <;> rfl

theorem stages_start_of_error (h : ready config files path = .error e) :
    stages (start config files path).2 = [] := by
  fun_cases start config files path with
  | case1 => rfl
  | case2 => rfl
  | case3 image hload _ p hprepared | case4 image hload _ p hprepared =>
    rw [ready, hload] at h
    cases hprepared.symm.trans h

theorem stages_start_of_ok (h : ready config files path = .ok p) :
    stages (start config files path).2 =
      .compiled :: (p.instantiate.map fun _ => Stage.instantiated).toOption.toList := by
  fun_cases start config files path with
  | case1 e hload =>
    rw [ready, hload] at h
    cases h
  | case2 image hload _ e hprepared =>
    rw [ready, hload] at h
    cases hprepared.symm.trans h
  | case3 image hload _ p' hprepared _ e hmade | case4 image hload _ p' hprepared _ a hmade =>
    rw [ready, hload] at h
    cases hprepared.symm.trans h
    rw [hmade]
    rfl

end Start

/-- The stages that a run reports are those it reaches, each when it is reached. -/
structure ReportsStages (config : Config) (files : FileSystem) (path : String)
    (is : List Invocation) (output : Output) : Prop where
  /-- A run never goes back. -/
  ascending : (stages (run config files path is output).reports).Pairwise fun s t =>
    s.rank ≤ t.rank
  unloaded : ∀ e, ready config files path = .error e →
    (run config files path is output).result = .error e ∧
      (run config files path is output).output = output ∧
      stages (run config files path is output).reports = [.unloaded]
  compiled : ∀ p e, ready config files path = .ok p → p.instantiate = .error e →
    (run config files path is output).result = .error e ∧
      (run config files path is output).output = output ∧
      stages (run config files path is output).reports = [.unloaded, .compiled]
  /-- Behind the making of the instance there is one report for each invocation that returned: those
  whose lines were written, and one more if a line could not be written. -/
  instantiated : ∀ p a, ready config files path = .ok p → p.instantiate = .ok a →
    ∃ returned, Finishes (fun i o => o.line i) is a output returned
      (run config files path is output).result (run config files path is output).output ∧
    stages (run config files path is output).reports =
      [.unloaded, .compiled, .instantiated] ++ List.replicate returned.length .invoked

/-- Stages of one rank behind stages of lower ranks. -/
theorem pairwise_replicate (n : Nat) :
    ([.unloaded, .compiled, .instantiated] ++ List.replicate n .invoked : List Stage).Pairwise
      fun s t => s.rank ≤ t.rank := by
  rw [List.pairwise_append]
  refine ⟨by decide, List.pairwise_replicate.2 (.inr (Nat.le_refl _)), fun s _ t ht => ?_⟩
  rw [List.eq_of_mem_replicate ht]
  cases s <;> decide

section Run

variable {config : Config} {files : FileSystem} {path : String} {e : Error} {p : Prepared}

/-- Without an instance a run ends with the stages that lead to it. -/
theorem run_of_error (h : ready config files path >>= Prepared.instantiate = .error e)
    (is : List Invocation) (output : Output) :
    (run config files path is output).result = .error e ∧
      (run config files path is output).output = output ∧
      stages (run config files path is output).reports =
        .unloaded :: stages (start config files path).2 := by
  rw [run, onInstance_of_error ((fresh_eq config files path).trans h)]
  exact ⟨rfl, rfl, rfl⟩

theorem run_of_not_ready (h : ready config files path = .error e) (is : List Invocation)
    (output : Output) :
    (run config files path is output).result = .error e ∧
      (run config files path is output).output = output ∧
      stages (run config files path is output).reports = [.unloaded] := by
  have hnone : ready config files path >>= Prepared.instantiate = .error e := by rw [h]; rfl
  have hrun := run_of_error hnone is output
  rwa [stages_start_of_error h] at hrun

theorem run_of_not_instantiated (h : ready config files path = .ok p)
    (hmade : p.instantiate = .error e) (is : List Invocation) (output : Output) :
    (run config files path is output).result = .error e ∧
      (run config files path is output).output = output ∧
      stages (run config files path is output).reports = [.unloaded, .compiled] := by
  have hnone : ready config files path >>= Prepared.instantiate = .error e := by
    rw [h]
    exact hmade
  have hrun := run_of_error hnone is output
  rwa [stages_start_of_ok h, hmade] at hrun

theorem run_of_instantiated (h : ready config files path = .ok p) {a : Instance}
    (hmade : p.instantiate = .ok a) (is : List Invocation) (output : Output) :
    ∃ returned, Finishes (fun i o => o.line i) is a output returned
      (run config files path is output).result (run config files path is output).output ∧
    stages (run config files path is output).reports =
      [.unloaded, .compiled, .instantiated] ++ List.replicate returned.length .invoked := by
  have hfresh : fresh config files path = .ok a := by
    rw [fresh_eq, h]
    exact hmade
  obtain ⟨returned, hfinishes, hstages⟩ :=
    exists_finishes_performAll (fun i o => o.line i) is a output
  refine ⟨returned, ?_, ?_⟩
  · rw [run, onInstance_of_ok hfresh]
    exact hfinishes
  · rw [run, onInstance_of_ok hfresh, Run.after, Run.after]
    rw [stages_append, stages_append, hstages, stages_start_of_ok h, hmade]
    rfl

end Run

/-- Every run reports its stages in order, each exactly when it is reached, and none behind its
first failure. -/
theorem run_reports_stages (config : Config) (files : FileSystem) (path : String)
    (is : List Invocation) (output : Output) : ReportsStages config files path is output where
  ascending := by
    cases h : ready config files path with
    | error e =>
      rw [(run_of_not_ready h is output).2.2]
      decide
    | ok p =>
      cases hmade : p.instantiate with
      | error e =>
        rw [(run_of_not_instantiated h hmade is output).2.2]
        decide
      | ok a =>
        obtain ⟨returned, -, hstages⟩ := run_of_instantiated h hmade is output
        rw [hstages]
        exact pairwise_replicate returned.length
  unloaded _ h := run_of_not_ready h is output
  compiled _ _ h hmade := run_of_not_instantiated h hmade is output
  instantiated _ _ h hmade := run_of_instantiated h hmade is output

end WasmGuest
