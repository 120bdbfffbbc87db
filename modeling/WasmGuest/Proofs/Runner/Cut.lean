import WasmGuest.Proofs.Runner.Composition
import WasmGuest.Scenario.Table

/-!
# Output that is cut

A call that writes a line for each of its invocations may meet a sink that has
room for so many bytes only.  Compared with the same call where all lines fit, the
bytes are cut at that place and nothing else changes, up to the line that is cut;
there the call fails and makes no further invocation.

* `CutsExactly` relates the two calls.
* `cutsExactly_performAll` is the induction over the invocations.
* `cutsExactly_onInstance` carries it to the calls that begin with a new instance,
  and `performEach_eq_performAll` to those that number their invocations.
-/

namespace WasmGuest

/-- A call on a sink with so much room, compared with the same call where all lines fit.  `first n`
is the call on the first `n` of its `count` invocations only. -/
structure CutsAt (call : Output → Run (List Outcome)) (first : Nat → Output → Run (List Outcome))
    (count : Nat) (before : List UInt8) (room : Nat) (whenFull : WriteFault) : Prop where
  written_eq : (call ⟨before, some room, whenFull⟩).output.written =
    before ++ (call {}).output.written.take room
  unchanged : (call {}).output.written.length ≤ room →
    (call ⟨before, some room, whenFull⟩).result = (call {}).result ∧
      (call ⟨before, some room, whenFull⟩).reports = (call {}).reports
  /-- If not all lines fit, the call fails at the line that is cut, and the invocations behind it
  might as well not be there. -/
  stops : room < (call {}).output.written.length →
    (call ⟨before, some room, whenFull⟩).result = .error (.emit whenFull) ∧
      ∃ k < count, (first k {}).output.written.length ≤ room ∧
        room < (first (k + 1) {}).output.written.length ∧
        (call ⟨before, some room, whenFull⟩).reports = (first (k + 1) {}).reports ∧
        call ⟨before, some room, whenFull⟩ = first (k + 1) ⟨before, some room, whenFull⟩

/-- A call is cut exactly where the room ends, whatever room there is. -/
def CutsExactly (call : Output → Run (List Outcome)) (first : Nat → Output → Run (List Outcome))
    (count : Nat) : Prop :=
  ∀ before room whenFull, CutsAt call first count before room whenFull

/-! ## Invocations on an instance -/

section Perform

variable {line : LineFormat} {a : Instance} {i : Invocation} {is : List Invocation} {o : Outcome}

/-- Where all lines fit it does not matter what was written before. -/
theorem performAll_unlimited (line : LineFormat) (is : List Invocation) (a : Instance)
    (written : List UInt8) (whenFull : WriteFault) :
    performAll line is a ⟨written, none, whenFull⟩ =
      { performAll line is a {} with
        output := ⟨written ++ (performAll line is a {}).output.written, none, whenFull⟩ } := by
  obtain ⟨os, failure, hends, hwhole⟩ := exists_ends_performAll line is a [] .brokenPipe
  obtain ⟨os', failure', hends', hwritten⟩ := exists_ends_performAll line is a written whenFull
  obtain ⟨rfl, rfl⟩ := hends.unique hends'
  rw [hwritten, hwhole]
  rfl

/-- Where all lines fit, one more invocation in front puts its line in front. -/
theorem performAll_cons_unlimited (h : (a.invoke i).result = .ok o) :
    performAll line (i :: is) a {} =
      let rest := performAll line is (a.invoke i).after {}
      ⟨rest.result.map (o :: ·), { written := lineBytes (line i o) ++ rest.output.written },
        (a.invoke i).reports ++ .invoked i.target o.value :: rest.reports⟩ := by
  rw [performAll_cons_of_written h Output.write_unlimited, performAll_unlimited]
  rfl

/-- The relation for performing invocations in order. -/
abbrev CutsPerforming (line : LineFormat) (is : List Invocation) (a : Instance)
    (before : List UInt8) (room : Nat) (whenFull : WriteFault) : Prop :=
  CutsAt (performAll line is a) (fun n => performAll line (is.take n) a) is.length before room
    whenFull

variable {before : List UInt8} {room : Nat} {whenFull : WriteFault}

/-- The first invocation fails: nothing is written. -/
theorem cutsPerforming_of_error {e : Error} (h : (a.invoke i).result = .error e) :
    CutsPerforming line (i :: is) a before room whenFull := by
  have hcall (output : Output) : performAll line (i :: is) a output =
      ⟨.error e, output, (a.invoke i).reports⟩ := performAll_cons_of_error h
  constructor
  case written_eq => rw [hcall, hcall, List.take_nil, List.append_nil]
  case unchanged =>
    intro _
    rw [hcall, hcall]
    exact ⟨rfl, rfl⟩
  case stops =>
    rw [hcall]
    exact nofun

/-- The first line does not fit. -/
theorem cutsPerforming_of_lt (h : (a.invoke i).result = .ok o)
    (hroom : room < (lineBytes (line i o)).length) :
    CutsPerforming line (i :: is) a before room whenFull := by
  have hcut (js : List Invocation) :
      performAll line (i :: js) a ⟨before, some room, whenFull⟩ = _ :=
    performAll_cons_of_fault h (Output.write_of_lt hroom)
  have hwhole (js : List Invocation) : performAll line (i :: js) a {} = _ :=
    performAll_cons_unlimited h
  constructor
  case written_eq =>
    rw [hcut, hwhole, List.take_append_of_le_length (Nat.le_of_lt hroom)]
  case unchanged =>
    intro hall
    rw [hwhole, List.length_append] at hall
    omega
  case stops =>
    intro _
    refine ⟨by rw [hcut], 0, Nat.succ_pos _, Nat.zero_le room, ?_, ?_, ?_⟩
    · rw [List.take_succ_cons, hwhole, List.length_append]
      omega
    · rw [List.take_succ_cons, List.take_zero, hcut, hwhole]
      rfl
    · rw [List.take_succ_cons, hcut, hcut]

/-- The first line fits, and the others meet the room that is left. -/
theorem cutsPerforming_of_le (h : (a.invoke i).result = .ok o)
    (hroom : (lineBytes (line i o)).length ≤ room)
    (hrest : CutsPerforming line is (a.invoke i).after (before ++ lineBytes (line i o))
      (room - (lineBytes (line i o)).length) whenFull) :
    CutsPerforming line (i :: is) a before room whenFull := by
  have hcut (js : List Invocation) :
      performAll line (i :: js) a ⟨before, some room, whenFull⟩ = _ :=
    performAll_cons_of_written h (Output.write_of_le hroom)
  have hwhole (js : List Invocation) : performAll line (i :: js) a {} = _ :=
    performAll_cons_unlimited h
  constructor
  case written_eq =>
    rw [hcut, hwhole]
    simp only
    rw [hrest.written_eq, List.take_append, List.take_of_length_le hroom, List.append_assoc]
  case unchanged =>
    intro hall
    rw [hwhole, List.length_append] at hall
    obtain ⟨hresult, hreports⟩ := hrest.unchanged (by omega)
    rw [hcut, hwhole]
    simp only [hresult, hreports, and_self]
  case stops =>
    intro hover
    rw [hwhole, List.length_append] at hover
    obtain ⟨hresult, k, hk, hbefore, hbehind, hreports, hcall⟩ := hrest.stops (by omega)
    refine ⟨?_, k + 1, Nat.succ_lt_succ hk, ?_, ?_, ?_, ?_⟩
    · rw [hcut]
      simp only [hresult]
      rfl
    · rw [List.take_succ_cons, hwhole, List.length_append]
      omega
    · rw [List.take_succ_cons, hwhole, List.length_append]
      omega
    · rw [List.take_succ_cons, hcut, hwhole]
      simp only [hreports]
    · rw [List.take_succ_cons, hcut, hcut, hcall]

/-- The induction over the invocations, and over the room that is left. -/
theorem cutsExactly_performAll (line : LineFormat) (is : List Invocation) (a : Instance) :
    CutsExactly (performAll line is a) (fun n => performAll line (is.take n) a) is.length := by
  intro before room whenFull
  induction is generalizing a before room with
  | nil =>
    refine ⟨?_, fun _ => ⟨rfl, rfl⟩, nofun⟩
    rw [performAll, performAll, List.take_nil, List.append_nil]
  | cons i is ih =>
    cases hresult : (a.invoke i).result with
    | error e => exact cutsPerforming_of_error hresult
    | ok o =>
      rcases Nat.lt_or_ge room (lineBytes (line i o)).length with hover | hfits
      · exact cutsPerforming_of_lt hresult hover
      · exact cutsPerforming_of_le hresult hfits (ih _ _ _)

end Perform

/-! ## Calls that begin with a new instance -/

theorem CutsExactly.after {call : Output → Run (List Outcome)}
    {first : Nat → Output → Run (List Outcome)} {count : Nat} (h : CutsExactly call first count)
    (front : List Report) :
    CutsExactly (fun output => (call output).after front)
      (fun n output => (first n output).after front) count := by
  intro before room whenFull
  obtain ⟨hwritten, hunchanged, hstops⟩ := h before room whenFull
  refine ⟨hwritten, fun hfits => ?_, fun hover => ?_⟩
  · obtain ⟨hresult, hreports⟩ := hunchanged hfits
    exact ⟨hresult, congrArg (front ++ ·) hreports⟩
  · obtain ⟨hresult, k, hk, hbefore, hbehind, hreports, hcall⟩ := hstops hover
    exact ⟨hresult, k, hk, hbefore, hbehind, congrArg (front ++ ·) hreports,
      congrArg (·.after front) hcall⟩

theorem cutsExactly_onInstance (config : Config) (files : FileSystem) (path : String)
    (line : LineFormat) (is : List Invocation) :
    CutsExactly (fun output => onInstance config files path output (performAll line is))
      (fun n output => onInstance config files path output (performAll line (is.take n)))
      is.length := by
  cases hfresh : fresh config files path with
  | error e =>
    simp only [onInstance_of_error hfresh]
    intro before room whenFull
    exact ⟨by rw [List.take_nil, List.append_nil], fun _ => ⟨rfl, rfl⟩, nofun⟩
  | ok a =>
    simp only [onInstance_of_ok hfresh]
    exact (cutsExactly_performAll line is a).after _

theorem performEach_eq_performAll (line : LineFormat) (make : Nat → Invocation) (count first : Nat)
    (a : Instance) (output : Output) :
    performEach line make count first a output =
      performAll line ((List.range' first count).map make) a output := by
  induction count generalizing first a output with
  | zero => rfl
  | succ count ih =>
    rw [performEach, List.range'_succ, List.map_cons, performAll]
    congr 1
    funext a output
    exact ih (first + 1) a output

theorem cutsExactly_run (config : Config) (files : FileSystem) (path : String)
    (is : List Invocation) :
    CutsExactly (run config files path is) (fun n => run config files path (is.take n)) is.length :=
  (cutsExactly_onInstance config files path _ is).after _

theorem Scenario.cutsExactly_run (s : Scenario) :
    CutsExactly s.run (fun n => Scenario.run { s with invocations := s.invocations.take n })
      s.invocations.length :=
  (WasmGuest.cutsExactly_run {} files s.file s.invocations).after _

/-- It is enough to know the shorter calls as far as the call goes. -/
theorem CutsExactly.of_first_eq {call : Output → Run (List Outcome)}
    {first first' : Nat → Output → Run (List Outcome)} {count : Nat}
    (h : CutsExactly call first count) (hfirst : ∀ n ≤ count, first' n = first n) :
    CutsExactly call first' count := by
  intro before room whenFull
  obtain ⟨hwritten, hunchanged, hstops⟩ := h before room whenFull
  refine ⟨hwritten, hunchanged, fun hover => ?_⟩
  obtain ⟨hresult, k, hk, hrest⟩ := hstops hover
  refine ⟨hresult, k, hk, ?_⟩
  rw [hfirst k (Nat.le_of_lt hk), hfirst (k + 1) hk]
  exact hrest

theorem Scenario.gas_eq (limit : UInt64) (upto : Int32) :
    gas limit upto = fun output => onInstance { fuel := some limit } files fibonacci.file output
      (performAll gasLine ((List.range' 1 upto.toInt.toNat).map gasCall)) := by
  funext output
  rw [gas]
  congr 1
  funext a output
  exact performEach_eq_performAll gasLine gasCall _ 1 a output

/-- A number up to an integer is the same number as a 32-bit integer. -/
theorem Scenario.toNat_ofNat_of_le {upto : Int32} {n : Nat} (h : n ≤ upto.toInt.toNat) :
    (Int32.ofNat n).toInt.toNat = n := by
  have hupto := Int32.toInt_lt upto
  rw [Int32.toInt_ofNat_of_lt (by omega), Int.toNat_natCast]

theorem Scenario.cutsExactly_gas (limit : UInt64) (upto : Int32) :
    CutsExactly (gas limit upto) (fun n => gas limit (Int32.ofNat n)) upto.toInt.toNat := by
  have hcuts := cutsExactly_onInstance { fuel := some limit } files fibonacci.file gasLine
    ((List.range' 1 upto.toInt.toNat).map gasCall)
  rw [List.length_map, List.length_range'] at hcuts
  rw [gas_eq]
  refine hcuts.of_first_eq fun n hn => ?_
  rw [gas_eq, ← List.map_take, List.take_range'_of_length_ge hn, toNat_ofNat_of_le hn]

/-- A sink with limited room cuts what is written where the room ends and changes nothing else, be
it on a run, on a scenario or on the gas table; and it makes no difference in which pieces a line
reaches the sink. -/
theorem cut_exactly :
    (∀ (o : Output) (s : String) (pieces : List (List UInt8)),
      pieces.flatten = (s ++ "\n").toUTF8.data.toList → o.writePieces pieces = o.writeLine s) ∧
    (∀ config files path is,
      CutsExactly (run config files path is) (fun n => run config files path (is.take n))
        is.length) ∧
    (∀ s : Scenario, CutsExactly s.run
      (fun n => Scenario.run { s with invocations := s.invocations.take n })
      s.invocations.length) ∧
    ∀ limit upto, CutsExactly (Scenario.gas limit upto)
      (fun n => Scenario.gas limit (Int32.ofNat n)) upto.toInt.toNat := by
  refine ⟨fun o s pieces hpieces => ?_, cutsExactly_run, Scenario.cutsExactly_run,
    Scenario.cutsExactly_gas⟩
  rw [Output.writePieces_eq_write, hpieces, Output.writeLine]

/-- The second of three lines is cut behind its second byte. -/
theorem cut_exactly_tally :
    let is := [tallyCall 5, tallyCall 6, tallyCall 7]
    let r := run { fuel := some 100 } tallyFiles "tally.wat" is ⟨[], some 21, .writeZero⟩
    r.result = .error (.emit .writeZero) ∧
      r.output.written = "tally(true, 5) = 5\nta".toUTF8.data.toList := by
  intro is r
  obtain ⟨-, hrun, -, -⟩ := cut_exactly
  obtain ⟨hwritten, -, hstops⟩ :=
    hrun { fuel := some 100 } tallyFiles "tally.wat" is [] 21 .writeZero
  obtain ⟨os, failure, hends, hwhole⟩ :=
    (composesSteps { fuel := some 100 } tallyFiles "tally.wat" is {} rfl).performed tally
      (fresh_tallyFiles _)
  have hends' : Ends (tally.session is) [⟨some (.i64 5), some 6⟩, ⟨some (.i64 11), some 6⟩,
      ⟨some (.i64 18), some 6⟩] none := .cons rfl (.cons rfl (.cons rfl .nil))
  obtain ⟨rfl, rfl⟩ := hends.unique hends'
  have htext : (run { fuel := some 100 } tallyFiles "tally.wat" is {}).output.written =
      "tally(true, 5) = 5\ntally(true, 6) = 11\ntally(true, 7) = 18\n".toUTF8.data.toList := by
    refine (congrArg (fun r => r.output.written) hwhole).trans ?_
    decide +kernel
  rw [htext] at hwritten hstops
  refine ⟨(hstops (by decide +kernel)).1, hwritten.trans ?_⟩
  decide +kernel

end WasmGuest
