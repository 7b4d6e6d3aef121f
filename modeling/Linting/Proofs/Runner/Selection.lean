import Linting.Linter.Script
import Linting.Proofs.Registry.Histories
import Linting.Proofs.Runner.Sequential
import Linting.Runner.Memory

/-! The linters that take part in a run. A selection picks them by name. If one of several is left
out, what remains to be done are the planned calls of the others, in the same order, so the outcome
is the one of a run in which that linter is silent, but for the number of linters. -/

namespace Linting

namespace Selection

theorem selects_iff {s : Selection} {name : LinterName} :
    s.selects name = true ↔
      (s.included.getD [] = [] ∨ name ∈ s.included.getD []) ∧ name ∉ s.excluded.getD [] := by
  unfold selects
  cases s.included with
  | none => simp
  | some names =>
    cases names with
    | nil => simp
    | cons first rest => simp

/-- Leaves out one linter more. -/
def leaveOut (s : Selection) (x : LinterName) : Selection :=
  s.exclude (x :: s.excluded.getD [])

theorem selects_leaveOut (s : Selection) (x name : LinterName) :
    (s.leaveOut x).selects name = (s.selects name && decide (name ≠ x)) := by
  rw [Bool.eq_iff_iff, Bool.and_eq_true, decide_eq_true_iff, selects_iff, selects_iff]
  simp only [leaveOut, exclude, Option.getD_some, List.mem_cons, not_or]
  rw [and_right_comm, and_assoc]

end Selection

/-- Finds nothing and never fails. -/
def Linter.silent : Linter := fun _ => .reported []

def ActiveLinter.silence (x : LinterName) (active : ActiveLinter) : ActiveLinter :=
  if active.name = x then ⟨active.name, Linter.silent⟩ else active

def PlannedCall.silence (x : LinterName) : PlannedCall → PlannedCall
  | build file => .build file
  | lint active file => .lint (active.silence x) file

theorem PlannedCall.silence_of_ne {x : LinterName} {c : PlannedCall}
    (h : c.call.linter? ≠ some x) : c.silence x = c := by
  cases c with
  | build => rfl
  | lint active file =>
    have other : active.name ≠ x := fun same => h (congrArg some same)
    rw [silence, ActiveLinter.silence, if_neg other]

theorem PlannedCall.silence_of_eq {x : LinterName} {c : PlannedCall}
    (h : c.call.linter? = some x) : ∃ file, c.silence x = .lint ⟨x, Linter.silent⟩ file := by
  cases c with
  | build => cases h
  | lint active file =>
    obtain rfl : active.name = x := Option.some.inj h
    exact ⟨file, by rw [silence, ActiveLinter.silence, if_pos rfl]⟩

namespace Runner

theorem names_make (registry : Registry) (selection : Selection) (engine : Engine) :
    (make registry selection engine).names = registry.names.filter selection.selects := by
  rw [names, make, Registry.names, List.map_map, List.filter_map]
  rfl

/-- Only what a selection says of the registered names counts. -/
theorem make_congr {registry : Registry} {s t : Selection} (engine : Engine)
    (h : ∀ name ∈ registry.names, s.selects name = t.selects name) :
    make registry s engine = make registry t engine := by
  have same : registry.descriptors.filter (fun d => s.selects d.name) =
      registry.descriptors.filter (fun d => t.selects d.name) := by
    apply List.filter_congr
    intro d hd
    exact h d.name (List.mem_map_of_mem hd)
  rw [make, make, same]

/-- The same run, but for one linter, which is still called and has nothing to say. -/
def silence (r : Runner) (x : LinterName) : Runner :=
  { r with linters := r.linters.map (·.silence x) }

/-- The calls that are not of one linter. -/
def others (x : LinterName) (p : List PlannedCall) : List PlannedCall :=
  p.filter fun c => c.call.linter? ≠ some x

theorem others_cons_of_own {x : LinterName} {c : PlannedCall} (own : c.call.linter? = some x)
    (p : List PlannedCall) : others x (c :: p) = others x p :=
  List.filter_cons_of_neg (by simpa using own)

theorem others_cons_of_other {x : LinterName} {c : PlannedCall} (other : c.call.linter? ≠ some x)
    (p : List PlannedCall) : others x (c :: p) = c :: others x p :=
  List.filter_cons_of_pos (by simpa using other)

/-- The same run, but without one linter. -/
def leaveOut (r : Runner) (x : LinterName) : Runner :=
  { r with linters := r.linters.filter (·.name ≠ x) }

theorem make_leaveOut (registry : Registry) (selection : Selection) (engine : Engine)
    (x : LinterName) :
    make registry (selection.leaveOut x) engine = (make registry selection engine).leaveOut x := by
  simp only [make, leaveOut, List.filter_map, List.filter_filter, Selection.selects_leaveOut,
    Function.comp_def, Bool.and_comm]

/-- With distinct names there is one linter less. -/
theorem length_leaveOut {r : Runner} (distinct : r.names.Nodup) {x : LinterName}
    (active : x ∈ r.names) : (r.leaveOut x).linters.length + 1 = r.linters.length := by
  have erased : (r.leaveOut x).names = r.names.erase x := by
    rw [distinct.erase_eq_filter, names, names, leaveOut, List.filter_map]
    simp [Function.comp_def, bne, BEq.beq]
  have shorter := congrArg List.length erased
  have positive := List.length_pos_of_mem active
  rw [List.length_erase_of_mem active] at shorter
  simp only [names, List.length_map] at shorter positive
  omega

variable {r r' : Runner} {x : LinterName}

theorem plan_leaveOut (r : Runner) (x : LinterName) (files : List Path) :
    (r.leaveOut x).plan files = others x (r.plan files) := by
  have each (file : Path) : (r.leaveOut x).planFile file = others x (r.planFile file) := by
    rw [planFile, planFile, leaveOut, others, List.filter_cons_of_pos (by rfl), List.filter_map]
    simp [Function.comp_def, PlannedCall.call, Call.linter?]
  rw [plan, plan, others, List.filter_flatMap]
  exact congrArg files.flatMap (funext each)

theorem plan_silence (r : Runner) (x : LinterName) (files : List Path) :
    (r.silence x).plan files = (r.plan files).map (·.silence x) := by
  have each (file : Path) :
      (r.silence x).planFile file = (r.planFile file).map (·.silence x) := by
    simp [planFile, silence, PlannedCall.silence]
  rw [plan, plan, List.map_flatMap]
  exact congrArg files.flatMap (funext each)

theorem Reports.of_engine_eq (same : r.engine = r'.engine) {c : PlannedCall} {found : List Lint}
    (h : r.Reports c found) : r'.Reports c found := by
  cases h with
  | build h => exact .build (same ▸ h)
  | lint hd h => exact .lint (same ▸ hd) h

theorem Fails.of_engine_eq (same : r.engine = r'.engine) {c : PlannedCall} {e : RunError}
    (h : r.Fails c e) : r'.Fails c e := by
  cases h with
  | build h => exact .build (same ▸ h)
  | failed hd h => exact .failed (same ▸ hd) h
  | panicked hd h => exact .panicked (same ▸ hd) h

theorem reports_nil_of_silent {file : Path} {found : List Lint}
    (h : r.Reports (.lint ⟨x, Linter.silent⟩ file) found) : found = [] := by
  cases h with
  | lint _ h =>
    cases h
    rfl

theorem not_fails_of_silent {file : Path} {e : RunError} :
    ¬ r.Fails (.lint ⟨x, Linter.silent⟩ file) e := by
  intro h
  cases h with
  | failed _ h => cases h
  | panicked _ h => cases h

/-- The calls of a silent linter can be struck out: nothing depends on them. -/
theorem Runs.of_silenced (same : r.engine = r'.engine) {p : List PlannedCall} {calls : List Call}
    {result : Except RunError (List Lint)} (h : r.Runs (p.map (·.silence x)) (calls, result)) :
    r'.Runs (others x p) (calls.filter (·.linter? ≠ some x), result) := by
  induction p generalizing calls result with
  | nil =>
    cases h
    exact .nil
  | cons c p ih =>
    rw [List.map_cons] at h
    by_cases own : c.call.linter? = some x
    · obtain ⟨file, hc⟩ := PlannedCall.silence_of_eq own
      rw [hc] at h
      rw [others_cons_of_own own]
      -- a silent call can only report, and adds nothing to what the rest reports
      cases h with
      | stop hfails => exact absurd hfails not_fails_of_silent
      | @next _ _ found calls result hreports tail =>
        obtain rfl := reports_nil_of_silent hreports
        rw [List.filter_cons_of_neg (by simp [PlannedCall.call, Call.linter?])]
        cases result <;> exact ih tail
    · rw [PlannedCall.silence_of_ne own] at h
      rw [others_cons_of_other own]
      cases h with
      | stop hfails =>
        rw [List.filter_cons_of_pos (by simpa using own)]
        exact .stop (hfails.of_engine_eq same)
      | next hreports tail =>
        rw [List.filter_cons_of_pos (by simpa using own)]
        exact .next (hreports.of_engine_eq same) (ih tail)

theorem lintFiles_leaveOut (r : Runner) (x : LinterName) (files : List Path) :
    (r.leaveOut x).lintFiles files =
      (((r.silence x).lintFiles files).1.filter (·.linter? ≠ some x),
        ((r.silence x).lintFiles files).2) := by
  have silenced := lintFiles_runs (r.silence x) files
  rw [plan_silence] at silenced
  have struck := silenced.of_silenced (show (r.silence x).engine = (r.leaveOut x).engine from rfl)
  have left := lintFiles_runs (r.leaveOut x) files
  rw [plan_leaveOut] at left
  exact left.unique struck

/-- What is found up to some call by the others does not depend on the one that is left out. -/
theorem lintFiles_leaveOut_split {files : List Path} {done rest : List PlannedCall}
    {found : PlannedCall → List Lint} (h : r.plan files = done ++ rest)
    (hdone : ∀ c ∈ done, r.Reports c (found c)) :
    ∃ calls result, (r.leaveOut x).Runs (others x rest) (calls, result) ∧
      ((r.leaveOut x).lintFiles files).2 = result.map ((others x done).flatMap found ++ ·) := by
  have runs := lintFiles_runs (r.leaveOut x) files
  rw [plan_leaveOut, h, others, List.filter_append] at runs
  have reported : ∀ c ∈ others x done, (r.leaveOut x).Reports c (found c) := by
    intro c hc
    have reported := hdone c (List.mem_of_mem_filter hc)
    exact reported.of_engine_eq (show r.engine = (r.leaveOut x).engine from rfl)
  obtain ⟨calls, result, tail, ht⟩ := runs.split reported
  exact ⟨calls, result, tail, congrArg Prod.snd ht⟩

theorem ne_nil_of_leaveOut (hl : (r.leaveOut x).linters ≠ []) : r.linters ≠ [] := by
  intro none
  apply hl
  rw [leaveOut, none, List.filter_nil]

theorem silence_ne_nil (h : r.linters ≠ []) : (r.silence x).linters ≠ [] := by
  rwa [silence, ne_eq, List.map_eq_nil_iff]

/-- With linters on both sides it depends on the files alone whether a run is refused. -/
theorem refusal?_congr (h : r.linters ≠ []) (h' : r'.linters ≠ []) (files : List Path) :
    r.refusal? files = r'.refusal? files := by
  simp [refusal?, h, h']

theorem run_silence {files : List Path} (hl : (r.leaveOut x).linters ≠ [])
    (fewer : (r.leaveOut x).linters.length + 1 = r.linters.length) :
    (r.silence x).run files = ((r.leaveOut x).run files).map
      fun report => { report with lintersRun := report.lintersRun + 1 } := by
  have hs : (r.silence x).linters ≠ [] := silence_ne_nil (ne_nil_of_leaveOut hl)
  have count : (r.silence x).linters.length = (r.leaveOut x).linters.length + 1 := by
    rw [fewer, silence, List.length_map]
  rw [run_eq, run_eq, refusal?_congr hs hl, lintFiles_leaveOut]
  cases (r.leaveOut x).refusal? files with
  | some e => rfl
  | none =>
    cases ((r.silence x).lintFiles files).2 with
    | error e => rfl
    | ok lints => simp only [Except.map, report, count]

theorem calls_leaveOut {files : List Path} (hl : (r.leaveOut x).linters ≠ []) :
    ((r.leaveOut x).runTraced files).1 =
      ((r.silence x).runTraced files).1.filter (·.linter? ≠ some x) := by
  have hs : (r.silence x).linters ≠ [] := silence_ne_nil (ne_nil_of_leaveOut hl)
  rw [runTraced, runTraced, refusal?_congr hs hl, lintFiles_leaveOut]
  cases (r.leaveOut x).refusal? files <;> rfl

theorem run_eq_ok {files : List Path} {report : Report} (h : r.run files = .ok report) :
    files ≠ [] ∧ ∃ found, (∀ c ∈ r.plan files, r.Reports c (found c)) ∧
      report = r.report files ((r.plan files).flatMap found) := by
  rcases run_cases r files with ⟨e, _, hrun⟩ | ⟨hf, hrun⟩
  · cases hrun.symm.trans h
  · rw [hrun] at h
    have runs := lintFiles_runs r files
    rcases runs.stops_at_failure with ⟨_, _, _, e, _, _, _, ht⟩ | ⟨_, hfound, _⟩
    · rw [ht] at h
      cases h
    · have each : ∀ c ∈ r.plan files, ∃ lints, r.Reports c lints := by
        intro c hc
        obtain ⟨lints, _, reports⟩ := exists_of_forall₂ hfound hc
        exact ⟨lints, reports⟩
      choose! found reports using each
      rw [runs.eq_of_reports reports] at h
      cases h
      exact ⟨hf, found, reports, rfl⟩

theorem run_leaveOut_of_ok {files : List Path} {report : Report}
    (hl : (r.leaveOut x).linters ≠ []) (h : r.run files = .ok report) :
    ∃ found, (∀ c ∈ r.plan files, r.Reports c (found c)) ∧
      report = r.report files ((r.plan files).flatMap found) ∧
      (r.leaveOut x).run files =
        .ok ((r.leaveOut x).report files ((others x (r.plan files)).flatMap found)) := by
  obtain ⟨hf, found, reports, hreport⟩ := run_eq_ok h
  refine ⟨found, reports, hreport, ?_⟩
  have all : r.plan files = r.plan files ++ [] := (List.append_nil _).symm
  obtain ⟨calls, result, tail, ht⟩ := lintFiles_leaveOut_split (x := x) all reports
  cases tail
  rw [run_of_ne_nil hf hl, ht, Except.map, List.append_nil]
  rfl

theorem run_leaveOut_of_own_error {files : List Path} {e : RunError}
    (hl : (r.leaveOut x).linters ≠ []) (h : r.run files = .error e) (own : e.linter? = some x) :
    ∃ done c rest found calls result, r.plan files = done ++ c :: rest ∧
      (∀ b ∈ done, r.Reports b (found b)) ∧ r.Fails c e ∧
      (r.leaveOut x).Runs (others x rest) (calls, result) ∧
      (r.leaveOut x).run files = result.map fun lints =>
        (r.leaveOut x).report files ((others x done).flatMap found ++ lints) := by
  rcases run_eq_error h with refused | ⟨hf, done, c, rest, found, hp, reports, hc⟩
  · cases (linter?_of_refusal? refused).symm.trans own
  obtain ⟨calls, result, tail, ht⟩ := lintFiles_leaveOut_split (x := x) hp reports
  rw [hc.linter?_eq] at own
  rw [others_cons_of_own own] at tail
  refine ⟨done, c, rest, found, calls, result, hp, reports, hc, tail, ?_⟩
  rw [run_of_ne_nil hf hl, ht]
  cases result <;> rfl

theorem run_leaveOut_of_other_error {files : List Path} {e : RunError}
    (hl : (r.leaveOut x).linters ≠ []) (h : r.run files = .error e)
    (other : e.linter? ≠ some x) : (r.leaveOut x).run files = .error e := by
  rcases run_eq_error h with refused | ⟨hf, done, c, rest, found, hp, reports, hc⟩
  · rw [refusal?_congr (ne_nil_of_leaveOut hl) hl] at refused
    rw [run_eq, refused]
  · obtain ⟨calls, result, tail, ht⟩ := lintFiles_leaveOut_split (x := x) hp reports
    -- the call that failed is of another linter or of the engine, so it is still made, and fails
    have fails := hc.of_engine_eq (show r.engine = (r.leaveOut x).engine from rfl)
    rw [hc.linter?_eq] at other
    rw [others_cons_of_other other] at tail
    rw [run_of_ne_nil hf hl, ht]
    cases tail with
    | stop hc' =>
      rw [hc'.unique fails]
      rfl
    | next hreports => exact absurd fails (hreports.not_fails _)

theorem linter?_ne_of_run_leaveOut {files : List Path} {e : RunError}
    (h : (r.leaveOut x).run files = .error e) : e.linter? ≠ some x := by
  rcases run_eq_error h with refused | ⟨_, done, c, rest, found, hp, _, hc⟩
  · rw [linter?_of_refusal? refused]
    exact nofun
  · have planned : c ∈ others x (r.plan files) := by
      rw [← plan_leaveOut, hp]
      exact List.mem_append_right _ List.mem_cons_self
    rw [hc.linter?_eq]
    simpa using List.of_mem_filter planned

/-- How a run without the linter `x` compares with the run in which it takes part. -/
structure OnlyLacks (x : LinterName) (r left : Runner) (files : List Path) : Prop where
  linters : left.linters.length + 1 = r.linters.length
  /-- The outcome is the one of a run in which `x` is silent, but for the number of linters. -/
  silenced : (r.silence x).run files =
    (left.run files).map fun report => { report with lintersRun := report.lintersRun + 1 }
  calls : (left.runTraced files).1 =
    ((r.silence x).runTraced files).1.filter (·.linter? ≠ some x)
  /-- Of a run that succeeds the lints of the others are left, in their order. -/
  kept : ∀ report, r.run files = .ok report → ∃ found,
    (∀ c ∈ r.plan files, r.Reports c (found c)) ∧
    report = r.report files ((r.plan files).flatMap found) ∧
    left.run files = .ok (left.report files ((others x (r.plan files)).flatMap found))
  /-- A failure of `x` gives way to whatever the rest of the calls come to. -/
  resumed : ∀ e, r.run files = .error e → e.linter? = some x →
    ∃ done c rest found calls result, r.plan files = done ++ c :: rest ∧
      (∀ b ∈ done, r.Reports b (found b)) ∧ r.Fails c e ∧
      left.Runs (others x rest) (calls, result) ∧
      left.run files =
        result.map fun lints => left.report files ((others x done).flatMap found ++ lints)
  failed : ∀ e, r.run files = .error e → e.linter? ≠ some x → left.run files = .error e
  blameless : ∀ e, left.run files = .error e → e.linter? ≠ some x

/-- Leaving out one of several linters changes nothing else. -/
theorem run_leaving_out {registry : Registry} (reachable : registry.Reachable)
    (selection : Selection) (engine : Engine) {x : LinterName}
    (active : x ∈ (make registry selection engine).names)
    (several : 2 ≤ (make registry selection engine).linters.length) (files : List Path) :
    OnlyLacks x (make registry selection engine)
      (make registry (selection.leaveOut x) engine) files := by
  have distinct : (make registry selection engine).names.Nodup := by
    rw [names_make]
    exact reachable.nodup_names.filter _
  have fewer := length_leaveOut distinct active
  have hl : ((make registry selection engine).leaveOut x).linters ≠ [] :=
    List.ne_nil_of_length_pos (by omega)
  rw [make_leaveOut]
  exact {
    linters := fewer
    silenced := run_silence hl fewer
    calls := calls_leaveOut hl
    kept := fun _ => run_leaveOut_of_ok hl
    resumed := fun _ => run_leaveOut_of_own_error hl
    failed := fun _ => run_leaveOut_of_other_error hl
    blameless := fun _ => linter?_ne_of_run_leaveOut }

/-- Three linters, of which the second panics on some files. -/
def scripted : Registry :=
  Registry.empty.after
    [.one "First" "Reports" (Script.linter [⟨none, .report ⟨1, 1, 0⟩ "first" .warning⟩]),
     .one "Broken" "Panics" (Script.linter [⟨some "b", .panic (.text "gone")⟩]),
     .one "Last" "Reports" (Script.linter [⟨none, .report ⟨2, 1, 0⟩ "last" .warning⟩])]

/-- A linter ends the run with its panic on the second file; without it the others report on both
files. -/
theorem run_leaving_out_broken :
    let broken : LinterName := ⟨"Broken", by decide⟩
    let files := ["a.css", "b.css"].map Path.ofString
    let engine := memoryEngine [("a.css", .contents "a"), ("b.css", .contents "b")]
    let r := make scripted .all engine
    let left := make scripted (Selection.all.leaveOut broken) engine
    r.run files = .error (.linter ⟨broken, .ofString "b.css", .capture "panicked: gone" "script"⟩) ∧
    (left.run files).map (fun report => (report.lints.map Lint.message, report.lintersRun)) =
      .ok (["first", "last", "first", "last"], 2) ∧
    OnlyLacks broken r left files := by
  intro broken files engine r left
  refine ⟨by decide +kernel, by decide +kernel, ?_⟩
  exact run_leaving_out (Registry.Reachable.empty.after _) .all engine (by decide +kernel)
    (by decide +kernel) files

end Runner

end Linting
