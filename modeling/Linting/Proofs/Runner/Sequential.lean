import Linting.Runner
import Mathlib.Data.List.Forall2

/-! A sequential run against the list of the calls it could make. `Runner.plan` lists them in order;
`Fails` and `Reports` tell what one of them comes to, read off the engine and the linters alone. A
run makes the calls up to the first that fails, and its result is that failure, or everything that
was reported when none fails. -/

namespace Linting

/-- A call that a run may come to make: of the engine, or of one active linter. -/
inductive PlannedCall
  | build (file : Path)
  | lint (active : ActiveLinter) (file : Path)

def PlannedCall.call : PlannedCall → Call
  | build file => .build file
  | lint active file => .lint active.name file

def Call.linter? : Call → Option LinterName
  | build _ => none
  | lint linter _ => some linter

/-- The linter that ended a run. -/
def RunError.linter? : RunError → Option LinterName
  | linter e => some e.linter
  | _ => none

namespace Runner

def planFile (r : Runner) (file : Path) : List PlannedCall :=
  .build file :: r.linters.map (.lint · file)

/-- Every call there is to make, file by file and then linter by linter. -/
def plan (r : Runner) (files : List Path) : List PlannedCall := files.flatMap r.planFile

/-- A call fails, and the run ends with this error. -/
inductive Fails (r : Runner) : PlannedCall → RunError → Prop
  | build {file : Path} {e : EngineError} (h : r.engine file = .error e) :
      Fails r (.build file) (.engine e)
  | failed {active : ActiveLinter} {file : Path} {d : Document} {failure : Failure}
      (hd : r.engine file = .ok d) (h : active.run d = .failed failure) :
      Fails r (.lint active file) (.linter ⟨active.name, file, failure⟩)
  | panicked {active : ActiveLinter} {file : Path} {d : Document} {payload : Payload}
      {site : String} (hd : r.engine file = .ok d)
      (h : active.run d = .panicked payload site) :
      Fails r (.lint active file)
        (.linter ⟨active.name, file, .capture ("panicked: " ++ payload.message) site⟩)

/-- A call succeeds with these lints; building a document finds none. -/
inductive Reports (r : Runner) : PlannedCall → List Lint → Prop
  | build {file : Path} {d : Document} (h : r.engine file = .ok d) : Reports r (.build file) []
  | lint {active : ActiveLinter} {file : Path} {d : Document} {lints : List Lint}
      (hd : r.engine file = .ok d) (h : active.run d = .reported lints) :
      Reports r (.lint active file) lints

/-- Making planned calls in order up to the first that fails. -/
inductive Runs (r : Runner) : List PlannedCall → Traced (List Lint) → Prop
  | nil : Runs r [] ([], .ok [])
  | stop {c : PlannedCall} {rest : List PlannedCall} {e : RunError} (h : r.Fails c e) :
      Runs r (c :: rest) ([c.call], .error e)
  | next {c : PlannedCall} {rest : List PlannedCall} {found : List Lint} {calls : List Call}
      {result : Except RunError (List Lint)} (h : r.Reports c found)
      (tail : Runs r rest (calls, result)) :
      Runs r (c :: rest) (c.call :: calls, result.map (found ++ ·))

variable {r : Runner}

/-- What a call comes to. Without a document there is none to lint. -/
def outcome? (r : Runner) : PlannedCall → Option (Except RunError (List Lint))
  | .build file =>
    match r.engine file with
    | .error e => some (.error (.engine e))
    | .ok _ => some (.ok [])
  | .lint active file =>
    match r.engine file with
    | .error _ => none
    | .ok d =>
      match (active.run d).contain with
      | .error failure => some (.error (.linter ⟨active.name, file, failure⟩))
      | .ok lints => some (.ok lints)

theorem Reports.outcome?_eq {c : PlannedCall} {found : List Lint} (h : r.Reports c found) :
    r.outcome? c = some (.ok found) := by
  cases h with
  | build h => rw [outcome?, h]
  | lint hd h => simp only [outcome?, hd, h, contain_reported]

theorem Fails.outcome?_eq {c : PlannedCall} {e : RunError} (h : r.Fails c e) :
    r.outcome? c = some (.error e) := by
  cases h with
  | build h => rw [outcome?, h]
  | failed hd h => simp only [outcome?, hd, h, contain_failed]
  | panicked hd h => simp only [outcome?, hd, h, contain_panicked]

theorem Reports.unique {c : PlannedCall} {found other : List Lint} (h : r.Reports c found)
    (h' : r.Reports c other) : found = other := by
  cases h.outcome?_eq.symm.trans h'.outcome?_eq
  rfl

theorem Fails.unique {c : PlannedCall} {e e' : RunError} (h : r.Fails c e) (h' : r.Fails c e') :
    e = e' := by
  cases h.outcome?_eq.symm.trans h'.outcome?_eq
  rfl

theorem Reports.not_fails {c : PlannedCall} {found : List Lint} (h : r.Reports c found)
    (e : RunError) : ¬ r.Fails c e := by
  intro hc
  cases h.outcome?_eq.symm.trans hc.outcome?_eq

/-- An error names the linter that was called. -/
theorem Fails.linter?_eq {c : PlannedCall} {e : RunError} (h : r.Fails c e) :
    e.linter? = c.call.linter? := by
  cases h <;> rfl

theorem Fails.exists_document {active : ActiveLinter} {file : Path} {e : RunError}
    (h : r.Fails (.lint active file) e) : ∃ d, r.engine file = .ok d := by
  cases h with
  | failed hd => exact ⟨_, hd⟩
  | panicked hd => exact ⟨_, hd⟩

/-- Calls that all report are made before any others, and what they find comes first. -/
theorem Runs.split {p q : List PlannedCall} {t : Traced (List Lint)}
    {found : PlannedCall → List Lint} (h : r.Runs (p ++ q) t)
    (hp : ∀ c ∈ p, r.Reports c (found c)) :
    ∃ calls result, r.Runs q (calls, result) ∧
      t = (p.map PlannedCall.call ++ calls, result.map (p.flatMap found ++ ·)) := by
  induction p generalizing t with
  | nil =>
    obtain ⟨calls, result⟩ := t
    refine ⟨calls, result, h, ?_⟩
    cases result <;> rfl
  | cons c p ih =>
    -- a call that reports does not stop the run
    have reported := hp c List.mem_cons_self
    cases h with
    | stop hc => exact absurd hc (reported.not_fails _)
    | next hc tail =>
      obtain rfl := hc.unique reported
      obtain ⟨calls, result, hq, ht⟩ := ih tail fun b hb => hp b (List.mem_cons_of_mem c hb)
      cases ht
      refine ⟨calls, result, hq, ?_⟩
      cases result <;> simp [Except.map]

theorem Runs.eq_of_reports {p : List PlannedCall} {t : Traced (List Lint)}
    {found : PlannedCall → List Lint} (h : r.Runs p t) (hp : ∀ c ∈ p, r.Reports c (found c)) :
    t = (p.map PlannedCall.call, .ok (p.flatMap found)) := by
  rw [← List.append_nil p] at h
  obtain ⟨calls, result, tail, rfl⟩ := h.split hp
  cases tail
  simp [Except.map]

/-- There is only one way to make the calls. -/
theorem Runs.unique {p : List PlannedCall} {t t' : Traced (List Lint)} (h : r.Runs p t)
    (h' : r.Runs p t') : t = t' := by
  induction h generalizing t' with
  | nil =>
    cases h'
    rfl
  | stop hc =>
    cases h' with
    | stop hc' => rw [hc.unique hc']
    | next hc' => exact absurd hc (hc'.not_fails _)
  | next hc _ ih =>
    cases h' with
    | stop hc' => exact absurd hc' (hc.not_fails _)
    | next hc' tail =>
      cases ih tail
      rw [hc.unique hc']

theorem Runs.append_error {p : List PlannedCall} {calls : List Call} {e : RunError}
    (h : r.Runs p (calls, .error e)) (q : List PlannedCall) :
    r.Runs (p ++ q) (calls, .error e) := by
  generalize ht : (calls, Except.error e) = t at h
  induction h generalizing calls with
  | nil => cases ht
  | stop h => exact ht ▸ .stop h
  | @next c rest found more result h tail ih =>
    cases result with
    | ok lints => cases ht
    | error e' =>
      cases ht
      exact .next h (ih rfl)

theorem Runs.append_ok {p q : List PlannedCall} {calls more : List Call} {found : List Lint}
    {result : Except RunError (List Lint)} (h : r.Runs p (calls, .ok found))
    (tail : r.Runs q (more, result)) :
    r.Runs (p ++ q) (calls ++ more, result.map (found ++ ·)) := by
  generalize ht : (calls, Except.ok found) = t at h
  induction h generalizing calls found with
  | nil =>
    cases ht
    cases result <;> exact tail
  | stop h => cases ht
  | @next c rest first before outcome h _ ih =>
    cases outcome with
    | error e => cases ht
    | ok lints =>
      cases ht
      have joined := Runs.next h (ih rfl)
      cases result <;> simpa only [Except.map, List.append_assoc, List.cons_append] using joined

theorem lintDocument_runs {file : Path} {d : Document} (hd : r.engine file = .ok d)
    (linters : List ActiveLinter) :
    r.Runs (linters.map (.lint · file)) (lintDocument file d linters) := by
  induction linters with
  | nil => exact .nil
  | cons active rest ih =>
    rw [lintDocument]
    cases h : active.run d with
    | reported lints => exact .next (.lint hd h) ih
    | failed failure => exact .stop (.failed hd h)
    | panicked payload site => exact .stop (.panicked hd h)

theorem lintFile_runs (r : Runner) (file : Path) : r.Runs (r.planFile file) (r.lintFile file) := by
  rw [lintFile, planFile]
  cases h : r.engine file with
  | error e => exact .stop (.build h)
  | ok d =>
    have tail := Runs.next (.build h) (lintDocument_runs h r.linters)
    cases hr : (lintDocument file d r.linters).2 <;>
      simpa [hr, Except.map, PlannedCall.call] using tail

theorem lintFiles_runs (r : Runner) (files : List Path) :
    r.Runs (r.plan files) (r.lintFiles files) := by
  induction files with
  | nil => exact .nil
  | cons file rest ih =>
    have head := lintFile_runs r file
    rw [lintFiles, plan, List.flatMap_cons]
    cases h : r.lintFile file with
    | mk calls outcome =>
      rw [h] at head
      cases outcome with
      | error e => exact head.append_error _
      | ok found => exact head.append_ok ih

/-- Two cases: some call is the first to fail, and nothing behind it is made; or every call
succeeds. -/
theorem Runs.stops_at_failure {p : List PlannedCall} {t : Traced (List Lint)} (h : r.Runs p t) :
    (∃ done c rest e, p = done ++ c :: rest ∧ (∀ b ∈ done, ∃ found, r.Reports b found) ∧
      r.Fails c e ∧ t = ((done ++ [c]).map PlannedCall.call, .error e)) ∨
    ∃ found, List.Forall₂ r.Reports p found ∧
      t = (p.map PlannedCall.call, .ok found.flatten) := by
  induction h with
  | nil => exact .inr ⟨[], .nil, rfl⟩
  | @stop c rest e h =>
    exact .inl ⟨[], c, rest, e, rfl, by simp, h, rfl⟩
  | @next c rest first calls result h _ ih =>
    rcases ih with ⟨done, bad, behind, e, rfl, hdone, hbad, ht⟩ | ⟨found, hfound, ht⟩
    · cases ht
      refine .inl ⟨c :: done, bad, behind, e, rfl, ?_, hbad, rfl⟩
      intro b hb
      rcases List.mem_cons.mp hb with rfl | hb
      · exact ⟨first, h⟩
      · exact hdone b hb
    · cases ht
      exact .inr ⟨first :: found, .cons h hfound, rfl⟩

theorem filter_isBuild_planFile (r : Runner) (file : Path) :
    ((r.planFile file).map PlannedCall.call).filter Call.isBuild = [.build file] := by
  have lints : (r.linters.map (PlannedCall.call ∘ (.lint · file))).filter Call.isBuild = [] := by
    simp [PlannedCall.call, Call.isBuild]
  rw [planFile, List.map_cons, List.map_map, PlannedCall.call, List.filter_cons_of_pos rfl, lints]

theorem filter_isBuild_plan (r : Runner) (files : List Path) :
    ((r.plan files).map PlannedCall.call).filter Call.isBuild = files.map .build := by
  induction files with
  | nil => rfl
  | cons file rest ih =>
    rw [plan] at ih
    rw [plan, List.flatMap_cons, List.map_append, List.filter_append, ih,
      filter_isBuild_planFile, List.map_cons, List.singleton_append]

theorem runTraced_of_ne_nil {files : List Path} (hf : files ≠ []) (hl : r.linters ≠ []) :
    r.runTraced files = ((r.lintFiles files).1, (r.lintFiles files).2.map (r.report files)) := by
  have accepted : r.refusal? files = none := by simp [refusal?, hf, hl]
  simp only [runTraced, accepted]

theorem run_eq (r : Runner) (files : List Path) :
    r.run files = match r.refusal? files with
      | some e => .error e
      | none => (r.lintFiles files).2.map (r.report files) := by
  rw [run, runTraced]
  cases r.refusal? files <;> rfl

theorem run_of_ne_nil {files : List Path} (hf : files ≠ []) (hl : r.linters ≠ []) :
    r.run files = (r.lintFiles files).2.map (r.report files) := by
  rw [run, runTraced_of_ne_nil hf hl]

theorem linter?_of_refusal? {files : List Path} {e : RunError} (h : r.refusal? files = some e) :
    e.linter? = none := by
  unfold refusal? at h
  split_ifs at h <;> cases h <;> rfl

theorem run_cases (r : Runner) (files : List Path) :
    (∃ e, r.refusal? files = some e ∧ r.run files = .error e) ∨
    files ≠ [] ∧ r.run files = (r.lintFiles files).2.map (r.report files) := by
  rw [run_eq]
  cases refused : r.refusal? files with
  | some e => exact .inl ⟨e, rfl, rfl⟩
  | none =>
    refine .inr ⟨?_, rfl⟩
    rintro rfl
    cases refused

/-- A run is refused or ends at a call that fails. -/
theorem run_eq_error {files : List Path} {e : RunError} (h : r.run files = .error e) :
    r.refusal? files = some e ∨
    files ≠ [] ∧ ∃ (done : List PlannedCall) (c : PlannedCall) (rest : List PlannedCall)
      (found : PlannedCall → List Lint), r.plan files = done ++ c :: rest ∧
        (∀ b ∈ done, r.Reports b (found b)) ∧ r.Fails c e := by
  rcases run_cases r files with ⟨cause, refused, hrun⟩ | ⟨hf, hrun⟩
  · cases hrun.symm.trans h
    exact .inl refused
  · rw [hrun] at h
    rcases (lintFiles_runs r files).stops_at_failure with
      ⟨done, c, rest, cause, hp, hdone, hc, ht⟩ | ⟨_, _, ht⟩
    · rw [ht] at h
      cases h
      choose! found reports using hdone
      exact .inr ⟨hf, done, c, rest, found, hp, reports, hc⟩
    · rw [ht] at h
      cases h

/-- Why a run over files ends without a report: there are no files, there is no linter to run, or a
call fails behind others that all report. -/
inductive EndsEarly (r : Runner) (files : List Path) : RunError → Prop
  | noFiles (hf : files = []) : EndsEarly r files .noFiles
  | noLinters (hf : files ≠ []) (hl : r.linters = []) : EndsEarly r files .noLinters
  | call (hf : files ≠ []) (hl : r.linters ≠ []) {done rest : List PlannedCall} {c : PlannedCall}
      {e : RunError} (h : r.plan files = done ++ c :: rest)
      (reported : ∀ b ∈ done, ∃ found, r.Reports b found) (fails : r.Fails c e) :
      EndsEarly r files e

theorem endsEarly_of_refusal? {files : List Path} {e : RunError} (h : r.refusal? files = some e) :
    r.EndsEarly files e := by
  unfold refusal? at h
  split_ifs at h with hf hl <;> cases h
  · exact .noFiles (List.isEmpty_iff.mp hf)
  · exact .noLinters (mt List.isEmpty_iff.mpr hf) (List.isEmpty_iff.mp hl)

theorem run_eq_error_iff {files : List Path} {e : RunError} :
    r.run files = .error e ↔ r.EndsEarly files e := by
  constructor
  · intro h
    by_cases refused : ∃ cause, r.refusal? files = some cause
    · obtain ⟨cause, refused⟩ := refused
      rw [run_eq, refused] at h
      cases h
      exact endsEarly_of_refusal? refused
    · rcases run_eq_error h with refusal | ⟨hf, done, c, rest, found, hp, reports, fails⟩
      · exact absurd ⟨e, refusal⟩ refused
      · have hl : r.linters ≠ [] := by
          intro none
          exact refused ⟨.noLinters, by simp [refusal?, hf, none]⟩
        exact .call hf hl hp (fun b hb => ⟨found b, reports b hb⟩) fails
  · intro h
    cases h with
    | noFiles hf => simp [run_eq, refusal?, hf]
    | noLinters hf hl => simp [run_eq, refusal?, hf, hl]
    | call hf hl hp reported fails =>
      choose! found reports using reported
      have runs := lintFiles_runs r files
      rw [hp] at runs
      obtain ⟨calls, result, tail, outcome⟩ := runs.split reports
      rw [run_of_ne_nil hf hl, outcome]
      cases tail with
      | stop hc =>
        rw [hc.unique fails]
        rfl
      | next hc => exact absurd fails (hc.not_fails _)

theorem mem_of_lint_mem_plan {files : List Path} {active : ActiveLinter} {file : Path}
    (h : .lint active file ∈ r.plan files) : active ∈ r.linters ∧ file ∈ files := by
  obtain ⟨f, hf, h⟩ := List.mem_flatMap.mp h
  rcases List.mem_cons.mp h with h | h
  · cases h
  · obtain ⟨a, ha, heq⟩ := List.mem_map.mp h
    cases heq
    exact ⟨ha, hf⟩

/-- Where every linter reports, no linter ends a run. -/
theorem run_ne_linter_error {files : List Path}
    (h : ∀ active ∈ r.linters, ∀ file ∈ files, ∀ d, r.engine file = .ok d →
      ∃ lints, active.run d = .reported lints) (e : LinterError) :
    r.run files ≠ .error (.linter e) := by
  intro hrun
  rcases run_eq_error hrun with refused | ⟨_, done, c, rest, found, hp, _, hc⟩
  · cases linter?_of_refusal? refused
  · have planned : c ∈ r.plan files := by simp [hp]
    cases c with
    | build file => cases hc
    | lint active file =>
      obtain ⟨hactive, hfile⟩ := mem_of_lint_mem_plan planned
      obtain ⟨d, hd⟩ := hc.exists_document
      obtain ⟨lints, hlints⟩ := h active hactive file hfile d hd
      exact (Reports.lint hd hlints).not_fails _ hc

/-- What a run does and returns. Nothing is called without files or without linters, and the lack
of files is told first. Otherwise the calls made are the planned ones up to the first that fails,
and its error is returned as it is; if none fails, every file was built once and the report holds
what the calls found, in the order of the plan. -/
theorem run_stops_at_first_failure (r : Runner) (files : List Path) :
    r.run files = (r.runTraced files).2 ∧
    (files = [] → r.runTraced files = ([], .error .noFiles)) ∧
    (files ≠ [] → r.linters = [] → r.runTraced files = ([], .error .noLinters)) ∧
    (files ≠ [] → r.linters ≠ [] →
      (∃ done c rest e, r.plan files = done ++ c :: rest ∧
        (∀ b ∈ done, ∃ found, r.Reports b found) ∧ r.Fails c e ∧
        r.runTraced files = ((done ++ [c]).map PlannedCall.call, .error e)) ∨
      ∃ found, List.Forall₂ r.Reports (r.plan files) found ∧
        r.runTraced files = ((r.plan files).map PlannedCall.call,
          .ok ⟨found.flatten, files.length, r.linters.length⟩) ∧
        (r.runTraced files).1.filter Call.isBuild = files.map .build) := by
  refine ⟨rfl, ?_, ?_, ?_⟩
  · rintro rfl
    rfl
  · intro hf hl
    simp [runTraced, refusal?, hf, hl]
  · intro hf hl
    rw [runTraced_of_ne_nil hf hl]
    rcases (lintFiles_runs r files).stops_at_failure with
      ⟨done, c, rest, e, hp, hdone, hc, ht⟩ | ⟨found, hfound, ht⟩
    · refine .inl ⟨done, c, rest, e, hp, hdone, hc, ?_⟩
      rw [ht]
      rfl
    · refine .inr ⟨found, hfound, ?_, ?_⟩
      · rw [ht]
        rfl
      · rw [ht]
        exact filter_isBuild_plan r files

end Runner

end Linting
