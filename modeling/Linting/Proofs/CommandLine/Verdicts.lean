import Linting.Proofs.CommandLine.Stages

/-! How a check exits and what it writes. The code tells the first stage that is at fault, or whether
there are lints; only a report and the failure of a linter are written to the standard output. Both
are the same however the files are shared among workers. -/

namespace Linting

namespace CommandLine

variable {fs : FileSystem} {options : CheckOptions}

/-- How a check exits, as a table: the code, and what it tells of the stages. -/
inductive Verdict (fs : FileSystem) (options : CheckOptions) : Nat → Prop
  | clean {report : Report} (h : (check fs options).result = .ok report)
      (none : report.lints = []) : Verdict fs options 0
  | lints {report : Report} (h : (check fs options).result = .ok report)
      (some : report.lints ≠ []) : Verdict fs options 1
  | discovery {e : CommandError} (first : FirstFault fs options .discovery e) :
      Verdict fs options 2
  | noFiles (first : FirstFault fs options .run (.run .noFiles)) : Verdict fs options 2
  | noLinters (first : FirstFault fs options .run (.run .noLinters)) : Verdict fs options 2
  | engine {e : EngineError} (first : FirstFault fs options .run (.run (.engine e))) :
      Verdict fs options 2
  | setup {stage : Stage} {e : CommandError} (early : stage ∈ Stage.discovery.before)
      (first : FirstFault fs options stage e) : Verdict fs options 3
  | crash {e : LinterError} (first : FirstFault fs options .run (.run (.linter e))) :
      Verdict fs options 4

/-- The code that tells what came of a check. -/
def exitCodeOf : Except CommandError Report → Nat
  | .ok report => if report.isClean then 0 else 1
  | .error e => e.exitStatus.code

/-- What is written to the standard output of what came of a check. -/
def outputOf (format : OutputFormat) (color : ColorChoice) : Except CommandError Report → String
  | .ok report =>
    match format with
    | .human => report.human color.isOn
    | .jsonl => report.jsonl
  | .error (.run (.linter e)) =>
    match format with
    | .human => ""
    | .jsonl => e.jsonl
  | .error _ => ""

variable {log : LogFilter} {color : ColorChoice}

/-- Only what came of a check counts for how it exits and what it writes. -/
theorem runCheck_eq :
    (runCheck fs log color options).exitCode = exitCodeOf (check fs options).result ∧
    (runCheck fs log color options).stdout =
      outputOf options.format color (check fs options).result := by
  dsimp only [runCheck]
  generalize (check fs options).result = result
  cases result with
  | ok report =>
    refine ⟨?_, rfl⟩
    cases clean : report.isClean <;> simp [exitCodeOf, clean, ExitStatus.code]
  | error e =>
    cases e with
    | run cause =>
      cases cause with
      | linter e => cases options.format <;> exact ⟨rfl, rfl⟩
      | _ => exact ⟨rfl, rfl⟩
    | _ => exact ⟨rfl, rfl⟩

theorem exitCode_of_firstFault {stage : Stage} {e : CommandError}
    (first : FirstFault fs options stage e) :
    (runCheck fs log color options).exitCode = e.exitStatus.code := by
  rw [runCheck_eq.1, check_eq_error_iff_firstFault.mpr ⟨stage, first⟩]
  rfl

theorem stdout_of_firstFault {stage : Stage} {e : CommandError}
    (first : FirstFault fs options stage e) :
    (runCheck fs log color options).stdout = outputOf options.format color (.error e) := by
  rw [runCheck_eq.2, check_eq_error_iff_firstFault.mpr ⟨stage, first⟩]

/-- What is wrong before discovery is wrong with the configuration or the registry. -/
theorem Fault.of_early {stage : Stage} {e : CommandError} (h : Fault fs options stage e)
    (early : stage ∈ Stage.discovery.before) :
    (∃ cause, e = .config cause) ∨ ∃ cause, e = .registry cause := by
  cases h with
  | configuration | flags => exact .inl ⟨_, rfl⟩
  | registry => exact .inr ⟨_, rfl⟩
  | pattern | path | run => exact absurd early (by decide)

theorem Verdict.exitCode_eq {code : Nat} (h : Verdict fs options code) :
    (runCheck fs log color options).exitCode = code := by
  cases h with
  | clean h none => simp [runCheck_eq.1, h, exitCodeOf, Report.isClean, none]
  | lints h some => simp [runCheck_eq.1, h, exitCodeOf, Report.isClean, some]
  | discovery first =>
    rw [exitCode_of_firstFault first]
    cases first.fault <;> rfl
  | setup early first =>
    rw [exitCode_of_firstFault first]
    rcases first.fault.of_early early with ⟨cause, rfl⟩ | ⟨cause, rfl⟩ <;> rfl
  | _ first => exact exitCode_of_firstFault first

/-- Every check comes to one row of the table. -/
theorem exists_verdict (fs : FileSystem) (options : CheckOptions) :
    ∃ code, Verdict fs options code := by
  cases result : (check fs options).result with
  | ok report =>
    by_cases none : report.lints = []
    · exact ⟨0, .clean result none⟩
    · exact ⟨1, .lints result none⟩
  | error e =>
    obtain ⟨stage, first⟩ := check_eq_error_iff_firstFault.mp result
    cases first.fault with
    | configuration | flags | registry => exact ⟨3, .setup (by decide) first⟩
    | pattern | path => exact ⟨2, .discovery first⟩
    | @run _ _ _ cause _ _ =>
      cases cause with
      | noFiles => exact ⟨2, .noFiles first⟩
      | noLinters => exact ⟨2, .noLinters first⟩
      | engine e => exact ⟨2, .engine first⟩
      | linter e => exact ⟨4, .crash first⟩

theorem exitCode_eq_iff_verdict {code : Nat} :
    (runCheck fs log color options).exitCode = code ↔ Verdict fs options code := by
  obtain ⟨actual, verdict⟩ := exists_verdict fs options
  rw [verdict.exitCode_eq]
  constructor
  · rintro rfl
    exact verdict
  · intro other
    have same : (runCheck fs log color options).exitCode = code := other.exitCode_eq
    rw [← same, verdict.exitCode_eq]

theorem stdout_of_verdict {code : Nat} (h : Verdict fs options code) (failed : code = 2 ∨ code = 3) :
    (runCheck fs log color options).stdout = "" := by
  cases h with
  | clean | lints | crash => simp at failed
  | discovery first =>
    rw [stdout_of_firstFault first]
    cases first.fault <;> rfl
  | setup early first =>
    rw [stdout_of_firstFault first]
    rcases first.fault.of_early early with ⟨cause, rfl⟩ | ⟨cause, rfl⟩ <;> rfl
  | noFiles first | noLinters first | engine first => exact stdout_of_firstFault first

theorem isLinesOf_crash (e : LinterError) : IsLinesOf ReportLine.read? e.jsonl [.ofError e] := by
  have alone : e.jsonl = String.join ([e.record].map Json.line) := by
    simp [LinterError.jsonl]
  have line := ReportLine.ofJson?_failure e
  rw [alone]
  refine Json.isLinesOf_join ?_ (by simp only [List.map_cons, List.map_nil, line])
  exact fun fields hfields => List.mem_singleton.mp hfields ▸ e.exact_record

section Paths

variable {stage : Stage} {e : CommandError}

/-- The stages before discovery do not know the paths. -/
theorem Fault.withPaths (h : Fault fs options stage e) (early : stage ∈ Stage.discovery.before)
    (paths : List Path) : Fault fs { options with paths := paths } stage e := by
  cases h with
  | configuration h => exact .configuration h
  | flags h => exact .flags h
  | registry loaded h => exact .registry loaded h
  | pattern | path | run => exact absurd early (by decide)

theorem FirstFault.withPaths (first : FirstFault fs options stage e)
    (early : stage ∈ Stage.discovery.before) (paths : List Path) :
    FirstFault fs { options with paths := paths } stage e where
  fault := first.fault.withPaths early paths
  passed earlier hearlier e' fault := by
    have beforeDiscovery : earlier ∈ Stage.discovery.before := by
      revert early hearlier
      cases stage <;> cases earlier <;> decide
    exact first.passed earlier hearlier e' (fault.withPaths beforeDiscovery options.paths)

end Paths

theorem check_result_eq :
    (check fs options).result = (plan fs options).result.bind fun p =>
      ((Runner.make p.registry p.selection fs.source).run p.files).mapError .run := by
  cases planned : (plan fs options).result with
  | error e => exact check_eq_error_iff.mpr (.inl planned)
  | ok p =>
    dsimp only [Except.bind]
    cases ran : (Runner.make p.registry p.selection fs.source).run p.files with
    | error cause => exact check_eq_error_iff.mpr (.inr ⟨p, planned, cause, ran, rfl⟩)
    | ok report => exact check_eq_ok_iff.mpr ⟨p, planned, ran⟩

/-- How a check ends, told by its stages. -/
structure EndsByStages (fs : FileSystem) (log : LogFilter) (color : ColorChoice)
    (options : CheckOptions) : Prop where
  /-- The error is that of the first stage with a fault. -/
  failure : ∀ e, (check fs options).result = .error e ↔ ∃ stage, FirstFault fs options stage e
  success : (∃ report, (check fs options).result = .ok report) ↔
    ∀ stage, Passes fs options stage
  /-- What is logged comes in the order of the stages, and nothing of a stage behind a fault. -/
  order : ∃ stages : List Stage, (check fs options).events.map stageOf? = stages.map some ∧
    stages.Pairwise (· ≤ ·) ∧ ∀ stage e, FirstFault fs options stage e → ∀ s ∈ stages, s ≤ stage
  exitCode : ∀ code, (runCheck fs log color options).exitCode = code ↔ Verdict fs options code
  /-- What is wrong before discovery is wrong for all paths. -/
  setup : (runCheck fs log color options).exitCode = 3 → ∀ paths,
    (runCheck fs log color { options with paths := paths }).exitCode = 3
  quiet : (runCheck fs log color options).exitCode = 2 ∨
    (runCheck fs log color options).exitCode = 3 → (runCheck fs log color options).stdout = ""
  /-- A linter's failure is one record for a program, and for people it is not part of the output. -/
  crash : ∀ e, FirstFault fs options .run (.run (.linter e)) →
    match options.format with
    | .human => (runCheck fs log color options).stdout = ""
    | .jsonl => IsLinesOf ReportLine.read? (runCheck fs log color options).stdout [.ofError e]
  parallel : ∀ parallel,
    let other := runCheck fs log color { options with parallel := parallel }
    other.exitCode = (runCheck fs log color options).exitCode ∧
      other.stdout = (runCheck fs log color options).stdout
  /-- Workers that finish in any order come to the same result. -/
  schedule : ∀ p, (plan fs options).result = .ok p → ∀ schedule,
    let runner := Runner.make p.registry p.selection fs.source
    (runner.pool p.files schedule).isDone = true →
      let result := (runner.runScheduled p.files schedule).mapError CommandError.run
      exitCodeOf result = (runCheck fs log color options).exitCode ∧
        outputOf options.format color result = (runCheck fs log color options).stdout

/-- Whatever the options, the configuration and the files are, the stages run in order, the first one
that fails decides how the program exits, and what it writes tells no more than that. -/
theorem runCheck_endsByStages (fs : FileSystem) (log : LogFilter) (color : ColorChoice)
    (options : CheckOptions) : EndsByStages fs log color options where
  failure _ := check_eq_error_iff_firstFault
  success := exists_check_eq_ok_iff
  order := by
    obtain ⟨stages, told, ascending, within⟩ := (check_staged fs options).ordered
    refine ⟨stages, told, ascending, fun stage e first s hs => ?_⟩
    have failed := check_eq_error_iff_firstFault.mpr ⟨stage, first⟩
    exact Stage.le_trans ((within s hs).2.2 e failed) first.fault.stage_le
  exitCode _ := exitCode_eq_iff_verdict
  setup code paths := by
    cases exitCode_eq_iff_verdict.mp code with
    | setup early first =>
      exact exitCode_eq_iff_verdict.mpr (.setup early (first.withPaths early paths))
  quiet failed := by
    obtain ⟨code, verdict⟩ := exists_verdict fs options
    rw [verdict.exitCode_eq] at failed
    exact stdout_of_verdict verdict failed
  crash e first := by
    rw [stdout_of_firstFault first]
    cases options.format with
    | human => rfl
    | jsonl => exact isLinesOf_crash e
  parallel parallel := by
    have same : (check fs { options with parallel := parallel }).result =
        (check fs options).result := by
      rw [check_result_eq, check_result_eq]
      rfl
    exact ⟨by rw [runCheck_eq.1, runCheck_eq.1, same], by rw [runCheck_eq.2, runCheck_eq.2, same]⟩
  schedule p planned schedule := by
    intro runner done result
    have same : result = (check fs options).result := by
      rw [check_result_eq, planned]
      exact congrArg (Except.mapError CommandError.run) (Runner.runScheduled_of_isDone done)
    rw [same]
    exact ⟨runCheck_eq.1.symm, runCheck_eq.2.symm⟩

end CommandLine

end Linting
