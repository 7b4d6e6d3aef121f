import Linting.CommandLine.Check
import Linting.Proofs.Runner.Parallel

/-! When a command succeeds: each of its steps does, and the result is that of the last one. -/

namespace Linting

namespace Logged

variable {ε δ α β : Type}

theorem result_bind_eq_ok_iff {x : Logged ε α} {next : α → Logged ε β} {b : β} :
    (x >>= next).result = .ok b ↔ ∃ a, x.result = .ok a ∧ (next a).result = .ok b := by
  change (x.andThen next).result = .ok b ↔ _
  unfold andThen
  cases x.result with
  | error e => simp
  | ok a => simp

theorem result_bind_eq_error_iff {x : Logged ε α} {next : α → Logged ε β} {e : ε} :
    (x >>= next).result = .error e ↔
      x.result = .error e ∨ ∃ a, x.result = .ok a ∧ (next a).result = .error e := by
  change (x.andThen next).result = .error e ↔ _
  unfold andThen
  cases x.result with
  | error e => simp
  | ok a => simp

theorem mapError_eq_ok_iff {f : ε → δ} {result : Except ε α} {a : α} :
    result.mapError f = .ok a ↔ result = .ok a := by
  cases result <;> simp [Except.mapError]

theorem mapError_eq_error_iff {f : ε → δ} {result : Except ε α} {d : δ} :
    result.mapError f = .error d ↔ ∃ e, result = .error e ∧ f e = d := by
  cases result <;> simp [Except.mapError]

theorem result_mapError_eq_error_iff {f : ε → δ} {x : Logged ε α} {d : δ} :
    (x.mapError f).result = .error d ↔ ∃ e, x.result = .error e ∧ f e = d :=
  mapError_eq_error_iff

theorem result_mapError_eq_ok_iff {f : ε → δ} {x : Logged ε α} {a : α} :
    (x.mapError f).result = .ok a ↔ x.result = .ok a :=
  mapError_eq_ok_iff

theorem result_ofExcept (result : Except ε α) : (ofExcept result).result = result := rfl

theorem result_log_eq_ok_iff {events : List LogEvent} {u : Unit} :
    (log events : Logged ε Unit).result = .ok u ↔ True := by
  simp [log]

theorem result_pure (a : α) : (pure a : Logged ε α).result = .ok a := rfl

end Logged

open Logged

theorem Discovery.discover_eq_ok_iff {fs : FileSystem} {filter : FileFilter}
    {paths files : List Path} :
    (discover fs filter paths).result = .ok files ↔
      ∃ found, (filesAtAll fs filter paths).result = .ok found ∧ sortFiles found = files := by
  simp only [discover, result_bind_eq_ok_iff, result_log_eq_ok_iff, result_pure, true_and,
    exists_const, Except.ok.injEq]

namespace CommandLine

theorem registryOf_eq_ok_iff {config : Config} {registry : Registry} :
    (registryOf config).result = .ok registry ↔
      Registry.build config.linters.maxLineLength config.patterns = .ok registry := by
  unfold registryOf
  cases Registry.build config.linters.maxLineLength config.patterns <;> simp

theorem registryOf_eq_error_iff {config : Config} {e : RegistryError} :
    (registryOf config).result = .error e ↔
      Registry.build config.linters.maxLineLength config.patterns = .error e := by
  unfold registryOf
  cases Registry.build config.linters.maxLineLength config.patterns <;> simp

theorem plan_eq_ok_iff {fs : FileSystem} {options : CheckOptions} {p : Plan} :
    (plan fs options).result = .ok p ↔
      ∃ config filter, (loadConfig fs options.config).result = .ok config ∧
        selectionOf config options.includeLinters options.excludeLinters = .ok p.selection ∧
        Registry.build config.linters.maxLineLength config.patterns = .ok p.registry ∧
        FileFilter.ofPatterns config.files.included config.files.excluded = .ok filter ∧
        (Discovery.discover fs filter options.paths).result = .ok p.files := by
  cases p
  simp only [plan, Discovery.filterOf, result_bind_eq_ok_iff, result_mapError_eq_ok_iff,
    result_ofExcept, mapError_eq_ok_iff, registryOf_eq_ok_iff, result_log_eq_ok_iff, result_pure,
    true_and, exists_const, Except.ok.injEq, Plan.mk.injEq]
  constructor
  · rintro ⟨config, hconfig, selection, hselection, registry, hregistry, filter, hfilter, files,
      hfiles, rfl, rfl, rfl⟩
    exact ⟨config, filter, hconfig, hselection, hregistry, hfilter, hfiles⟩
  · rintro ⟨config, filter, hconfig, hselection, hregistry, hfilter, hfiles⟩
    exact ⟨config, hconfig, _, hselection, _, hregistry, filter, hfilter, _, hfiles, rfl, rfl, rfl⟩

theorem runLogged_result (runner : Runner) (parallel : Bool) (files : List Path) :
    (runLogged runner parallel files).result = runner.run files := by
  cases parallel with
  | false => rfl
  | true => exact runner.runParallel_eq_run files

theorem check_eq_ok_iff {fs : FileSystem} {options : CheckOptions} {report : Report} :
    (check fs options).result = .ok report ↔
      ∃ p, (plan fs options).result = .ok p ∧
        (Runner.make p.registry p.selection fs.source).run p.files = .ok report := by
  simp only [check, result_bind_eq_ok_iff, result_mapError_eq_ok_iff, result_log_eq_ok_iff,
    runLogged_result, true_and, exists_const]

/-- A check fails where its plan does, or else where its run does. -/
theorem check_eq_error_iff {fs : FileSystem} {options : CheckOptions} {e : CommandError} :
    (check fs options).result = .error e ↔
      (plan fs options).result = .error e ∨ ∃ p, (plan fs options).result = .ok p ∧
        ∃ cause, (Runner.make p.registry p.selection fs.source).run p.files = .error cause ∧
          .run cause = e := by
  simp only [check, result_bind_eq_error_iff, result_mapError_eq_error_iff, runLogged_result, log,
    reduceCtorEq, false_or, true_and, exists_const]

theorem plan_ne_run_error {fs : FileSystem} {options : CheckOptions} (cause : RunError) :
    (plan fs options).result ≠ .error (.run cause) := by
  simp [plan, Discovery.filterOf, result_bind_eq_error_iff, result_mapError_eq_error_iff,
    result_ofExcept, mapError_eq_error_iff, log, result_pure]

theorem list_eq_ok_iff {fs : FileSystem} {path : Option Path} {statuses : List LinterStatus} :
    (list fs path).result = .ok statuses ↔
      ∃ config registry, (loadConfig fs path).result = .ok config ∧
        Registry.build config.linters.maxLineLength config.patterns = .ok registry ∧
        Listing.ofRegistry registry config config.selection fs.source = statuses := by
  simp only [list, result_bind_eq_ok_iff, result_mapError_eq_ok_iff, registryOf_eq_ok_iff,
    result_pure, Except.ok.injEq, exists_and_left]

end CommandLine

end Linting
