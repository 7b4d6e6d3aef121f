import Linting.CommandLine.Program
import Linting.Proofs.CommandLine.Selections
import Linting.Proofs.Files.Discovery
import Linting.Proofs.Report.Records

/-! The stages of a check. Each has its own faults, told from what it is given and not from the run
of the program, so that several stages may be at fault at once. The first stage that is at fault
ends the check, and it alone decides how the program exits. -/

namespace Linting

namespace CommandLine

open Logged

inductive Stage
  | configuration
  | flags
  | registry
  | discovery
  | run
  deriving DecidableEq, Repr

namespace Stage

/-- The stages that run before a stage. -/
def before : Stage → List Stage
  | configuration => []
  | flags => [configuration]
  | registry => [configuration, flags]
  | discovery => [configuration, flags, registry]
  | run => [configuration, flags, registry, discovery]

/-- A stage runs before another or is the same. -/
instance : LE Stage := ⟨fun s t => t ∉ s.before⟩

instance (s t : Stage) : Decidable (s ≤ t) := inferInstanceAs (Decidable (t ∉ s.before))

theorem le_refl (s : Stage) : s ≤ s := by
  cases s <;> decide

theorem le_trans {r s t : Stage} (h : r ≤ s) (h' : s ≤ t) : r ≤ t := by
  revert h h'
  cases r <;> cases s <;> cases t <;> decide

theorem eq_or_mem_before (s t : Stage) : s = t ∨ s ∈ t.before ∨ t ∈ s.before := by
  cases s <;> cases t <;> decide

end Stage

section Faults

variable {fs : FileSystem} {options : CheckOptions}

/-- What the stages in front of the run come to. -/
structure Prepares (fs : FileSystem) (options : CheckOptions) (config : Config)
    (filter : FileFilter) (p : Plan) : Prop where
  loaded : (loadConfig fs options.config).result = .ok config
  selected : selectionOf config options.includeLinters options.excludeLinters = .ok p.selection
  built : Registry.build config.linters.maxLineLength config.patterns = .ok p.registry
  compiled : FileFilter.ofPatterns config.files.included config.files.excluded = .ok filter
  discovered : (Discovery.discover fs filter options.paths).result = .ok p.files

/-- What a stage fails with. A stage that needs what an earlier one makes has no fault without it;
the names on the command line are at fault by themselves. -/
inductive Fault (fs : FileSystem) (options : CheckOptions) : Stage → CommandError → Prop
  | configuration {e : ConfigError} (h : (loadConfig fs options.config).result = .error e) :
      Fault fs options .configuration (.config e)
  | flags {s : String}
      (h : invalidName? (options.includeLinters ++ options.excludeLinters) = some s) :
      Fault fs options .flags (.config (.invalid (.linterName s)))
  | registry {config : Config} {e : RegistryError}
      (loaded : (loadConfig fs options.config).result = .ok config)
      (h : Registry.build config.linters.maxLineLength config.patterns = .error e) :
      Fault fs options .registry (.registry e)
  | pattern {config : Config} {bad : BadPattern}
      (loaded : (loadConfig fs options.config).result = .ok config)
      (h : FileFilter.ofPatterns config.files.included config.files.excluded = .error bad) :
      Fault fs options .discovery (.discovery (.badPattern bad))
  | path {config : Config} {filter : FileFilter} {e : DiscoveryError}
      (loaded : (loadConfig fs options.config).result = .ok config)
      (compiled : FileFilter.ofPatterns config.files.included config.files.excluded = .ok filter)
      (h : Discovery.FirstFailure fs filter options.paths e) :
      Fault fs options .discovery (.discovery e)
  | run {config : Config} {filter : FileFilter} {p : Plan} {e : RunError}
      (prepared : Prepares fs options config filter p)
      (h : (Runner.make p.registry p.selection fs.source).EndsEarly p.files e) :
      Fault fs options .run (.run e)

/-- A stage that has no fault. -/
def Passes (fs : FileSystem) (options : CheckOptions) (stage : Stage) : Prop :=
  ∀ e, ¬Fault fs options stage e

/-- A stage has a fault and the stages before it have none. -/
structure FirstFault (fs : FileSystem) (options : CheckOptions) (stage : Stage)
    (e : CommandError) : Prop where
  fault : Fault fs options stage e
  passed : ∀ earlier ∈ stage.before, Passes fs options earlier

theorem passes_configuration {config : Config}
    (h : (loadConfig fs options.config).result = .ok config) :
    Passes fs options .configuration := by
  rintro _ (h' | _)
  cases h.symm.trans h'

theorem passes_flags {config : Config} {selection : Selection}
    (h : selectionOf config options.includeLinters options.excludeLinters = .ok selection) :
    Passes fs options .flags := by
  rintro _ (_ | invalid)
  cases h.symm.trans (selectionOf_of_invalid config invalid)

theorem passes_registry {config : Config} {registry : Registry}
    (loaded : (loadConfig fs options.config).result = .ok config)
    (h : Registry.build config.linters.maxLineLength config.patterns = .ok registry) :
    Passes fs options .registry := by
  rintro _ (_ | _ | ⟨loaded', h'⟩)
  cases loaded.symm.trans loaded'
  cases h.symm.trans h'

theorem passes_discovery {config : Config} {filter : FileFilter} {files : List Path}
    (loaded : (loadConfig fs options.config).result = .ok config)
    (compiled : FileFilter.ofPatterns config.files.included config.files.excluded = .ok filter)
    (h : (Discovery.discover fs filter options.paths).result = .ok files) :
    Passes fs options .discovery := by
  rintro _ (_ | _ | _ | ⟨loaded', h'⟩ | ⟨loaded', compiled', h'⟩)
  · cases loaded.symm.trans loaded'
    cases compiled.symm.trans h'
  · cases loaded.symm.trans loaded'
    cases compiled.symm.trans compiled'
    cases h.symm.trans (Discovery.discover_eq_error_iff.mpr h')

theorem Prepares.unique {config config' : Config} {filter filter' : FileFilter} {p p' : Plan}
    (h : Prepares fs options config filter p) (h' : Prepares fs options config' filter' p') :
    p = p' := by
  have plan := plan_eq_ok_iff.mpr ⟨config, filter, h.loaded, h.selected, h.built, h.compiled,
    h.discovered⟩
  have plan' := plan_eq_ok_iff.mpr ⟨config', filter', h'.loaded, h'.selected, h'.built,
    h'.compiled, h'.discovered⟩
  exact Except.ok.inj (plan.symm.trans plan')

theorem exists_prepares {p : Plan} (h : (plan fs options).result = .ok p) :
    ∃ config filter, Prepares fs options config filter p := by
  obtain ⟨config, filter, loaded, selected, built, compiled, discovered⟩ := plan_eq_ok_iff.mp h
  exact ⟨config, filter, loaded, selected, built, compiled, discovered⟩

theorem Prepares.passes {config : Config} {filter : FileFilter} {p : Plan}
    (h : Prepares fs options config filter p) :
    ∀ earlier ∈ Stage.run.before, Passes fs options earlier := by
  simp [Stage.before, passes_configuration h.loaded, passes_flags h.selected,
    passes_registry h.loaded h.built, passes_discovery h.loaded h.compiled h.discovered]

theorem Prepares.passes_run {config : Config} {filter : FileFilter} {p : Plan} {report : Report}
    (h : Prepares fs options config filter p)
    (run : (Runner.make p.registry p.selection fs.source).run p.files = .ok report) :
    Passes fs options .run := by
  rintro _ (_ | _ | _ | _ | _ | ⟨prepared, h'⟩)
  cases h.unique prepared
  cases run.symm.trans (Runner.run_eq_error_iff.mpr h')

/-- A stage has one fault at most. -/
theorem Fault.unique {stage : Stage} {e e' : CommandError} (h : Fault fs options stage e)
    (h' : Fault fs options stage e') : e = e' := by
  cases h with
  | configuration h =>
    cases h' with
    | configuration h' => rw [Except.error.inj (h.symm.trans h')]
  | flags h =>
    cases h' with
    | flags h' => rw [Option.some.inj (h.symm.trans h')]
  | registry loaded h =>
    cases h' with
    | registry loaded' h' =>
      cases loaded.symm.trans loaded'
      rw [Except.error.inj (h.symm.trans h')]
  | pattern loaded h =>
    cases h' with
    | pattern loaded' h' =>
      cases loaded.symm.trans loaded'
      rw [Except.error.inj (h.symm.trans h')]
    | path loaded' compiled =>
      cases loaded.symm.trans loaded'
      cases h.symm.trans compiled
  | path loaded compiled h =>
    cases h' with
    | pattern loaded' h' =>
      cases loaded.symm.trans loaded'
      cases compiled.symm.trans h'
    | path loaded' compiled' h' =>
      cases loaded.symm.trans loaded'
      cases compiled.symm.trans compiled'
      have found := Discovery.discover_eq_error_iff.mpr h
      rw [Except.error.inj (found.symm.trans (Discovery.discover_eq_error_iff.mpr h'))]
  | run prepared h =>
    cases h' with
    | run prepared' h' =>
      cases prepared.unique prepared'
      have ended := Runner.run_eq_error_iff.mpr h
      rw [Except.error.inj (ended.symm.trans (Runner.run_eq_error_iff.mpr h'))]

theorem FirstFault.unique {s t : Stage} {e e' : CommandError} (h : FirstFault fs options s e)
    (h' : FirstFault fs options t e') : s = t ∧ e = e' := by
  rcases Stage.eq_or_mem_before s t with rfl | earlier | later
  · exact ⟨rfl, h.fault.unique h'.fault⟩
  · exact absurd h.fault (h'.passed s earlier e)
  · exact absurd h'.fault (h.passed t later e')

theorem exists_invalid_of_selectionOf {config : Config} {includes excludes : List String}
    {e : ConfigError} (h : selectionOf config includes excludes = .error e) :
    ∃ s, invalidName? (includes ++ excludes) = some s ∧ e = .invalid (.linterName s) := by
  cases invalid : invalidName? (includes ++ excludes) with
  | some s =>
    have selection := selectionOf_of_invalid config invalid
    exact ⟨s, rfl, Except.error.inj (h.symm.trans selection)⟩
  | none =>
    obtain ⟨_, selection, _⟩ := selectionOf_of_valid config invalid
    cases h.symm.trans selection

theorem exists_firstFault_of_plan {e : CommandError} (h : (plan fs options).result = .error e) :
    ∃ stage, FirstFault fs options stage e := by
  simp only [plan, Discovery.filterOf, result_bind_eq_error_iff, result_mapError_eq_error_iff,
    result_mapError_eq_ok_iff, result_ofExcept, mapError_eq_error_iff, mapError_eq_ok_iff,
    registryOf_eq_ok_iff, registryOf_eq_error_iff, log, result_pure] at h
  rcases h with ⟨cause, h, rfl⟩ | ⟨config, loaded, h⟩
  · exact ⟨.configuration, .configuration h, by simp [Stage.before]⟩
  have configuration := passes_configuration loaded
  rcases h with ⟨cause, h, rfl⟩ | ⟨selection, selected, h⟩
  · obtain ⟨s, invalid, rfl⟩ := exists_invalid_of_selectionOf h
    exact ⟨.flags, .flags invalid, by simp [Stage.before, configuration]⟩
  have flags : Passes fs options .flags := passes_flags selected
  rcases h with ⟨cause, h, rfl⟩ | ⟨registry, built, h⟩
  · exact ⟨.registry, .registry loaded h, by simp [Stage.before, configuration, flags]⟩
  have before : ∀ earlier ∈ Stage.discovery.before, Passes fs options earlier := by
    simp [Stage.before, configuration, flags, passes_registry loaded built]
  rcases h with h | ⟨-, -, ⟨_, ⟨bad, h, rfl⟩, rfl⟩ | ⟨filter, compiled, h⟩⟩
  · cases h
  · exact ⟨.discovery, .pattern loaded h, before⟩
  rcases h with ⟨cause, h, rfl⟩ | ⟨files, -, h⟩
  · exact ⟨.discovery, .path loaded compiled (Discovery.discover_eq_error_iff.mp h), before⟩
  · cases h

theorem passes_of_check_eq_ok {report : Report} (h : (check fs options).result = .ok report)
    (stage : Stage) : Passes fs options stage := by
  obtain ⟨p, planned, ran⟩ := check_eq_ok_iff.mp h
  obtain ⟨config, filter, prepared⟩ := exists_prepares planned
  have earlier := prepared.passes
  cases stage with
  | run => exact prepared.passes_run ran
  | _ => exact earlier _ (by decide)

/-- A check fails exactly with the fault of the first stage that has one. -/
theorem check_eq_error_iff_firstFault {e : CommandError} :
    (check fs options).result = .error e ↔ ∃ stage, FirstFault fs options stage e := by
  have forward {e : CommandError} (h : (check fs options).result = .error e) :
      ∃ stage, FirstFault fs options stage e := by
    rcases check_eq_error_iff.mp h with planned | ⟨p, planned, cause, ran, rfl⟩
    · exact exists_firstFault_of_plan planned
    · obtain ⟨config, filter, prepared⟩ := exists_prepares planned
      exact ⟨.run, .run prepared (Runner.run_eq_error_iff.mp ran), prepared.passes⟩
  refine ⟨forward, ?_⟩
  rintro ⟨stage, first⟩
  cases result : (check fs options).result with
  | ok report => exact absurd first.fault (passes_of_check_eq_ok result stage e)
  | error e' =>
    -- the check has ended with a first fault, and there is only one
    obtain ⟨stage', first'⟩ := forward result
    rw [(first.unique first').2]

theorem exists_check_eq_ok_iff :
    (∃ report, (check fs options).result = .ok report) ↔ ∀ stage, Passes fs options stage := by
  constructor
  · rintro ⟨report, h⟩
    exact passes_of_check_eq_ok h
  · intro passes
    cases result : (check fs options).result with
    | ok report => exact ⟨report, rfl⟩
    | error e =>
      obtain ⟨stage, first⟩ := check_eq_error_iff_firstFault.mp result
      exact absurd first.fault (passes stage e)

end Faults

/-- The stage that an event is logged in. -/
def stageOf? : LogEvent → Option Stage
  | .defaultsUsed _ | .loadingConfig _ => some .configuration
  | .registryBuilt _ | .unknownLinter _ => some .registry
  | .skipped _ _ | .explicitExcluded _ | .discovered _ => some .discovery
  | .checking _ _ _ | .readingSource _ => some .run
  | .wroteConfig _ _ => none

/-- The stage of an error, or the first of those that have errors of the kind. -/
def CommandError.stage : CommandError → Stage
  | config _ => .configuration
  | registry _ => .registry
  | discovery _ => .discovery
  | run _ => .run

theorem Fault.stage_le {fs : FileSystem} {options : CheckOptions} {stage : Stage}
    {e : CommandError} (h : Fault fs options stage e) : e.stage ≤ stage := by
  cases h with
  | flags => exact (by decide : Stage.configuration ≤ .flags)
  | _ => exact Stage.le_refl _

/-- A part of a check that goes through stages from `lo` to `hi` in order, as its log tells, and
comes to no stage beyond the one that ends it. -/
structure Staged {α : Type} (lo hi : Stage) (x : Logged CommandError α) : Prop where
  ordered : ∃ stages : List Stage, x.events.map stageOf? = stages.map some ∧ stages.Pairwise (· ≤ ·) ∧
    ∀ s ∈ stages, lo ≤ s ∧ s ≤ hi ∧ ∀ e, x.result = .error e → s ≤ e.stage
  ends : ∀ e, x.result = .error e → lo ≤ e.stage

section Log

variable {ε α β : Type}

theorem events_bind (x : Logged ε α) (next : α → Logged ε β) :
    (x >>= next).events =
      x.events ++ (x.result.toOption.elim [] fun a => (next a).events) := by
  change (x.andThen next).events = _
  unfold andThen
  cases x.result with
  | error e => exact (List.append_nil _).symm
  | ok a => rfl

theorem mem_events_bind {x : Logged ε α} {next : α → Logged ε β} {event : LogEvent}
    (h : event ∈ (x >>= next).events) :
    event ∈ x.events ∨ ∃ a, x.result = .ok a ∧ event ∈ (next a).events := by
  rw [events_bind, List.mem_append] at h
  refine h.imp_right fun later => ?_
  cases result : x.result with
  | error e => simp [result, Except.toOption] at later
  | ok a => exact ⟨a, rfl, by simpa [result, Except.toOption] using later⟩

theorem Staged.of_events {stage : Stage} {x : Logged CommandError α}
    (events : ∀ event ∈ x.events, stageOf? event = some stage)
    (error : ∀ e, x.result = .error e → e.stage = stage) : Staged stage stage x := by
  have same := Stage.le_refl stage
  refine ⟨⟨List.replicate x.events.length stage, ?_, ?_, ?_⟩, fun e he => error e he ▸ same⟩
  · rw [List.map_replicate, List.eq_replicate_iff]
    refine ⟨List.length_map _, ?_⟩
    intro told htold
    obtain ⟨event, hevent, rfl⟩ := List.mem_map.mp htold
    exact events event hevent
  · exact List.pairwise_replicate.mpr (.inr same)
  · intro s hs
    obtain rfl := List.eq_of_mem_replicate hs
    exact ⟨same, same, fun e he => (error e he).symm ▸ same⟩

theorem Staged.mapError {f : ε → CommandError} {stage : Stage} {x : Logged ε α}
    (events : ∀ event ∈ x.events, stageOf? event = some stage) (error : ∀ e, (f e).stage = stage) :
    Staged stage stage (x.mapError f) := by
  refine .of_events events fun e he => ?_
  obtain ⟨cause, -, rfl⟩ := result_mapError_eq_error_iff.mp he
  exact error cause

theorem Staged.bind {lo mid hi : Stage} {x : Logged CommandError α}
    {next : α → Logged CommandError β} (hx : Staged lo mid x) (resume : Stage)
    (order : lo ≤ mid ∧ mid ≤ resume ∧ resume ≤ hi)
    (hnext : ∀ a, x.result = .ok a → Staged resume hi (next a)) : Staged lo hi (x >>= next) := by
  obtain ⟨first, behind, last⟩ := order
  have start := Stage.le_trans first behind
  have stop := Stage.le_trans behind last
  obtain ⟨stages, told, ascending, within⟩ := hx.ordered
  cases result : x.result with
  | error e =>
    have failed {e' : CommandError} (h : (x >>= next).result = .error e') : x.result = .error e' := by
      rcases result_bind_eq_error_iff.mp h with h | ⟨a, h, -⟩
      · exact h
      · cases result.symm.trans h
    refine ⟨⟨stages, ?_, ascending, ?_⟩, fun e' h => hx.ends e' (failed h)⟩
    · rw [events_bind, result, Except.toOption, Option.elim, List.append_nil, told]
    · intro s hs
      obtain ⟨above, below, stopped⟩ := within s hs
      exact ⟨above, Stage.le_trans below stop, fun e' h => stopped e' (failed h)⟩
  | ok a =>
    have later := hnext a result
    obtain ⟨stages', told', ascending', within'⟩ := later.ordered
    have failed {e : CommandError} (h : (x >>= next).result = .error e) :
        (next a).result = .error e := by
      rcases result_bind_eq_error_iff.mp h with h | ⟨a', h, hnext⟩
      · cases result.symm.trans h
      · cases result.symm.trans h
        exact hnext
    refine ⟨⟨stages ++ stages', ?_, ?_, ?_⟩, ?_⟩
    · rw [events_bind, result, Except.toOption, Option.elim, List.map_append, List.map_append, told,
        told']
    · -- the first part stays at `mid` at most, and the second one resumes behind it
      refine List.pairwise_append.mpr ⟨ascending, ascending', ?_⟩
      intro s hs t ht
      exact Stage.le_trans (within s hs).2.1 (Stage.le_trans behind (within' t ht).1)
    · intro s hs
      rcases List.mem_append.mp hs with hs | hs
      · obtain ⟨above, below, -⟩ := within s hs
        exact ⟨above, Stage.le_trans below stop, fun e h =>
          Stage.le_trans below (Stage.le_trans behind (later.ends e (failed h)))⟩
      · obtain ⟨above, below, stopped⟩ := within' s hs
        exact ⟨Stage.le_trans start above, below, fun e h => stopped e (failed h)⟩
    · intro e h
      exact Stage.le_trans start (later.ends e (failed h))

theorem staged_ofExcept (f : ε → CommandError) {stage : Stage} (result : Except ε α)
    (error : ∀ e, (f e).stage = stage) :
    Staged stage stage ((Logged.ofExcept result).mapError f) :=
  .mapError (by simp [Logged.ofExcept]) error

end Log

theorem loadConfig_staged (fs : FileSystem) (path : Option Path) :
    Staged .configuration .configuration ((loadConfig fs path).mapError .config) := by
  refine .mapError ?_ fun _ => rfl
  cases path with
  | some path => simp [loadConfig, Logged.ofExcept]
  | none =>
    simp only [loadConfig, Config.loadOrDefault]
    split <;> simp [stageOf?]

theorem registryOf_staged (config : Config) :
    Staged .registry .registry ((registryOf config).mapError .registry) := by
  refine .mapError ?_ fun _ => rfl
  unfold registryOf
  split <;> simp [stageOf?]

theorem stageOf?_filesAt {fs : FileSystem} {filter : FileFilter} {p : Path} {event : LogEvent}
    (h : event ∈ (Discovery.filesAt fs filter p).events) : stageOf? event = some .discovery := by
  unfold Discovery.filesAt at h
  split at h
  · split at h
    · obtain rfl := List.mem_singleton.mp h
      rfl
    · cases h
  · split at h
    · split at h
      · cases h
      · obtain ⟨v, -, hv⟩ := List.mem_filterMap.mp h
        obtain ⟨reason, -, rfl⟩ := Option.map_eq_some_iff.mp hv
        rfl
    · cases h

theorem stageOf?_filesAtAll {fs : FileSystem} {filter : FileFilter} {paths : List Path}
    {event : LogEvent} (h : event ∈ (Discovery.filesAtAll fs filter paths).events) :
    stageOf? event = some .discovery := by
  induction paths with
  | nil => cases h
  | cons p paths ih =>
    rw [Discovery.filesAtAll] at h
    rcases mem_events_bind h with h | ⟨files, -, h⟩
    · exact stageOf?_filesAt h
    · rcases mem_events_bind h with h | ⟨more, -, h⟩
      · exact ih h
      · cases h

theorem discover_staged (fs : FileSystem) (filter : FileFilter) (paths : List Path) :
    Staged .discovery .discovery ((Discovery.discover fs filter paths).mapError .discovery) := by
  refine .mapError (fun event h => ?_) fun _ => rfl
  rw [Discovery.discover] at h
  rcases mem_events_bind h with h | ⟨files, -, h⟩
  · exact stageOf?_filesAtAll h
  · rcases mem_events_bind h with h | ⟨-, -, h⟩
    · obtain rfl := List.mem_singleton.mp h
      rfl
    · cases h

theorem runLogged_staged (runner : Runner) (parallel : Bool) (files : List Path) :
    Staged .run .run ((runLogged runner parallel files).mapError .run) := by
  refine .mapError (fun event h => ?_) fun _ => rfl
  unfold runLogged at h
  split at h
  · obtain ⟨i, -, h⟩ := List.mem_filterMap.mp h
    obtain ⟨file, -, rfl⟩ := Option.map_eq_some_iff.mp h
    rfl
  · obtain ⟨call, -, h⟩ := List.mem_filterMap.mp h
    cases call with
    | build file =>
      cases h
      rfl
    | lint => cases h

theorem log_staged {stage : Stage} {events : List LogEvent}
    (h : ∀ event ∈ events, stageOf? event = some stage) :
    Staged stage stage (Logged.log events : Logged CommandError Unit) :=
  .of_events h (by simp [Logged.log])

theorem pure_staged {α : Type} (stage : Stage) (a : α) :
    Staged stage stage (pure a : Logged CommandError α) :=
  .of_events (fun _ h => by cases h) fun _ h => by cases h

theorem plan_staged (fs : FileSystem) (options : CheckOptions) :
    Staged .configuration .discovery (plan fs options) := by
  refine (loadConfig_staged fs options.config).bind .configuration (by decide) fun config _ => ?_
  refine (staged_ofExcept .config _ fun _ => rfl).bind .registry (by decide) fun selection _ => ?_
  refine (registryOf_staged config).bind .registry (by decide) fun registry _ => ?_
  refine (log_staged (by simp [stageOf?])).bind .discovery (by decide) fun _ _ => ?_
  refine (staged_ofExcept .discovery _ fun _ => rfl).bind .discovery (by decide) fun filter _ => ?_
  refine (discover_staged fs filter options.paths).bind .discovery (by decide) fun files _ => ?_
  exact pure_staged .discovery _

/-- A check goes through its stages in order. -/
theorem check_staged (fs : FileSystem) (options : CheckOptions) :
    Staged .configuration .run (check fs options) := by
  refine (plan_staged fs options).bind .run (by decide) fun p _ => ?_
  refine (log_staged (by simp [stageOf?])).bind .run (by decide) fun _ _ => ?_
  exact runLogged_staged _ _ _

end CommandLine

end Linting
