import Linting.CommandLine.Arguments
import Linting.Config.Load
import Linting.Files.Discovery
import Linting.Files.Source
import Linting.Listing
import Linting.Report.Human
import Linting.Runner.Parallel

/-! The commands that use the configuration: checking files and listing linters. -/

namespace Linting.CommandLine

inductive CommandError
  | config (error : ConfigError)
  | registry (error : RegistryError)
  | discovery (error : DiscoveryError)
  | run (error : RunError)
  deriving DecidableEq

def CommandError.message : CommandError → String
  | config e => s!"Configuration error: {e.message}"
  | registry e => s!"Registry error: {e.message}"
  | discovery e => s!"File discovery error: {e.message}"
  | run e => e.message

/-- How the program ends. -/
inductive ExitStatus
  | success
  | lints
  | error
  | configError
  | linterCrash
  deriving DecidableEq, Repr

def ExitStatus.code : ExitStatus → Nat
  | success => 0
  | lints => 1
  | error => 2
  | configError => 3
  | linterCrash => 4

def CommandError.exitStatus : CommandError → ExitStatus
  | config _ | registry _ => .configError
  | run (.linter _) => .linterCrash
  | _ => .error

/-- The configuration: a file that is named must be there, the default one need not. -/
def loadConfig (fs : FileSystem) : Option Path → Logged ConfigError Config
  | some path => .ofExcept (Config.load fs path)
  | none => Config.loadOrDefault fs (Path.ofString Config.fileName)

def parseNames : List String → Except ConfigError (List LinterName)
  | [] => .ok []
  | s :: rest =>
    match LinterName.ofString? s with
    | none => .error (.invalid (.linterName s))
    | some name => (parseNames rest).map (name :: ·)

/-- The selection of the configuration; a list that is given on the command line takes the place of
the configured one. -/
def selectionOf (config : Config) (includeLinters excludeLinters : List String) :
    Except ConfigError Selection := do
  let selection := config.selection
  let selection ← if includeLinters.isEmpty then pure selection
    else (parseNames includeLinters).map selection.includeOnly
  if excludeLinters.isEmpty then pure selection
    else (parseNames excludeLinters).map selection.exclude

def registryOf (config : Config) : Logged RegistryError Registry :=
  match Registry.build config.linters.maxLineLength config.patterns with
  | .error e => ⟨[], .error e⟩
  | .ok registry => ⟨[.registryBuilt registry.descriptors.length], .ok registry⟩

/-- The names that no linter has. -/
def unknownNames (registry : Registry) (names : List String) : List String :=
  names.filter fun s => !registry.names.any fun name => name.text = s

/-- Runs the linters and logs the files that are read. -/
def runLogged (runner : Runner) (parallel : Bool) (files : List Path) :
    Logged RunError Report :=
  if parallel then
    let analyzed := match runner.refusal? files with
      | some _ => []
      | none => (runner.pool files (Parallel.oneWorker files.length)).analyzed.reverse
    ⟨analyzed.filterMap fun i => files[i]?.map .readingSource, runner.runParallel files⟩
  else
    let (calls, result) := runner.runTraced files
    ⟨calls.filterMap fun call =>
      match call with
      | .build file => some (.readingSource file)
      | .lint _ _ => none, result⟩

/-- What a check is going to do. -/
structure Plan where
  registry : Registry
  selection : Selection
  files : List Path

/-- Everything that comes before the first source is read: configuration, selection, registry and
discovery follow each other, and the first that fails ends it. -/
def plan (fs : FileSystem) (options : CheckOptions) : Logged CommandError Plan := do
  let config ← (loadConfig fs options.config).mapError .config
  let selection ← (Logged.ofExcept
    (selectionOf config options.includeLinters options.excludeLinters)).mapError .config
  let registry ← (registryOf config).mapError .registry
  Logged.log ((unknownNames registry (options.includeLinters ++ options.excludeLinters)).map
    .unknownLinter)
  let filter ← (Logged.ofExcept
    (Discovery.filterOf config.files.included config.files.excluded)).mapError .discovery
  let files ← (Discovery.discover fs filter options.paths).mapError .discovery
  pure ⟨registry, selection, files⟩

/-- Checks files. -/
def check (fs : FileSystem) (options : CheckOptions) : Logged CommandError Report := do
  let plan ← plan fs options
  let runner := Runner.make plan.registry plan.selection fs.source
  Logged.log [.checking plan.files.length runner.linters.length options.parallel]
  (runLogged runner options.parallel plan.files).mapError .run

/-- Lists the linters. -/
def list (fs : FileSystem) (config : Option Path) : Logged CommandError (List LinterStatus) := do
  let config ← (loadConfig fs config).mapError .config
  let registry ← (registryOf config).mapError .registry
  pure (Listing.ofRegistry registry config config.selection fs.source)

end Linting.CommandLine
