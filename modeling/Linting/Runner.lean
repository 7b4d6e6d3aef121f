import Linting.Containment
import Linting.Registry
import Linting.Selection

/-! Running the active linters over files. Every file is turned into a document and handed to every
active linter; the first call that fails ends the run. -/

namespace Linting

inductive EngineError
  | read (path : Path) (cause : String)
  | malformed (path : Path) (reason : String)
  deriving DecidableEq, Repr

namespace EngineError

def path : EngineError → Path
  | read path _ => path
  | malformed path _ => path

def message : EngineError → String
  | read path cause => s!"Failed to read {path.display}: {cause}"
  | malformed path reason => s!"Malformed input in {path.display}: {reason}"

/-- The text of what caused the error. -/
def cause? : EngineError → Option String
  | read _ cause => some cause
  | malformed _ _ => none

end EngineError

/-- Turns a file into a document. -/
abbrev Engine := Path → Except EngineError Document

/-- A linter that could not finish with a file. -/
structure LinterError where
  linter : LinterName
  file : Path
  failure : Failure
  deriving DecidableEq

def LinterError.message (e : LinterError) : String :=
  s!"{e.linter.text} raised an unexpected error while linting {e.file.display}: " ++
    e.failure.message

inductive RunError
  | noFiles
  | noLinters
  | engine (error : EngineError)
  | linter (error : LinterError)
  deriving DecidableEq

def RunError.message : RunError → String
  | noFiles => "No files specified"
  | noLinters => "No linters are active"
  | engine error => error.message
  | linter error => error.message

/-- What a run found. -/
structure Report where
  lints : List Lint
  filesChecked : Nat
  lintersRun : Nat
  deriving DecidableEq

def Report.isClean (r : Report) : Bool := r.lints.isEmpty

/-- A call that a run makes. -/
inductive Call
  | build (file : Path)
  | lint (linter : LinterName) (file : Path)
  deriving DecidableEq

def Call.isBuild : Call → Bool
  | build _ => true
  | lint _ _ => false

/-- A linter that takes part in a run, under its registered name. -/
structure ActiveLinter where
  name : LinterName
  run : Linter

structure Runner where
  linters : List ActiveLinter
  engine : Engine

namespace Runner

/-- The calls made, in order, and what came of them. -/
abbrev Traced (α : Type) := List Call × Except RunError α

/-- Makes one instance of every selected linter, in the registry's order. -/
def make (registry : Registry) (selection : Selection) (engine : Engine) : Runner :=
  ⟨(registry.descriptors.filter fun d => selection.selects d.name).map fun d =>
    ⟨d.name, d.instantiate⟩, engine⟩

def names (r : Runner) : List LinterName := r.linters.map ActiveLinter.name

/-- Runs linters on a document one after the other. -/
def lintDocument (file : Path) (d : Document) : List ActiveLinter → Traced (List Lint)
  | [] => ([], .ok [])
  | active :: rest =>
    match (active.run d).contain with
    | .error failure => ([.lint active.name file], .error (.linter ⟨active.name, file, failure⟩))
    | .ok found =>
      let (calls, result) := lintDocument file d rest
      (.lint active.name file :: calls, result.map (found ++ ·))

/-- Builds one document and runs every active linter on it. -/
def lintFile (r : Runner) (file : Path) : Traced (List Lint) :=
  match r.engine file with
  | .error e => ([.build file], .error (.engine e))
  | .ok d =>
    let (calls, result) := lintDocument file d r.linters
    (.build file :: calls, result)

def lintFiles (r : Runner) : List Path → Traced (List Lint)
  | [] => ([], .ok [])
  | file :: rest =>
    match r.lintFile file with
    | (calls, .error e) => (calls, .error e)
    | (calls, .ok found) =>
      let (more, result) := r.lintFiles rest
      (calls ++ more, result.map (found ++ ·))

/-- Without files or without linters there is nothing to run. -/
def refusal? (r : Runner) (files : List Path) : Option RunError :=
  if files.isEmpty then some .noFiles
  else if r.linters.isEmpty then some .noLinters
  else none

def report (r : Runner) (files : List Path) (lints : List Lint) : Report :=
  ⟨lints, files.length, r.linters.length⟩

/-- Runs every active linter on every file, in order, and tells the calls that were made. -/
def runTraced (r : Runner) (files : List Path) : Traced Report :=
  match r.refusal? files with
  | some e => ([], .error e)
  | none =>
    let (calls, result) := r.lintFiles files
    (calls, result.map (r.report files))

def run (r : Runner) (files : List Path) : Except RunError Report := (r.runTraced files).2

/-- How the runner shows in a dump. -/
def debug (r : Runner) (engine : String) : String :=
  "Runner \x7b linters: [" ++ ", ".intercalate (r.names.map LinterName.debug) ++
    "], engine: " ++ engine ++ " \x7d"

end Runner

end Linting
