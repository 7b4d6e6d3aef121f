import Linting.Document
import Linting.LinterName
import Linting.Severity

/-! Linters: functions from a document to the lints they find, which may fail on the way. -/

namespace Linting

/-- A problem found in a file. -/
structure Lint where
  linter : LinterName
  file : Path
  location : Location
  severity : Severity
  message : String
  deriving DecidableEq

/-- The calls that led to a failure, the outermost last. Frames are `captured` when they were
recorded while the program ran, and otherwise handed over with the failure. -/
structure Backtrace where
  frames : List String
  captured : Bool
  deriving DecidableEq, Repr

/-- Why a linter could not finish. -/
structure Failure where
  message : String
  backtrace : Backtrace
  deriving DecidableEq, Repr

namespace Failure

/-- A failure that records where it arose. -/
def capture (message : String) (site : String) : Failure := ⟨message, ⟨[site], true⟩⟩

def withFrames (message : String) (frames : List String) : Failure := ⟨message, ⟨frames, false⟩⟩

/-- A failure that tells an error and, behind colons, what caused it. -/
def ofChain (first : String) (causes : List String) (site : String) : Failure :=
  capture (causes.foldl (fun text cause => text ++ ": " ++ cause) first) site

end Failure

/-- What a linter panicked with; only text can be told. -/
inductive Payload
  | text (message : String)
  | other
  deriving DecidableEq, Repr

def Payload.message : Payload → String
  | text message => message
  | other => "unknown panic payload"

/-- How a linter's call ends. A panic names its site. -/
inductive Outcome
  | reported (lints : List Lint)
  | failed (failure : Failure)
  | panicked (payload : Payload) (site : String)
  deriving DecidableEq

/-- A linter runs on one document at a time. -/
abbrev Linter := Document → Outcome

/-- A lint for a document. -/
def Document.lint (d : Document) (linter : LinterName) (location : Location)
    (severity : Severity) (message : String) : Lint :=
  ⟨linter, d.path, location, severity, message⟩

end Linting
