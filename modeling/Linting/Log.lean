import Linting.Files.Filter
import Linting.LinterName

/-! What the program logs while it works. -/

namespace Linting

inductive LogLevel
  | trace
  | debug
  | info
  | warn
  | error
  deriving DecidableEq, Repr

def LogLevel.name : LogLevel → String
  | trace => "TRACE"
  | debug => "DEBUG"
  | info => "INFO"
  | warn => "WARN"
  | error => "ERROR"

def LogLevel.rank : LogLevel → Nat
  | trace => 0
  | debug => 1
  | info => 2
  | warn => 3
  | error => 4

/-- Something worth logging. -/
inductive LogEvent
  | defaultsUsed (path : Path)
  | loadingConfig (path : Path)
  | registryBuilt (linters : Nat)
  | unknownLinter (name : String)
  | skipped (file : Path) (reason : SkipReason)
  | explicitExcluded (file : Path)
  | discovered (count : Nat)
  | checking (files linters : Nat) (parallel : Bool)
  | readingSource (file : Path)
  | wroteConfig (path : Path) (outcome : String)
  deriving DecidableEq, Repr

namespace LogEvent

def level : LogEvent → LogLevel
  | skipped _ _ | readingSource _ => .trace
  | checking _ _ _ => .info
  | unknownLinter _ => .warn
  | _ => .debug

/-- The part of the program that logs the event; log filters go by it. -/
def target : LogEvent → String
  | defaultsUsed _ | loadingConfig _ => "lintel::config::lintel_toml"
  | registryBuilt _ => "lintel::linters::registry"
  | unknownLinter _ | checking _ _ _ => "lintel::cli::check"
  | skipped _ _ | explicitExcluded _ | discovered _ => "lintel::engine::file_walker"
  | readingSource _ => "lintel::engine::source"
  | wroteConfig _ _ => "lintel::cli::init"

def text : LogEvent → String
  | defaultsUsed path => s!"no configuration file, using defaults path={path.display}"
  | loadingConfig path => s!"loading configuration path={path.display}"
  | registryBuilt linters => s!"built linter registry linters={linters}"
  | unknownLinter name => s!"no linter with this name is registered linter={name}"
  | skipped file reason => s!"skipped file={file.display} reason={reason.name}"
  | explicitExcluded file => s!"explicit file is excluded file={file.display}"
  | discovered count => s!"discovered files count={count}"
  | checking files linters parallel =>
    s!"checking files={files} linters={linters} parallel={parallel}"
  | readingSource file => s!"reading source file={file.display}"
  | wroteConfig path outcome => s!"wrote configuration path={path.display} outcome={outcome}"

/-- The line that is written to the log, after the time. -/
def line (e : LogEvent) : String := s!"{e.level.name} {e.text}\n"

end LogEvent

/-- What came of a computation, and the events on the way. The first error ends it. -/
structure Logged (ε α : Type) where
  events : List LogEvent
  result : Except ε α

namespace Logged

variable {ε δ α β : Type}

def ofExcept (result : Except ε α) : Logged ε α := ⟨[], result⟩

def log (events : List LogEvent) : Logged ε Unit := ⟨events, .ok ()⟩

def andThen (x : Logged ε α) (next : α → Logged ε β) : Logged ε β :=
  match x.result with
  | .error e => ⟨x.events, .error e⟩
  | .ok a => ⟨x.events ++ (next a).events, (next a).result⟩

def mapError (f : ε → δ) (x : Logged ε α) : Logged δ α := ⟨x.events, x.result.mapError f⟩

instance : Monad (Logged ε) where
  pure a := ⟨[], .ok a⟩
  bind := andThen

end Logged

end Linting
