import Linting.Config
import Linting.Files.FileSystem
import Linting.Log

/-! Writing a first configuration. -/

namespace Linting

inductive InitError
  | io (error : IoError)
  | notDirectory (dir : Path)
  | directoryInPlace (path : Path)
  deriving DecidableEq, Repr

def InitError.message : InitError → String
  | io e => s!"I/O error: {e.message}"
  | notDirectory dir => s!"Path error: Path '{dir.display}' is not a directory"
  | directoryInPlace path => s!"Path error: Path '{path.display}' exists but is a directory"

inductive InitOutcome
  | created
  | skipped
  | overwritten
  deriving DecidableEq, Repr

namespace InitOutcome

def name : InitOutcome → String
  | created => "Created"
  | skipped => "Skipped"
  | overwritten => "Overwritten"

def message : InitOutcome → String
  | created => "Created lintel.toml.\n"
  | skipped => "lintel.toml already exists. Use --force to overwrite it.\n"
  | overwritten => "Overwrote lintel.toml.\n"

end InitOutcome

namespace Init

def lines : List String := [
  "[lintel]",
  "version = \"1\"",
  "",
  "# Files linted when a directory is given",
  "include = [\"**/*.scss\"]",
  "",
  "# Files never linted",
  "# exclude = [\"**/vendor/**\"]",
  "",
  "[linters]",
  "# Only run these linters (all registered linters run when unset)",
  "# include = [\"TrailingWhitespace\", \"FinalNewline\", \"LineLength\", \"ImportantRule\"]",
  "",
  "# Never run these linters",
  "# exclude = [\"ImportantRule\"]",
  "",
  "# Maximum line length for LineLength",
  "max_line_length = 80",
  "",
  "# Regex linters: every match is reported",
  "# [[pattern]]",
  "# name = \"NoDebugDirective\"",
  "# pattern = \"@debug\"",
  "# message = \"Remove @debug before committing\"",
  "# severity = \"error\""]

/-- The first configuration. -/
def contents : String := String.join (lines.map (· ++ "\n"))

/-- What a run leaves behind: the files, the log, and what came of it. -/
structure Result where
  fs : FileSystem
  events : List LogEvent
  outcome : Except InitError InitOutcome

/-- Writes the first configuration into a directory. A file that is there already is left alone
unless `force`. -/
def run (fs : FileSystem) (dir : Path) (force : Bool) : Result :=
  let path := dir.join (Path.ofString Config.fileName)
  if !fs.isDir dir then ⟨fs, [], .error (.notDirectory dir)⟩
  else if fs.isDir path then ⟨fs, [], .error (.directoryInPlace path)⟩
  else if fs.contains path && !force then ⟨fs, [], .ok .skipped⟩
  else
    let outcome := if fs.contains path then InitOutcome.overwritten else .created
    match fs.write path (Text.encode contents.toList) with
    | .error e => ⟨fs, [], .error (.io e)⟩
    | .ok after => ⟨after, [.wroteConfig path outcome.name], .ok outcome⟩

end Init

end Linting
