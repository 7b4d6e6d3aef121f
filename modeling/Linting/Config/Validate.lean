import Linting.Config
import Linting.Glob
import Linting.Toml.Reader

/-! Checking a configuration, and reading it from text. -/

namespace Linting

/-- What is wrong with the values of a configuration. -/
inductive ConfigFault
  | version (found : String)
  | includeGlob (pattern : String) (error : Glob.Error)
  | excludeGlob (pattern : String) (error : Glob.Error)
  | zeroLineLength
  | hugeLineLength
  | duplicatePattern (name : LinterName)
  | regex (name : LinterName) (error : Regex.Error)
  | linterName (text : String)
  deriving DecidableEq

def ConfigFault.message : ConfigFault → String
  | version found => s!"Unsupported configuration version '{found}'. Expected '1'"
  | includeGlob pattern e =>
    s!"Invalid include glob pattern '{pattern}': {Glob.errorMessage pattern e}"
  | excludeGlob pattern e =>
    s!"Invalid exclude glob pattern '{pattern}': {Glob.errorMessage pattern e}"
  | zeroLineLength => "max_line_length must be greater than 0"
  | hugeLineLength => s!"max_line_length must be at most {Builtin.maxWord32}"
  | duplicatePattern name => s!"Pattern linter '{name.text}' is defined more than once"
  | regex name e => s!"Invalid regex for pattern linter '{name.text}': {e.message}"
  | linterName text => LinterName.invalidMessage text

/-- Why a configuration cannot be had. A text that is no TOML has no message of this program. -/
inductive ConfigError
  | io (cause : String)
  | malformed
  | shape (error : ShapeError)
  | invalid (fault : ConfigFault)
  deriving DecidableEq

/-- Where a document breaks the grammar is not told. -/
def ConfigError.message : ConfigError → String
  | io cause => s!"I/O error: {cause}"
  | malformed => "Parse error: TOML parse error at an unknown place\n"
  | shape e => s!"Parse error: TOML parse error at an unknown place\n{e.message}\n"
  | invalid fault => s!"Invalid configuration: {fault.message}"

namespace Config

/-- The first pattern that cannot be read. -/
def badGlob? : List String → Option (String × Glob.Error)
  | [] => none
  | pattern :: rest =>
    match Glob.compile pattern .filter with
    | .error e => some (pattern, e)
    | .ok _ => badGlob? rest

/-- The first fault among patterns; `seen` are the names before them. -/
def patternFault? (seen : List LinterName) : List PatternDefinition → Option ConfigFault
  | [] => none
  | p :: rest =>
    if seen.contains p.name then some (.duplicatePattern p.name)
    else
      match Regex.compile p.pattern with
      | .error e => some (.regex p.name e)
      | .ok _ => patternFault? (p.name :: seen) rest

/-- The first fault of a configuration. -/
def fault? (c : Config) : Option ConfigFault :=
  if c.files.version != "1" then some (.version c.files.version)
  else
    match badGlob? c.files.included with
    | some (pattern, e) => some (.includeGlob pattern e)
    | none =>
      match badGlob? c.files.excluded with
      | some (pattern, e) => some (.excludeGlob pattern e)
      | none =>
        if c.linters.maxLineLength = 0 then some .zeroLineLength
        else if Builtin.maxWord32 < c.linters.maxLineLength then some .hugeLineLength
        else patternFault? [] c.patterns

def validate (c : Config) : Except ConfigError Config :=
  match c.fault? with
  | some fault => .error (.invalid fault)
  | none => .ok c

/-- Reads a configuration from the entries of a document, without checking it. -/
def ofValue (v : Toml.Value) : Except ShapeError Config :=
  Toml.Value.format.record (configRecord Toml.Value.format) v

/-- Reads and checks a configuration. -/
def parse (text : String) : Except ConfigError Config :=
  match Toml.readDocument text with
  | none => .error .malformed
  | some entries =>
    match ofValue (.table entries) with
    | .error e => .error (.shape e)
    | .ok c => c.validate

end Config

end Linting
