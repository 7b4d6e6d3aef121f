import Linting.Linter.Builtin
import Linting.Regex

/-! Linters that report every match of a regular expression. -/

namespace Linting

/-- A linter as the configuration defines it. -/
structure PatternDefinition where
  name : LinterName
  pattern : String
  message : Option String
  severity : Severity
  deriving DecidableEq

namespace PatternDefinition

/-- What is reported when the definition has no message. -/
def defaultMessage (pattern : String) : String := s!"Matches forbidden pattern `{pattern}`"

def lintMessage (p : PatternDefinition) : String := p.message.getD (defaultMessage p.pattern)

def description (p : PatternDefinition) : String := s!"Reports matches of `{p.pattern}`"

end PatternDefinition

/-- A linter for a pattern that compiled. -/
structure PatternLinter where
  name : LinterName
  regex : Regex
  message : String
  severity : Severity

namespace PatternLinter

/-- Reports each match, from left to right. -/
def run (p : PatternLinter) : Linter := fun d =>
  Builtin.lintSpans d p.name p.severity p.message
    ((p.regex.program.findAll d.contents).map fun m => (m.offset, m.byteLength))

/-- How the linter shows in a dump. -/
def debug (p : PatternLinter) : String :=
  let severity := match p.severity with
    | .warning => "Warning"
    | .error => "Error"
  "PatternLinter \x7b name: " ++ p.name.debug ++ ", pattern: " ++ Text.quoted p.regex.pattern ++
    ", message: " ++ Text.quoted p.message ++ ", severity: " ++ severity ++ " \x7d"

end PatternLinter

end Linting
