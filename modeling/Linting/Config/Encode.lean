import Linting.Config
import Linting.Toml.Value

/-! Writing a configuration as a value. Lists that are not set are left out, as are a missing
message and an empty list of patterns. -/

namespace Linting

open Toml (Value)

def stringValues (texts : List String) : Value := .array false (texts.map .string)

def nameValues (names : List LinterName) : Value := stringValues (names.map LinterName.text)

/-- An entry that is left out when there is nothing to write. -/
def optionalEntry (key : String) (value : Option Value) : List (String × Value) :=
  (value.map fun v => (key, v)).toList

def FileSection.toValue (s : FileSection) : Value :=
  .table [("version", .string s.version), ("include", stringValues s.included),
    ("exclude", stringValues s.excluded)]

def LinterSection.toValue (s : LinterSection) : Value :=
  .table (optionalEntry "include" (s.included.map nameValues) ++
    optionalEntry "exclude" (s.excluded.map nameValues) ++
    [("max_line_length", .integer s.maxLineLength)])

def PatternDefinition.toValue (p : PatternDefinition) : Value :=
  .table ([("name", .string p.name.text), ("pattern", .string p.pattern)] ++
    optionalEntry "message" (p.message.map .string) ++
    [("severity", .string p.severity.name)])

def Config.toValue (c : Config) : Value :=
  .table ([("lintel", c.files.toValue), ("linters", c.linters.toValue)] ++
    (if c.patterns.isEmpty then []
      else [("pattern", .array true (c.patterns.map PatternDefinition.toValue))]))

end Linting
