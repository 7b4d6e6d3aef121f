import Linting.Config
import Linting.Report.Jsonl

/-! Listing the registered linters: where each is from, and whether the selection runs it. -/

namespace Linting

inductive LinterOrigin
  | builtin
  | pattern
  deriving DecidableEq, Repr

def LinterOrigin.name : LinterOrigin → String
  | builtin => "builtin"
  | pattern => "pattern"

/-- The entry of one linter. -/
structure LinterStatus where
  name : String
  description : String
  origin : LinterOrigin
  enabled : Bool
  deriving DecidableEq, Repr

namespace LinterStatus

def human (s : LinterStatus) : String :=
  let marker := if s.enabled then "✓" else "-"
  s!"{marker} {s.name} ({s.origin.name})\n    {s.description}\n"

def record (s : LinterStatus) : List (String × Json) := [
  ("name", .string s.name),
  ("source", .string s.origin.name),
  ("description", .string s.description),
  ("enabled", .boolean s.enabled)]

end LinterStatus

namespace Listing

/-- The entries of all linters, in the order in which they run. A linter is enabled when a runner
for the selection has one of its name, and from a pattern when some pattern has its name. -/
def ofRegistry (registry : Registry) (config : Config) (selection : Selection) (engine : Engine) :
    List LinterStatus :=
  let enabled := (Runner.make registry selection engine).names
  let patterns := config.patterns.map PatternDefinition.name
  registry.descriptors.map fun d =>
    ⟨d.name.text, d.description,
      if patterns.contains d.name then .pattern else .builtin,
      enabled.contains d.name⟩

def human (statuses : List LinterStatus) : String :=
  let enabled := (statuses.filter LinterStatus.enabled).length
  s!"Linters ({enabled} of {statuses.length} enabled):\n\n" ++
    String.join (statuses.map LinterStatus.human)

def jsonl (statuses : List LinterStatus) : String :=
  String.join (statuses.map fun s => Json.line s.record)

end Listing

end Linting
