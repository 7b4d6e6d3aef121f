import Linting.Json.Writer
import Linting.Runner

/-! Reports for programs: a JSON object on each line. -/

namespace Linting

/-- One record on a line of its own. -/
def Json.line (fields : List (String × Json)) : String := (Json.object fields).render ++ "\n"

def Lint.record (l : Lint) : List (String × Json) := [
  ("type", .string "lint"),
  ("linter", .string l.linter.text),
  ("file", .string l.file.display),
  ("line", .nat l.location.line.toNat),
  ("column", .nat l.location.column.toNat),
  ("length", .nat l.location.length.toNat),
  ("severity", .string l.severity.name),
  ("message", .string l.message)]

namespace Report

def summaryRecord (r : Report) : List (String × Json) := [
  ("type", .string "summary"),
  ("passed", .boolean r.isClean),
  ("files_checked", .nat r.filesChecked),
  ("linters_run", .nat r.lintersRun),
  ("total_lints", .nat r.lints.length)]

/-- A record for each lint, in order, and one for the summary. -/
def records (r : Report) : List (List (String × Json)) :=
  r.lints.map Lint.record ++ [r.summaryRecord]

def jsonl (r : Report) : String := String.join (r.records.map Json.line)

end Report

namespace LinterError

def record (e : LinterError) : List (String × Json) := [
  ("type", .string "error"),
  ("linter", .string e.linter.text),
  ("file", .string e.file.display),
  ("message", .string e.message),
  ("backtrace", .strings e.failure.backtrace.frames)]

def jsonl (e : LinterError) : String := Json.line e.record

end LinterError

end Linting
