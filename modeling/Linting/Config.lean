import Linting.Linter.Pattern
import Linting.Selection
import Linting.Shape

/-! The configuration: which files to lint, which linters to run and how, and the linters that the
user defines. It is read from a TOML document, whose tables may all be left out. -/

namespace Linting

/-- Which files to lint. -/
structure FileSection where
  version : String
  included : List String
  excluded : List String
  deriving DecidableEq

def FileSection.default : FileSection := ⟨"1", ["**/*.scss"], []⟩

/-- Which linters to run and how. -/
structure LinterSection where
  included : Option (List LinterName)
  excluded : Option (List LinterName)
  maxLineLength : Nat
  deriving DecidableEq

def LinterSection.default : LinterSection := ⟨none, none, Builtin.defaultMaxLineLength⟩

structure Config where
  files : FileSection
  linters : LinterSection
  patterns : List PatternDefinition
  deriving DecidableEq

/-- The name of the file that is looked up when none is given. -/
def Config.fileName : String := "lintel.toml"

/-- Lengths of lines are read as numbers of 64 bits. -/
def maxWord64 : Nat := 0xFFFFFFFFFFFFFFFF

namespace Config

def default : Config := ⟨.default, .default, []⟩

/-- The linters that the configuration asks for. -/
def selection (c : Config) : Selection :=
  ⟨c.linters.included.map sortedNames, c.linters.excluded.map sortedNames⟩

end Config

section Reading

variable {α : Type} (f : Format α)

open Format

def fileSectionRecord : Record α FileSection where
  kind := "LintelMeta"
  names := ["version", "include", "exclude"]
  blank := .default
  read key v part :=
    match key with
    | "version" => do .ok { part with version := ← f.string v }
    | "include" => do .ok { part with included := ← f.list f.string v }
    | "exclude" => do .ok { part with excluded := ← f.list f.string v }
    | _ => .ok part
  missing? _ := none

def linterSectionRecord : Record α LinterSection where
  kind := "LintersConfig"
  names := ["include", "exclude", "max_line_length"]
  blank := .default
  read key v part :=
    match key with
    | "include" => do .ok { part with included := ← f.optional (f.list f.name) v }
    | "exclude" => do .ok { part with excluded := ← f.optional (f.list f.name) v }
    | "max_line_length" => do
      .ok { part with maxLineLength := ← f.natural maxWord64 "usize" v }
    | _ => .ok part
  missing? _ := none

/-- The fields of a definition that have been read so far. -/
structure PatternFields where
  name : Option LinterName
  pattern : Option String
  message : Option String
  severity : Severity

def patternRecord : Record α PatternFields where
  kind := "PatternDefinition"
  names := ["name", "pattern", "message", "severity"]
  blank := ⟨none, none, none, .warning⟩
  read key v part :=
    match key with
    | "name" => do .ok { part with name := some (← f.name v) }
    | "pattern" => do .ok { part with pattern := some (← f.string v) }
    | "message" => do .ok { part with message := ← f.optional f.string v }
    | "severity" => do .ok { part with severity := ← f.severity v }
    | _ => .ok part
  missing? part :=
    if part.name.isNone then some "name"
    else if part.pattern.isNone then some "pattern"
    else none

/-- Reads the definition of a linter. -/
def PatternDefinition.read (v : α) : Except ShapeError PatternDefinition := do
  match ← f.record (patternRecord f) v with
  | ⟨some name, some pattern, message, severity⟩ => .ok ⟨name, pattern, message, severity⟩
  | _ => .error (.missingField "name")

def configRecord : Record α Config where
  kind := "Config"
  names := ["lintel", "linters", "pattern"]
  blank := .default
  read key v part :=
    match key with
    | "lintel" => do .ok { part with files := ← f.record (fileSectionRecord f) v }
    | "linters" => do .ok { part with linters := ← f.record (linterSectionRecord f) v }
    | "pattern" => do .ok { part with patterns := ← f.list (PatternDefinition.read f) v }
    | _ => .ok part
  missing? _ := none

/-- The fields of a location that have been read so far. -/
structure LocationFields where
  line : Option Nat
  column : Option Nat
  length : Option Nat

def locationRecord : Record α LocationFields where
  kind := "Location"
  names := ["line", "column", "length"]
  blank := ⟨none, none, none⟩
  read key v part :=
    match key with
    | "line" => do .ok { part with line := some (← f.natural Builtin.maxWord32 "u32" v) }
    | "column" => do .ok { part with column := some (← f.natural Builtin.maxWord32 "u32" v) }
    | "length" => do .ok { part with length := some (← f.natural Builtin.maxWord32 "u32" v) }
    | _ => .ok part
  missing? part :=
    if part.line.isNone then some "line"
    else if part.column.isNone then some "column"
    else if part.length.isNone then some "length"
    else none

/-- Reads a location. -/
def Location.read (v : α) : Except ShapeError Location := do
  match ← f.record (locationRecord f) v with
  | ⟨some line, some column, some length⟩ =>
    .ok ⟨line.toUInt32, column.toUInt32, length.toUInt32⟩
  | _ => .error (.missingField "line")

end Reading

end Linting
