import Linting.Json.Value
import Linting.LinterName
import Linting.Location
import Linting.Severity
import Linting.Toml.Value

/-! Reading records out of values of a data format. A record is written as a table, whose keys are
read in the order in which they stand, or as an array of its fields. -/

namespace Linting

/-- What was found in the place of something else. -/
inductive Found
  | integer (n : Int)
  | float (text : String)
  | boolean (b : Bool)
  | string (s : String)
  | null
  | sequence
  | map
  deriving DecidableEq, Repr

def Found.text : Found → String
  | integer n => s!"integer `{n}`"
  | float text => s!"floating point `{text}`"
  | boolean b => s!"boolean `{b}`"
  | string s => s!"string {Text.quoted s}"
  | null => "null"
  | sequence => "sequence"
  | map => "map"

/-- Why a value does not have the shape asked for. -/
inductive ShapeError
  | wrongType (found : Found) (expected : String)
  | wrongValue (found : Found) (expected : String)
  | wrongLength (length : Nat) (expected : String)
  | missingField (name : String)
  | unknownSeverity (name : String)
  | invalidName (text : String)
  | severityShape
  | severityWithoutKey
  | severityWithKeys
  | severityNotTable (kind : String)
  | severityNotEmpty
  deriving DecidableEq, Repr

def ShapeError.message : ShapeError → String
  | wrongType found expected => s!"invalid type: {found.text}, expected {expected}"
  | wrongValue found expected => s!"invalid value: {found.text}, expected {expected}"
  | wrongLength length expected => s!"invalid length {length}, expected {expected}"
  | missingField name => s!"missing field `{name}`"
  | unknownSeverity name => s!"unknown variant `{name}`, expected `warning` or `error`"
  | invalidName text => LinterName.invalidMessage text
  | severityShape => "wanted string or table"
  | severityWithoutKey => "wanted exactly 1 element, found 0 elements"
  | severityWithKeys => "wanted exactly 1 element, more than 1 element"
  | severityNotTable kind => s!"expected table, found {kind}"
  | severityNotEmpty => "expected empty table"

/-- A value as the reader of a record sees it. -/
inductive View (α : Type)
  | scalar (found : Found)
  | elements (items : List α)
  | fields (entries : List (String × α))

def View.found {α : Type} : View α → Found
  | scalar found => found
  | elements _ => .sequence
  | fields _ => .map

/-- A data format: how to look at its values, how it writes a severity, and whether it refuses an
array with more elements than the record has fields. -/
structure Format (α : Type) where
  view : α → View α
  severity : α → Except ShapeError Severity
  refusesSurplus : Bool

namespace Format

variable {α ρ : Type}

def wrongType (f : Format α) (v : α) (expected : String) : ShapeError :=
  .wrongType (f.view v).found expected

def string (f : Format α) (v : α) : Except ShapeError String :=
  match f.view v with
  | .scalar (.string s) => .ok s
  | _ => .error (f.wrongType v "a string")

def name (f : Format α) (v : α) : Except ShapeError LinterName := do
  let s ← f.string v
  match LinterName.ofString? s with
  | some name => .ok name
  | none => .error (.invalidName s)

/-- A natural number up to a limit. -/
def natural (f : Format α) (limit : Nat) (kind : String) (v : α) : Except ShapeError Nat :=
  match f.view v with
  | .scalar (.integer n) =>
    if 0 ≤ n ∧ n ≤ limit then .ok n.toNat else .error (.wrongValue (.integer n) kind)
  | _ => .error (f.wrongType v kind)

def list (f : Format α) (item : α → Except ShapeError ρ) (v : α) : Except ShapeError (List ρ) :=
  match f.view v with
  | .elements items => items.mapM item
  | _ => .error (f.wrongType v "a sequence")

/-- What may be left out, also by writing null. -/
def optional (f : Format α) (item : α → Except ShapeError ρ) (v : α) :
    Except ShapeError (Option ρ) :=
  match f.view v with
  | .scalar .null => .ok none
  | _ => (item v).map some

/-- How a record is read: its kind, the names of its fields in order, what a field's value does to
the part read so far, and the first field without which the record is not complete. Other keys are
passed over. -/
structure Record (α ρ : Type) where
  kind : String
  names : List String
  blank : ρ
  read : String → α → ρ → Except ShapeError ρ
  missing? : ρ → Option String

def readEntries (r : Record α ρ) (entries : List (String × α)) : Except ShapeError ρ :=
  entries.foldlM (fun part entry => r.read entry.1 entry.2 part) r.blank

/-- Reads a record. -/
def record (f : Format α) (r : Record α ρ) (v : α) : Except ShapeError ρ :=
  match f.view v with
  | .scalar found => .error (.wrongType found s!"struct {r.kind}")
  | .fields entries => do
    let part ← readEntries r entries
    match r.missing? part with
    | some name => .error (.missingField name)
    | none => .ok part
  | .elements items => do
    let part ← readEntries r (r.names.zip items)
    if (r.missing? part).isSome then
      .error (.wrongLength items.length s!"struct {r.kind} with {r.names.length} elements")
    else if f.refusesSurplus ∧ r.names.length < items.length then
      .error (.wrongLength items.length "fewer elements in array")
    else .ok part

end Format

def severityOfName (s : String) : Except ShapeError Severity :=
  match Severity.ofName? s with
  | some severity => .ok severity
  | none => .error (.unknownSeverity s)

namespace Json

def view : Json → View Json
  | null => .scalar .null
  | boolean b => .scalar (.boolean b)
  | integer n => .scalar (.integer n)
  | float text => .scalar (.float text)
  | string s => .scalar (.string s)
  | array items => .elements items
  | object fields => .fields fields

/-- A severity is its name, or an object with its name as the only key and null behind it. -/
def severity (j : Json) : Except ShapeError Severity :=
  match j with
  | string s => severityOfName s
  | object [(name, value)] => do
    let severity ← severityOfName name
    match value with
    | null => .ok severity
    | value => .error (.wrongType value.view.found "unit")
  | object _ => .error (.wrongValue .map "map with a single key")
  | j => .error (.wrongType j.view.found "string or map")

def format : Format Json := ⟨view, severity, true⟩

end Json

namespace Toml.Value

def view : Value → View Value
  | string s => .scalar (.string s)
  | integer n => .scalar (.integer n)
  | float text => .scalar (.float text)
  | boolean b => .scalar (.boolean b)
  | datetime => .fields []
  | array _ items => .elements items
  | table entries => .fields entries

/-- A severity is its name, or a table with its name as the only key and an empty table behind
it. -/
def severity (v : Value) : Except ShapeError Severity :=
  match v with
  | string s => severityOfName s
  | table [] => .error .severityWithoutKey
  | table [(name, value)] => do
    let severity ← severityOfName name
    match value with
    | table [] => .ok severity
    | table _ => .error .severityNotEmpty
    | value => .error (.severityNotTable value.kind)
  | table _ => .error .severityWithKeys
  | _ => .error .severityShape

def format : Format Value := ⟨view, severity, false⟩

end Toml.Value

end Linting
