import Linting.Linter.Pattern

/-! The registry: every linter the program knows, in the order in which linters were registered
and will run. -/

namespace Linting

inductive RegistryError
  | duplicate (name : LinterName)
  | invalidName (name : String)
  | invalidPattern (name : LinterName) (error : Regex.Error)
  deriving DecidableEq

def RegistryError.message : RegistryError → String
  | duplicate name => s!"Linter '{name.text}' is already registered"
  | invalidName name => s!"Invalid linter name: '{name}'"
  | invalidPattern name error => s!"Invalid pattern for linter '{name.text}': {error.message}"

/-- A registered linter: what it is called, what it does, and how to make one. -/
structure Descriptor where
  name : LinterName
  description : String
  make : LinterName → Linter

namespace Descriptor

/-- A new instance, made under the registered name. -/
def instantiate (d : Descriptor) : Linter := d.make d.name

/-- How the descriptor shows in a dump. -/
def debug (d : Descriptor) : String :=
  "LinterDescriptor \x7b name: " ++ d.name.debug ++ ", description: " ++
    Text.quoted d.description ++ ", factory: \"<fn>\" \x7d"

end Descriptor

structure Registry where
  descriptors : List Descriptor

namespace Registry

def empty : Registry := ⟨[]⟩

def names (r : Registry) : List LinterName := r.descriptors.map Descriptor.name

def get? (r : Registry) (name : LinterName) : Option Descriptor :=
  r.descriptors.find? fun d => d.name = name

/-- Adds a linter at the end, unless its name is invalid or taken. -/
def register (r : Registry) (name description : String) (make : LinterName → Linter) :
    Except RegistryError Registry :=
  match LinterName.ofString? name with
  | none => .error (.invalidName name)
  | some n =>
    if (r.get? n).isSome then .error (.duplicate n)
    else .ok ⟨r.descriptors ++ [⟨n, description, make⟩]⟩

/-- Adds linters one by one up to the first that cannot be added, whose error is returned. -/
def registerAll {α : Type} (add : Registry → α → Except RegistryError Registry) (r : Registry) :
    List α → Registry × Option RegistryError
  | [] => (r, none)
  | a :: rest =>
    match add r a with
    | .ok r => registerAll add r rest
    | .error e => (r, some e)

def registerEntry (r : Registry) (entry : Builtin.Entry) : Except RegistryError Registry :=
  r.register entry.name entry.description entry.make

/-- A pattern that does not compile is refused before its name is looked at. -/
def registerPattern (r : Registry) (p : PatternDefinition) : Except RegistryError Registry :=
  match Regex.compile p.pattern with
  | .error e => .error (.invalidPattern p.name e)
  | .ok regex =>
    r.register p.name.text p.description fun name =>
      (PatternLinter.mk name regex p.lintMessage p.severity).run

def registerBuiltins (r : Registry) (maxLineLength : Nat) : Registry × Option RegistryError :=
  registerAll registerEntry r (Builtin.entries maxLineLength)

def registerPatterns (r : Registry) (patterns : List PatternDefinition) :
    Registry × Option RegistryError :=
  registerAll registerPattern r patterns

/-- The builtin linters with default settings. -/
def withBuiltins : Registry := (empty.registerBuiltins Builtin.defaultMaxLineLength).1

/-- The builtin linters and then the patterns. -/
def build (maxLineLength : Nat) (patterns : List PatternDefinition) :
    Except RegistryError Registry :=
  match empty.registerBuiltins maxLineLength with
  | (_, some e) => .error e
  | (r, none) =>
    match r.registerPatterns patterns with
    | (_, some e) => .error e
    | (r, none) => .ok r

end Registry

end Linting
