import Linting.LinterName

/-! Which linters a run uses. -/

namespace Linting

/-- When `included` is given and not empty, only those linters run; `excluded` always wins. -/
structure Selection where
  included : Option (List LinterName)
  excluded : Option (List LinterName)
  deriving DecidableEq

namespace Selection

/-- Selects every linter. -/
def all : Selection := ⟨none, none⟩

def includeOnly (s : Selection) (names : List LinterName) : Selection :=
  { s with included := some names }

def exclude (s : Selection) (names : List LinterName) : Selection :=
  { s with excluded := some names }

def selects (s : Selection) (name : LinterName) : Bool :=
  let included := match s.included with
    | some (n :: names) => (n :: names).contains name
    | _ => true
  included && !(s.excluded.getD []).contains name

end Selection

/-- Names without repetitions, in order. -/
def sortedNames (names : List LinterName) : List LinterName :=
  names.eraseDups.mergeSort LinterName.le

end Linting
