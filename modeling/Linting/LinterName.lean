import Linting.Unicode.Character
import Linting.Text.Quoted

/-! Names of linters: not empty, and made of letters and numerals of any script, hyphens and
underscores. Names differ when their case differs. -/

namespace Linting

def isNameChar (c : Char) : Bool := Unicode.isAlphanumeric c || c = '-' || c = '_'

def isLinterName (s : String) : Bool := !s.toList.isEmpty && s.toList.all isNameChar

/-- A name that follows the rule. -/
structure LinterName where
  text : String
  valid : isLinterName text = true
  deriving DecidableEq

namespace LinterName

def ofString? (s : String) : Option LinterName :=
  if h : isLinterName s = true then some ⟨s, h⟩ else none

/-- What is said of a text that is no name. -/
def invalidMessage (s : String) : String := s!"Invalid linter name '{s}'"

/-- Names are listed in the order of their code points. -/
def le (a b : LinterName) : Bool := a.text ≤ b.text

/-- How a name shows in a dump. -/
def debug (name : LinterName) : String := s!"LinterName({Text.quoted name.text})"

theorem ext {a b : LinterName} (h : a.text = b.text) : a = b := by
  cases a; cases b; cases h; rfl

theorem ofString?_text (name : LinterName) : ofString? name.text = some name := by
  simp [ofString?, name.valid]

theorem ofString?_eq_some_iff {s : String} {name : LinterName} :
    ofString? s = some name ↔ name.text = s := by
  constructor
  · intro h
    unfold ofString? at h
    split at h
    · simp only [Option.some.injEq] at h
      exact h ▸ rfl
    · simp at h
  · rintro rfl
    exact ofString?_text name

theorem ofString?_eq_none_iff {s : String} : ofString? s = none ↔ isLinterName s = false := by
  unfold ofString?
  split <;> simp_all

end LinterName

end Linting
