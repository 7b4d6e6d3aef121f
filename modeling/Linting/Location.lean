/-! Where a lint points. -/

namespace Linting

/-- Line and column count from one; `length` is the number of characters covered, zero for a place
between characters. -/
structure Location where
  line : UInt32
  column : UInt32
  length : UInt32
  deriving DecidableEq, Repr, Inhabited

namespace Location

/-- Locations are listed by line, then column, then length. -/
def le (a b : Location) : Bool :=
  a.line < b.line || (a.line = b.line &&
    (a.column < b.column || (a.column = b.column && a.length ≤ b.length)))

/-- The place where the lint starts. -/
def text (loc : Location) : String := s!"{loc.line}:{loc.column}"

end Location

end Linting
