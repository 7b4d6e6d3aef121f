import Linting.Unicode.CodeSet
import Linting.Unicode.CaseTable

/-! Closing a set of code points under simple case folding. -/

namespace Linting.Unicode

/-- The classes of code points that a caseless match does not tell apart. -/
def caseClasses : Array (List Nat) :=
  ((caseClassText.splitOn ",").map fun row =>
    (CodeSet.ofText row).ranges.toList.map Prod.fst).toArray

/-- Whether some class holds a member of `a..b`. -/
def hasCaseVariants (a b : Nat) : Bool :=
  caseClasses.any fun members => members.any fun c => a ≤ c && c ≤ b

namespace CodeSet

/-- Adds every code point that differs from a member by case only. -/
def foldCase (s : CodeSet) : CodeSet :=
  s.union (ofRuns ((caseClasses.toList.filter fun members => members.any s.contains).flatMap
    fun members => members.map fun c => (c, c)))

/-- Adds the other case of every ASCII letter. -/
def foldAsciiCase (s : CodeSet) : CodeSet :=
  s.union (ofRuns ((List.range 26).flatMap fun i =>
    (if s.contains (0x41 + i) then [(0x61 + i, 0x61 + i)] else []) ++
      (if s.contains (0x61 + i) then [(0x41 + i, 0x41 + i)] else [])))

end CodeSet

end Linting.Unicode
