/-! Sets of code points, held as ascending ranges that neither overlap nor touch. -/

namespace Linting.Unicode

/-- A set of code points. A pair in `ranges` gives the first and the last member of a run. -/
structure CodeSet where
  ranges : Array (Nat × Nat)
  deriving DecidableEq, Repr, Inhabited

namespace CodeSet

/-- The greatest code point. -/
def last : Nat := 0x10FFFF

def empty : CodeSet := ⟨#[]⟩

/-- Joins runs that overlap or touch; expects them in order of their first members. -/
def joinRuns : List (Nat × Nat) → List (Nat × Nat)
  | (a, b) :: (c, d) :: rest =>
    if c ≤ b + 1 then joinRuns ((a, max b d) :: rest) else (a, b) :: joinRuns ((c, d) :: rest)
  | runs => runs
termination_by runs => runs.length

def ofRuns (runs : List (Nat × Nat)) : CodeSet :=
  ⟨(joinRuns (runs.mergeSort fun x y => x.1 ≤ y.1)).toArray⟩

def singleton (c : Nat) : CodeSet := ⟨#[(c, c)]⟩

def isEmpty (s : CodeSet) : Bool := s.ranges.isEmpty

/-- Whether a run of `ranges[lo:hi]` holds `c`. -/
def searchRuns (ranges : Array (Nat × Nat)) (c lo hi : Nat) : Bool :=
  if lo < hi then
    match ranges[(lo + hi) / 2]? with
    | none => false
    | some (first, final) =>
      if c < first then searchRuns ranges c lo ((lo + hi) / 2)
      else if final < c then searchRuns ranges c ((lo + hi) / 2 + 1) hi
      else true
  else false
termination_by hi - lo

def contains (s : CodeSet) (c : Nat) : Bool := searchRuns s.ranges c 0 s.ranges.size

def union (s t : CodeSet) : CodeSet := ofRuns (s.ranges.toList ++ t.ranges.toList)

/-- The runs between those given, from `next` to `top`. -/
def gaps (next top : Nat) : List (Nat × Nat) → List (Nat × Nat)
  | [] => if next ≤ top then [(next, top)] else []
  | (a, b) :: rest =>
    if next < a then (next, a - 1) :: gaps (b + 1) top rest else gaps (b + 1) top rest

/-- All of `0..top` that is not in the set. -/
def complWithin (top : Nat) (s : CodeSet) : CodeSet := ⟨(gaps 0 top s.ranges.toList).toArray⟩

def compl (s : CodeSet) : CodeSet := s.complWithin last

def inter (s t : CodeSet) : CodeSet := (s.compl.union t.compl).compl

def diff (s t : CodeSet) : CodeSet := s.inter t.compl

def symmDiff (s t : CodeSet) : CodeSet := (s.diff t).union (t.diff s)

/-- Whether every member is below `0x80`. -/
def isAscii (s : CodeSet) : Bool := s.ranges.all fun r => r.2 < 0x80

/-- Whether some member lies between `a` and `b`. -/
def meets (s : CodeSet) (a b : Nat) : Bool := s.ranges.any fun r => r.1 ≤ b && a ≤ r.2

def hexValue? (c : Char) : Option Nat :=
  if '0' ≤ c ∧ c ≤ '9' then some (c.toNat - '0'.toNat)
  else if 'a' ≤ c ∧ c ≤ 'f' then some (c.toNat - 'a'.toNat + 10)
  else none

/-- Reads runs such as `41-5a 5f`; `lo` is the part before a hyphen, `cur` the digits so far. -/
def scanRuns : List Char → Option Nat → Option Nat → Array (Nat × Nat) → Array (Nat × Nat)
  | [], lo, cur, runs => emit lo cur runs
  | c :: rest, lo, cur, runs =>
    match hexValue? c with
    | some d => scanRuns rest lo (some (cur.getD 0 * 16 + d)) runs
    | none =>
      if c = '-' then scanRuns rest cur none runs
      else scanRuns rest none none (emit lo cur runs)
where
  emit (lo cur : Option Nat) (runs : Array (Nat × Nat)) : Array (Nat × Nat) :=
    match lo, cur with
    | some a, some b => runs.push (a, b)
    | none, some b => runs.push (b, b)
    | _, none => runs

/-- The set that a table row spells out in ascending hexadecimal ranges. -/
def ofText (text : String) : CodeSet := ⟨scanRuns text.toList none none #[]⟩

end CodeSet

end Linting.Unicode
