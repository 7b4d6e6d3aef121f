import Linting.Text.Utf8

/-! Paths: bytes between slashes. Two paths are the same place by spelling when their components
agree; empty components, and `.` anywhere but first, do not count. -/

namespace Linting

structure Path where
  bytes : List UInt8
  deriving DecidableEq, Repr, Inhabited

/-- A part of a path. -/
inductive Component
  | root
  | current
  | parent
  | normal (name : List UInt8)
  deriving DecidableEq, Repr

/-- Compares bytes from left to right. -/
def compareBytes : List UInt8 → List UInt8 → Ordering
  | [], [] => .eq
  | [], _ :: _ => .lt
  | _ :: _, [] => .gt
  | a :: as, b :: bs => (compare a b).then (compareBytes as bs)

namespace Component

/-- The root comes first, then `.`, then `..`, then names in the order of their bytes. -/
def rank : Component → Nat
  | root => 0
  | current => 1
  | parent => 2
  | normal _ => 3

def cmp : Component → Component → Ordering
  | normal a, normal b => compareBytes a b
  | a, b => compare a.rank b.rank

/-- Compares component by component. -/
def cmpAll : List Component → List Component → Ordering
  | [], [] => .eq
  | [], _ :: _ => .lt
  | _ :: _, [] => .gt
  | a :: as, b :: bs => (a.cmp b).then (cmpAll as bs)

def bytes : Component → List UInt8
  | root => [0x2F]
  | current => [0x2E]
  | parent => [0x2E, 0x2E]
  | normal name => name

end Component

namespace Path

def slash : UInt8 := 0x2F

def dot : UInt8 := 0x2E

def ofString (s : String) : Path := ⟨Text.encode s.toList⟩

/-- The path as text, with a replacement character for whatever is not UTF-8. -/
def display (p : Path) : String := String.ofList (Text.decodeLossy p.bytes)

/-- The path as text, if it is UTF-8. -/
def toText? (p : Path) : Option String := (Text.decode? p.bytes).map String.ofList

def isAbsolute (p : Path) : Bool := p.bytes.head? = some slash

/-- The pieces between slashes, empty ones included. -/
def pieces : List UInt8 → List (List UInt8)
  | [] => [[]]
  | b :: rest =>
    if b = slash then [] :: pieces rest
    else
      match pieces rest with
      | piece :: more => (b :: piece) :: more
      | [] => [[b]]

/-- What a piece stands for, unless it is empty or `.`. -/
def component? (piece : List UInt8) : Option Component :=
  if piece = [] ∨ piece = [dot] then none
  else if piece = [dot, dot] then some .parent
  else some (.normal piece)

def components (p : Path) : List Component :=
  let body := (pieces p.bytes).filterMap component?
  if p.isAbsolute then .root :: body
  else if (pieces p.bytes).head? = some [dot] then .current :: body
  else body

/-- Whether two paths have the same components. -/
def same (p q : Path) : Bool := p.components = q.components

def cmp (p q : Path) : Ordering := Component.cmpAll p.components q.components

/-- Appends a relative path behind a slash; an absolute one takes the place of `p`. -/
def join (p q : Path) : Path :=
  if q.isAbsolute then q
  else if p.bytes.isEmpty || p.bytes.getLast? = some slash then ⟨p.bytes ++ q.bytes⟩
  else ⟨p.bytes ++ slash :: q.bytes⟩

/-- Puts components together. -/
def ofComponents (cs : List Component) : Path :=
  cs.foldl (fun p c => p.join ⟨c.bytes⟩) ⟨[]⟩

/-- Drops `.` and empty pieces from the front. -/
def trimFront : List (List UInt8) → List (List UInt8)
  | piece :: rest => if (component? piece).isNone then trimFront rest else piece :: rest
  | [] => []

/-- Drops the pieces up to and including the `n`-th that counts. -/
def dropPieces : Nat → List (List UInt8) → List (List UInt8)
  | 0, pieces => pieces
  | _, [] => []
  | n + 1, piece :: rest =>
    if (component? piece).isNone then dropPieces (n + 1) rest else dropPieces n rest

def joinPieces : List (List UInt8) → List UInt8
  | [] => []
  | [piece] => piece
  | piece :: rest => piece ++ slash :: joinPieces rest

/-- What is left of `p` behind `base`, spelled as in `p`; `none` when `p` does not start with the
components of `base`. -/
def stripPrefix? (p base : Path) : Option Path :=
  if base.components = [] then some p
  else if base.components.isPrefixOf p.components then
    let named := base.components.filter fun c => c != .root && c != .current
    let rest := trimFront (dropPieces named.length (pieces p.bytes))
    some ⟨joinPieces (trimFront rest.reverse).reverse⟩
  else none

end Path

end Linting
