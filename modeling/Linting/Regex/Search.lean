import Linting.Regex.Program
import Linting.Text.Utf8

/-! Running a program over a text. A match starts as far left as possible; among those that start
there, the program's order of preference decides. -/

namespace Linting.Regex

/-- Whether a position between `before` and `rest` is what the pattern asks for. -/
def Look.holds (before : Option Char) (rest : List Char) : Look → Bool
  | start => before.isNone
  | end_ => rest.isEmpty
  | startLine => before.isNone || before = some '\n'
  | endLine => rest.isEmpty || rest.head? = some '\n'
  | startLineCrlf =>
    before.isNone || before = some '\n' || (before = some '\r' && rest.head? != some '\n')
  | endLineCrlf =>
    rest.isEmpty || rest.head? = some '\r' || (rest.head? = some '\n' && before != some '\r')
  | word unicode => isWord unicode before != isWord unicode rest.head?
  | notWord unicode => isWord unicode before == isWord unicode rest.head?
  | wordStart unicode => !isWord unicode before && isWord unicode rest.head?
  | wordEnd unicode => isWord unicode before && !isWord unicode rest.head?
  | wordStartHalf unicode => !isWord unicode before
  | wordEndHalf unicode => !isWord unicode rest.head?
where
  isWord (unicode : Bool) (c : Option Char) : Bool :=
    c.any (if unicode then Unicode.isWord else Unicode.isAsciiWord)

/-- The instructions that wait for a character or accept, in order of preference. `marks` holds for
each instruction the last round in which it was met, so that none is met twice in a round. -/
structure Threads where
  waiting : Array Nat
  marks : Array Nat

/-- Follows splits and looks from the instructions on the stack. A round meets every instruction
once and puts at most two on the stack for it, which bounds the fuel. -/
def follow (p : Program) (before : Option Char) (rest : List Char) (round : Nat) :
    Nat → List Nat → Threads → Threads
  | 0, _, t => t
  | _, [], t => t
  | fuel + 1, i :: stack, t =>
    if t.marks[i]? = some round then follow p before rest round fuel stack t
    else
      let t := { t with marks := t.marks.setIfInBounds i round }
      match p.code[i]? with
      | none => follow p before rest round fuel stack t
      | some .accept | some (.set _ _) =>
        follow p before rest round fuel stack { t with waiting := t.waiting.push i }
      | some (.look l next) =>
        follow p before rest round fuel (if l.holds before rest then next :: stack else stack) t
      | some (.split first second) =>
        follow p before rest round fuel (first :: second :: stack) t

def Program.fuel (p : Program) : Nat := 3 * p.code.size + 3

/-- Lets every waiting instruction read `c`, in order; those after an accepting one are dropped.
Returns what waits behind `c`, and whether an accepting instruction was met. -/
def advance (p : Program) (c : Char) (rest : List Char) (round : Nat) (t : Threads) :
    Threads × Bool :=
  go t.waiting.toList ⟨#[], t.marks⟩
where
  go : List Nat → Threads → Threads × Bool
    | [], next => (next, false)
    | i :: waiting, next =>
      match p.code[i]? with
      | some (.set members j) =>
        if members.contains c.toNat then
          go waiting (follow p (some c) rest round p.fuel [j] next)
        else go waiting next
      | some .accept => (next, true)
      | _ => go waiting next

/-- Reads on while instructions wait; `best` is the length of the best match so far. -/
def longest (p : Program) (t : Threads) (round length : Nat) (best : Option Nat) :
    List Char → Option Nat
  | [] => if accepts p t then some length else best
  | c :: rest =>
    if t.waiting.isEmpty then best
    else
      let (next, accepted) := advance p c rest round t
      longest p next (round + 1) (length + 1) (if accepted then some length else best) rest
where
  accepts (p : Program) (t : Threads) : Bool :=
    t.waiting.any fun i => match p.code[i]? with
      | some .accept => true
      | _ => false

/-- The number of characters of the preferred match that starts between `before` and `rest`. -/
def Program.matchAt (p : Program) (before : Option Char) (rest : List Char) : Option Nat :=
  let t := follow p before rest 1 p.fuel [p.entry] ⟨#[], .replicate p.code.size 0⟩
  longest p t 2 0 none rest

/-- A match: the byte offset where it starts and its length in bytes. -/
structure Match where
  offset : Nat
  byteLength : Nat
  deriving DecidableEq, Repr

/-- All matches from left to right, none inside another. `skip` counts the characters that still
belong to the last match; where it ends, an empty match does not count (`afterMatch`). -/
def Program.matchesFrom (p : Program) (before : Option Char) (offset skip : Nat)
    (afterMatch : Bool) (rest : List Char) : List Match :=
  match skip, rest with
  | _ + 1, [] => []
  | n + 1, c :: cs => p.matchesFrom (some c) (offset + c.utf8Size) n true cs
  | 0, rest =>
    match p.matchAt before rest, rest with
    | none, [] => []
    | none, c :: cs => p.matchesFrom (some c) (offset + c.utf8Size) 0 false cs
    | some 0, rest =>
      let found := if afterMatch then [] else [⟨offset, 0⟩]
      match rest with
      | [] => found
      | c :: cs => found ++ p.matchesFrom (some c) (offset + c.utf8Size) 0 false cs
    | some (n + 1), c :: cs =>
      ⟨offset, Text.byteLength ((c :: cs).take (n + 1))⟩ ::
        p.matchesFrom (some c) (offset + c.utf8Size) n true cs
    | some (_ + 1), [] => []
termination_by rest

/-- All matches in a text. -/
def Program.findAll (p : Program) (text : List Char) : List Match :=
  p.matchesFrom none 0 0 false text

end Linting.Regex
