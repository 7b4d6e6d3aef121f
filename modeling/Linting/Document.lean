import Linting.Path
import Linting.Location

/-! A file's text together with the byte offsets at which its lines start. Lines and columns count
from one, and columns count characters. -/

namespace Linting

/-- Offsets and lengths are kept in machine words of 64 bits. -/
def wordLimit : Nat := 0x10000000000000000

/-- The offsets behind each newline, `offset` being where the text starts. -/
def offsetsAfterNewlines (offset : Nat) : List Char → List Nat
  | [] => []
  | c :: rest =>
    let next := offset + c.utf8Size
    if c = '\n' then next :: offsetsAfterNewlines next rest else offsetsAfterNewlines next rest

/-- Where lines start: at the beginning of the text and behind each newline. -/
def lineOffsets (cs : List Char) : List Nat := 0 :: offsetsAfterNewlines 0 cs

/-- The text behind the first `n` bytes; `none` when they end inside a character or run past the
end. -/
def dropBytes : Nat → List Char → Option (List Char)
  | 0, cs => some cs
  | _ + 1, [] => none
  | n + 1, c :: cs => if c.utf8Size ≤ n + 1 then dropBytes (n + 1 - c.utf8Size) cs else none

/-- The text of the first `n` bytes. -/
def takeBytes : Nat → List Char → Option (List Char)
  | 0, _ => some []
  | _ + 1, [] => none
  | n + 1, c :: cs =>
    if c.utf8Size ≤ n + 1 then (takeBytes (n + 1 - c.utf8Size) cs).map (c :: ·) else none

/-- The text from byte `a` up to byte `b`; both must lie between characters and in order. -/
def sliceBytes (a b : Nat) (cs : List Char) : Option (List Char) :=
  if a ≤ b then (dropBytes a cs).bind (takeBytes (b - a)) else none

/-- Finds the first place of ascending offsets, from `lo` up to `hi`, whose offset is beyond
`offset`. -/
def partitionPoint (offsets : Array Nat) (offset lo hi : Nat) : Nat :=
  if lo < hi then
    if (offsets[(lo + hi) / 2]?).any (· ≤ offset) then
      partitionPoint offsets offset ((lo + hi) / 2 + 1) hi
    else partitionPoint offsets offset lo ((lo + hi) / 2)
  else lo
termination_by hi - lo

/-- Drops a carriage return from the end of a line that a newline ends. -/
def dropReturn (line : List Char) : List Char :=
  if line.getLast? = some '\r' then line.dropLast else line

/-- The lines of a text without what ends them; `line` holds the current one backwards. What
follows the last newline is a line of its own unless it is empty. -/
def splitLines (line : List Char) : List Char → List (List Char)
  | [] => if line.isEmpty then [] else [line.reverse]
  | c :: rest =>
    if c = '\n' then dropReturn line.reverse :: splitLines [] rest else splitLines (c :: line) rest

structure Document where
  path : Path
  contents : List Char
  offsets : Array Nat
  deriving DecidableEq

namespace Document

def ofChars (path : Path) (contents : List Char) : Document :=
  ⟨path, contents, (lineOffsets contents).toArray⟩

def ofString (path : Path) (contents : String) : Document := ofChars path contents.toList

def isEmpty (d : Document) : Bool := d.contents.isEmpty

def size (d : Document) : Nat := Text.byteLength d.contents

/-- The number of lines; a newline at the very end does not start another one. -/
def lineCount (d : Document) : Nat :=
  if d.contents.getLast? = some '\n' then d.offsets.size - 1 else d.offsets.size

/-- The lines with their numbers, which are machine words of 32 bits. -/
def lines (d : Document) : List (UInt32 × List Char) :=
  (splitLines [] d.contents).zipIdx.map fun (line, i) => (i.toUInt32 + 1, line)

/-- The line of a byte offset: the last that starts at it or before it, counting from zero. -/
def lineIndex (d : Document) (offset : Nat) : Nat :=
  partitionPoint d.offsets offset 0 d.offsets.size - 1

/-- The location of `byteLen` bytes from a byte offset. Offsets beyond the end stand for the end.
There is no location when either end lies inside a character, nor when the far end is not a machine
word. -/
def locationOf (d : Document) (offset byteLen : Nat) : Option Location := do
  let start := min offset d.size
  let index := d.lineIndex start
  let lineStart ← d.offsets[index]?
  let before ← sliceBytes lineStart start d.contents
  if start + byteLen < wordLimit then
    let covered ← sliceBytes start (min (start + byteLen) d.size) d.contents
    some ⟨index.toUInt32 + 1, (before.length + 1).toUInt32, covered.length.toUInt32⟩
  else none

end Document

end Linting
