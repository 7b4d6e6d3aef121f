import Linting.Regex.Parser
import Linting.Unicode.CaseFolding

/-! What a pattern means: sets of characters, positions in the text, and the ways to put them
together. Flags are resolved here, and only sets of whole characters are left. -/

namespace Linting.Regex

/-- What a position of the text is asked for. -/
inductive Look
  | start
  | end_
  | startLine
  | endLine
  | startLineCrlf
  | endLineCrlf
  | word (unicode : Bool)
  | notWord (unicode : Bool)
  | wordStart (unicode : Bool)
  | wordEnd (unicode : Bool)
  | wordStartHalf (unicode : Bool)
  | wordEndHalf (unicode : Bool)
  deriving DecidableEq, Repr

inductive Node
  | empty
  | set (members : Unicode.CodeSet)
  | look (l : Look)
  | capture (body : Node)
  | repetition (min : Nat) (max : Option Nat) (greedy : Bool) (body : Node)
  | sequence (parts : List Node)
  | choice (branches : List Node)
  deriving Repr

/-- The flags in force at a place of the pattern. -/
structure Flags where
  caseInsensitive : Bool := false
  multiLine : Bool := false
  dotMatchesNewLine : Bool := false
  swapGreed : Bool := false
  unicode : Bool := true
  crlf : Bool := false
  deriving DecidableEq, Repr

/-- The flags after a flag group. -/
def Flags.apply (flags : Flags) (items : List FlagItem) : Flags where
  caseInsensitive := (flagState .caseInsensitive true items).getD flags.caseInsensitive
  multiLine := (flagState .multiLine true items).getD flags.multiLine
  dotMatchesNewLine := (flagState .dotMatchesNewLine true items).getD flags.dotMatchesNewLine
  swapGreed := (flagState .swapGreed true items).getD flags.swapGreed
  unicode := (flagState .unicode true items).getD flags.unicode
  crlf := (flagState .crlf true items).getD flags.crlf

open Unicode (CodeSet)

def AsciiClass.runs : AsciiClass → List (Char × Char)
  | alnum => [('0', '9'), ('A', 'Z'), ('a', 'z')]
  | alpha => [('A', 'Z'), ('a', 'z')]
  | ascii => [('\x00', '\x7f')]
  | blank => [('\t', '\t'), (' ', ' ')]
  | cntrl => [('\x00', '\x1f'), ('\x7f', '\x7f')]
  | digit => [('0', '9')]
  | graph => [('!', '~')]
  | lower => [('a', 'z')]
  | print => [(' ', '~')]
  | punct => [('!', '/'), (':', '@'), ('[', '\x60'), ('\x7b', '~')]
  | space => [('\t', '\r'), (' ', ' ')]
  | upper => [('A', 'Z')]
  | word => [('0', '9'), ('A', 'Z'), ('_', '_'), ('a', 'z')]
  | xdigit => [('0', '9'), ('A', 'F'), ('a', 'f')]

def AsciiClass.set (cls : AsciiClass) : CodeSet :=
  CodeSet.ofRuns (cls.runs.map fun r => (r.1.toNat, r.2.toNat))

def PerlClass.set (cls : PerlClass) (unicode : Bool) : CodeSet :=
  match cls, unicode with
  | digit, true => Unicode.decimalDigit
  | space, true => Unicode.whiteSpace
  | word, true => Unicode.wordCharacter
  | digit, false => AsciiClass.digit.set
  | space, false => AsciiClass.space.set
  | word, false => AsciiClass.word.set

namespace Flags

/-- Closes a set under case, if the flags ask for that. -/
def fold (flags : Flags) (s : CodeSet) : CodeSet :=
  if flags.caseInsensitive then if flags.unicode then s.foldCase else s.foldAsciiCase else s

/-- With Unicode off a complement is taken among bytes. -/
def negate (flags : Flags) (negated : Bool) (s : CodeSet) : CodeSet :=
  if negated then if flags.unicode then s.compl else s.complWithin 0xFF else s

/-- With Unicode off a set must not hold bytes that are no character of their own. -/
def checked (flags : Flags) (s : CodeSet) : Except Error CodeSet :=
  if flags.unicode || s.isAscii then .ok s else .error .invalidUtf8

def perl (flags : Flags) (cls : PerlClass) (negated : Bool) : Except Error CodeSet :=
  flags.checked (flags.negate negated (cls.set flags.unicode))

def query (flags : Flags) (q : Unicode.ClassQuery) (negated : Bool) : Except Error CodeSet :=
  if flags.unicode then
    match q.resolve with
    | .ok set => .ok (flags.negate negated (flags.fold set))
    | .error .propertyNotFound => .error .propertyNotFound
    | .error .valueNotFound => .error .propertyValueNotFound
  else .error .unicodeNotAllowed

/-- The code of a literal in a class; with Unicode off it must be ASCII. -/
def memberCode (flags : Flags) (c : Char) (byte : Bool) : Except Error Nat :=
  if flags.unicode || c.toNat < 0x80 then .ok c.toNat
  else if byte then .error .invalidUtf8
  else .error .unicodeNotAllowed

/-- The members of a class item. -/
def itemSet (flags : Flags) : ClassItem → Except Error CodeSet
  | .literal c byte => do .ok (.singleton (← flags.memberCode c byte))
  | .range a aByte b bByte => do
    let first ← flags.memberCode a aByte
    let final ← flags.memberCode b bByte
    .ok ⟨#[(first, final)]⟩
  | .ascii cls negated => flags.checked (flags.negate negated (flags.fold cls.set))
  | .perl cls negated => flags.perl cls negated
  | .unicode q negated => flags.query q negated
  | .bracketed negated item => do
    flags.checked (flags.negate negated (flags.fold (← flags.itemSet item)))
  | .union items => itemsSet items
  | .combine op lhs rhs => do
    let l := flags.fold (← flags.itemSet lhs)
    let r := flags.fold (← flags.itemSet rhs)
    match op with
    | .intersection => .ok (l.inter r)
    | .difference => .ok (l.diff r)
    | .symmetricDifference => .ok (l.symmDiff r)
where
  itemsSet : List ClassItem → Except Error CodeSet
    | [] => .ok .empty
    | item :: items => do
      let set ← flags.itemSet item
      .ok (set.union (← itemsSet items))

def literal (flags : Flags) (c : Char) (byte : Bool) : Except Error Node :=
  if !flags.unicode && byte && 0x80 ≤ c.toNat then .error .invalidUtf8
  else if flags.caseInsensitive then
    if flags.unicode then
      if Unicode.hasCaseVariants c.toNat c.toNat then
        .ok (.set (CodeSet.singleton c.toNat).foldCase)
      else .ok (.set (.singleton c.toNat))
    else .ok (.set (CodeSet.singleton c.toNat).foldAsciiCase)
  else .ok (.set (.singleton c.toNat))

def dot (flags : Flags) : Except Error Node :=
  if !flags.unicode then .error .invalidUtf8
  else if flags.dotMatchesNewLine then .ok (.set CodeSet.empty.compl)
  else if flags.crlf then .ok (.set (CodeSet.compl ⟨#[(0x0A, 0x0A), (0x0D, 0x0D)]⟩))
  else .ok (.set (CodeSet.singleton 0x0A).compl)

def look (flags : Flags) : Assertion → Look
  | .startLine =>
    if flags.multiLine then if flags.crlf then .startLineCrlf else .startLine else .start
  | .endLine => if flags.multiLine then if flags.crlf then .endLineCrlf else .endLine else .end_
  | .startText => .start
  | .endText => .end_
  | .wordBoundary => .word flags.unicode
  | .notWordBoundary => .notWord flags.unicode
  | .wordStart => .wordStart flags.unicode
  | .wordEnd => .wordEnd flags.unicode
  | .wordStartHalf => .wordStartHalf flags.unicode
  | .wordEndHalf => .wordEndHalf flags.unicode

def primitive (flags : Flags) : Primitive → Except Error Node
  | .literal c byte => flags.literal c byte
  | .dot => flags.dot
  | .assertion a => .ok (.look (flags.look a))
  | .perl cls negated => do .ok (.set (← flags.perl cls negated))
  | .unicode q negated => do .ok (.set (← flags.query q negated))

end Flags

/-- The meaning of a pattern under the flags in force where it starts, and the flags in force
where it ends. -/
def Ast.meaning (flags : Flags) : Ast → Except Error (Node × Flags)
  | .empty => .ok (.empty, flags)
  | .flags items => .ok (.empty, flags.apply items)
  | .primitive p => do .ok (← flags.primitive p, flags)
  | .bracketed negated item => do
    let set ← flags.checked (flags.negate negated (flags.fold (← flags.itemSet item)))
    .ok (.set set, flags)
  | .repetition min max greedy body => do
    let (node, after) ← body.meaning flags
    .ok (.repetition min max (greedy != after.swapGreed) node, after)
  | .group captures items body => do
    let (node, _) ← body.meaning (flags.apply items)
    .ok (if captures then .capture node else node, flags)
  | .alternation branches => do
    let (nodes, after) ← meanings flags branches
    .ok (.choice nodes, after)
  | .concat parts => do
    let (nodes, after) ← meanings flags parts
    .ok (.sequence nodes, after)
where
  meanings (flags : Flags) : List Ast → Except Error (List Node × Flags)
    | [] => .ok ([], flags)
    | part :: parts => do
      let (node, after) ← part.meaning flags
      let (nodes, after) ← meanings after parts
      .ok (node :: nodes, after)

end Linting.Regex
