import Linting.Regex.Bracket

/-! Reading a pattern. Groups nest; the open ones are kept on a stack together with what stood
before them. -/

namespace Linting.Regex

/-- The branches of a group read so far and the parts of the current one, newest first. -/
structure Branches where
  done : List Ast
  parts : List Ast

def Branches.toAst (b : Branches) : Ast :=
  match b.done with
  | [] => .ofParts b.parts.reverse
  | _ => .alternation ((Ast.ofParts b.parts.reverse :: b.done).reverse)

/-- A group that is not closed yet. -/
structure OpenGroup where
  captures : Bool
  items : List FlagItem
  before : Branches
  spaced : Bool

structure Reader where
  rest : List Char
  spaced : Bool
  names : List (List Char)
  branches : Branches
  open_ : List OpenGroup

namespace Reader

def push (r : Reader) (part : Ast) (rest : List Char) : Reader :=
  { r with branches := { r.branches with parts := part :: r.branches.parts }, rest }

/-- The part that a repetition operator applies to, and the reader without it. -/
def takeOperand (r : Reader) : Except Error (Ast × Branches) :=
  match r.branches.parts with
  | [] => .error .repetitionMissing
  | .empty :: _ | .flags _ :: _ => .error .repetitionMissing
  | part :: parts => .ok (part, { r.branches with parts })

/-- Reads `?`, `*` or `+` with an optional `?` behind it. -/
def repeatSimple (r : Reader) (min : Nat) (max : Option Nat) (rest : List Char) :
    Except Error Reader := do
  let (part, branches) ← r.takeOperand
  let (greedy, rest) := match rest with
    | '?' :: rest => (false, rest)
    | rest => (true, rest)
  .ok { r with rest, branches := { branches with
    parts := .repetition min max greedy part :: branches.parts } }

end Reader

/-- Takes digits, skipping blanks between them. -/
def takeDigits (spaced : Bool) : Nat → List Char → List Char → List Char × List Char
  | fuel + 1, acc, c :: rest =>
    if c.isDigit then takeDigits spaced fuel (c :: acc) (skipBlanks spaced rest)
    else (acc.reverse, c :: rest)
  | _, acc, rest => (acc.reverse, rest)

/-- The value of decimal digits. -/
def decimalValue (digits : List Char) : Nat :=
  digits.foldl (fun n c => n * 10 + (c.toNat - '0'.toNat)) 0

/-- Reads a count between blanks: a number below 2^32, or what is wrong with it. -/
def readCount (spaced : Bool) (rest : List Char) : Except Error Nat × List Char :=
  let rest := rest.dropWhile Unicode.isWhiteSpace
  let (digits, rest) := takeDigits spaced (rest.length + 1) [] rest
  let rest := skipBlanks spaced (rest.dropWhile Unicode.isWhiteSpace)
  if digits.isEmpty then (.error .repetitionCountEmpty, rest)
  else if decimalValue digits ≤ 0xFFFFFFFF then (.ok (decimalValue digits), rest)
  else (.error .decimalInvalid, rest)

/-- Reads the counts of a repetition up to its closing brace. A count that is missing or too large
is reported only once the text is known to go on. -/
def readBounds (spaced : Bool) (rest : List Char) :
    Except Error (Nat × Option Nat × List Char) := do
  let (first, rest) := readCount spaced rest
  match rest with
  | [] => .error .repetitionCountUnclosed
  | ',' :: rest =>
    match skipBlanks spaced rest with
    | [] => .error .repetitionCountUnclosed
    | '\x7d' :: rest => .ok (← first, none, '\x7d' :: rest)
    | rest =>
      let min ← first
      let (final, rest) := readCount spaced rest
      .ok (min, some (← final), rest)
  | rest => do
    let count ← first
    .ok (count, some count, rest)

/-- Reads a counted repetition; the text is past its opening brace. -/
def Reader.repeatCounted (r : Reader) (rest : List Char) : Except Error Reader := do
  let (part, branches) ← r.takeOperand
  match skipBlanks r.spaced rest with
  | [] => .error .repetitionCountUnclosed
  | rest =>
    let (min, max, rest) ← readBounds r.spaced rest
    match rest with
    | '\x7d' :: rest =>
      let (greedy, rest) := match skipBlanks r.spaced rest with
        | '?' :: rest => (false, rest)
        | rest => (true, rest)
      if max.any (· < min) then .error .repetitionCountInvalid
      else .ok { r with rest, branches := { branches with
        parts := .repetition min max greedy part :: branches.parts } }
    | _ => .error .repetitionCountUnclosed

def flagItem? : Char → Option FlagItem
  | 'i' => some .caseInsensitive
  | 'm' => some .multiLine
  | 's' => some .dotMatchesNewLine
  | 'U' => some .swapGreed
  | 'u' => some .unicode
  | 'R' => some .crlf
  | 'x' => some .ignoreWhitespace
  | _ => none

/-- Reads flags up to the colon or the parenthesis behind them, which comes with the answer. -/
def readFlags (items : List FlagItem) (afterHyphen : Bool) :
    List Char → Except Error (List FlagItem × Char × List Char)
  | [] => .error .flagUnexpectedEnd
  | c :: rest =>
    if c = ':' || c = ')' then
      if afterHyphen then .error .flagDanglingNegation else .ok (items.reverse, c, rest)
    else if c = '-' then
      if items.contains .negation then .error .flagRepeatedNegation
      else readFlags (.negation :: items) true rest
    else
      match flagItem? c with
      | none => .error .flagUnrecognized
      | some item =>
        if items.contains item then .error .flagDuplicate
        else readFlags (item :: items) false rest

/-- What flags say about one letter: those before the hyphen turn it on, those after it off. -/
def flagState (item : FlagItem) (enable : Bool) : List FlagItem → Option Bool
  | [] => none
  | .negation :: items => flagState item false items
  | other :: items => if other = item then some enable else flagState item enable items

def isNameStart (c : Char) : Bool := c = '_' || Unicode.isAlphabetic c

def isNamePart (c : Char) : Bool :=
  c = '_' || c = '.' || c = '[' || c = ']' || Unicode.isAlphanumeric c

/-- Reads a group's name up to the closing angle. -/
def readGroupName (name : List Char) : List Char → Except Error (List Char × List Char)
  | [] => .error .groupNameUnclosed
  | c :: rest =>
    if c = '>' then .ok (name.reverse, rest)
    else if (if name.isEmpty then isNameStart c else isNamePart c) then
      readGroupName (c :: name) rest
    else .error .groupNameInvalid

namespace Reader

def openGroup (r : Reader) (captures : Bool) (items : List FlagItem) (rest : List Char) : Reader :=
  { r with
    rest
    spaced := (flagState .ignoreWhitespace true items).getD r.spaced
    branches := ⟨[], []⟩
    open_ := ⟨captures, items, r.branches, r.spaced⟩ :: r.open_ }

def openNamed (r : Reader) (rest : List Char) : Except Error Reader := do
  let (name, rest) ← readGroupName [] rest
  if name.isEmpty then .error .groupNameEmpty
  else if r.names.contains name then .error .groupNameDuplicate
  else .ok ({ r with names := name :: r.names }.openGroup true [] rest)

/-- Reads what follows an opening parenthesis. Flags alone in it apply from there on. -/
def group (r : Reader) (rest : List Char) : Except Error Reader :=
  match skipBlanks r.spaced rest with
  | '?' :: '=' :: _ | '?' :: '!' :: _ | '?' :: '<' :: '=' :: _ | '?' :: '<' :: '!' :: _ =>
    .error .lookAround
  | '?' :: 'P' :: '<' :: rest => r.openNamed rest
  | '?' :: '<' :: rest => r.openNamed rest
  | ['?'] => .error .groupUnclosed
  | '?' :: rest => do
    let (items, stop, rest) ← readFlags [] false rest
    if stop = ':' then .ok (r.openGroup false items rest)
    else if items.isEmpty then .error .repetitionMissing
    else
      let r := { r with spaced := (flagState .ignoreWhitespace true items).getD r.spaced }
      .ok (r.push (.flags items) rest)
  | rest => .ok (r.openGroup true [] rest)

def closeGroup (r : Reader) (rest : List Char) : Except Error Reader :=
  match r.open_ with
  | [] => .error .groupUnopened
  | g :: outer =>
    let part := Ast.group g.captures g.items r.branches.toAst
    .ok ({ r with branches := g.before, spaced := g.spaced, open_ := outer }.push part rest)

/-- Reads on by one part or operator; the next character is already past any blanks. -/
def step (r : Reader) (c : Char) (rest : List Char) : Except Error Reader :=
  match c with
  | '(' => r.group rest
  | ')' => r.closeGroup rest
  | '|' =>
    .ok { r with rest, branches := ⟨.ofParts r.branches.parts.reverse :: r.branches.done, []⟩ }
  | '[' => do
    let (cls, rest) ← readClass r.spaced rest
    .ok (r.push cls rest)
  | '?' => r.repeatSimple 0 (some 1) rest
  | '*' => r.repeatSimple 0 none rest
  | '+' => r.repeatSimple 1 none rest
  | '\x7b' => r.repeatCounted rest
  | '\\' => do
    let (p, rest) ← readEscape r.spaced rest
    .ok (r.push (.primitive p) rest)
  | '.' => .ok (r.push (.primitive .dot) rest)
  | '^' => .ok (r.push (.primitive (.assertion .startLine)) rest)
  | '$' => .ok (r.push (.primitive (.assertion .endLine)) rest)
  | c => .ok (r.push (.primitive (.literal c false)) rest)

/-- Every step reads a character, so the length of the text bounds their number. -/
def run : Nat → Reader → Except Error Ast
  | 0, _ => .error .groupUnclosed
  | fuel + 1, r =>
    match skipBlanks r.spaced r.rest with
    | [] => if r.open_.isEmpty then .ok r.branches.toAst else .error .groupUnclosed
    | c :: rest => do run fuel (← r.step c rest)

end Reader

/-- Groups, classes and repetitions may nest this deep. -/
def nestLimit : Nat := 250

def parse (pattern : String) : Except Error Ast := do
  let cs := pattern.toList
  let ast ← Reader.run (cs.length + 1) ⟨cs, false, [], ⟨[], []⟩, []⟩
  if nestLimit < ast.depth then .error (.nestLimit nestLimit) else .ok ast

end Linting.Regex
