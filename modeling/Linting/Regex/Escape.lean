import Linting.Regex.Syntax
import Linting.Regex.Error

/-! Reading the parts of a pattern that stand for one position: escapes, and the blanks that are
skipped when a pattern is written spaciously. Every reader returns what follows the part it read;
`spaced` says whether blanks and comments are skipped. -/

namespace Linting.Regex

/-- Drops white space and comments, which run from `#` to the end of the line. -/
def dropBlanks (inComment : Bool) : List Char → List Char
  | [] => []
  | c :: rest =>
    if inComment then dropBlanks (c != '\n') rest
    else if Unicode.isWhiteSpace c then dropBlanks false rest
    else if c = '#' then dropBlanks true rest
    else c :: rest

def skipBlanks (spaced : Bool) (rest : List Char) : List Char :=
  if spaced then dropBlanks false rest else rest

/-- Characters that mean something of their own and may be escaped. -/
def isMeta (c : Char) : Bool := "\\.+*?()|[]\x7b\x7d^$#&-~".toList.contains c

/-- An escaped character that stands for itself: any of ASCII but letters, digits and angles. -/
def isEscapable (c : Char) : Bool :=
  isMeta c || (c.toNat < 0x80 && !c.isAlphanum && c != '<' && c != '>')

def hexValue? (c : Char) : Option Nat :=
  if '0' ≤ c ∧ c ≤ '9' then some (c.toNat - '0'.toNat)
  else if 'a' ≤ c ∧ c ≤ 'f' then some (c.toNat - 'a'.toNat + 10)
  else if 'A' ≤ c ∧ c ≤ 'F' then some (c.toNat - 'A'.toNat + 10)
  else none

/-- The character with a given code, which must not be a surrogate. -/
def charOfCode? (n : Nat) : Option Char := if n.isValidChar then some (Char.ofNat n) else none

/-- Reads `n` further hexadecimal digits onto `value`. -/
def readHexDigits (spaced : Bool) : Nat → Nat → List Char → Except Error (Nat × List Char)
  | 0, value, rest => .ok (value, rest)
  | _ + 1, _, [] => .error .escapeUnexpectedEnd
  | n + 1, value, c :: rest =>
    match hexValue? c with
    | none => .error .hexInvalidDigit
    | some d => readHexDigits spaced n (value * 16 + d) (skipBlanks spaced rest)

/-- Reads hexadecimal digits up to the closing brace; the text is already past the opening one.
Skipping blanks shortens the rest by more than the fuel, so the fuel does not run out first. -/
def readHexBraced (spaced : Bool) : Nat → Option Nat → List Char →
    Except Error (Option Nat × List Char)
  | _, _, [] => .error .escapeUnexpectedEnd
  | 0, _, _ => .error .escapeUnexpectedEnd
  | fuel + 1, value, c :: rest =>
    if c = '\x7d' then .ok (value, rest)
    else
      match hexValue? c with
      | none => .error .hexInvalidDigit
      | some d => readHexBraced spaced fuel (some (value.getD 0 * 16 + d)) (skipBlanks spaced rest)

/-- Reads what follows `\x`, `\u` or `\U`: digits of a fixed number or digits in braces. -/
def readHex (spaced : Bool) (kind : Char) (rest : List Char) :
    Except Error (Primitive × List Char) :=
  match skipBlanks spaced rest with
  | [] => .error .escapeUnexpectedEnd
  | '\x7b' :: inner => do
    let (value, rest) ← readHexBraced spaced (inner.length + 1) none (skipBlanks spaced inner)
    match value with
    | none => .error .hexEmpty
    | some n =>
      match charOfCode? n with
      | none => .error .hexInvalid
      | some c => .ok (.literal c false, skipBlanks spaced rest)
  | digits => do
    let count := if kind = 'x' then 2 else if kind = 'u' then 4 else 8
    let (n, rest) ← readHexDigits spaced count 0 digits
    match charOfCode? n with
    | none => .error .hexInvalid
    | some c => .ok (.literal c (kind = 'x'), rest)

/-- Splits at the first place where `mark` stands. -/
def splitAtMark (mark : List Char) : List Char → Option (List Char × List Char)
  | [] => none
  | c :: rest =>
    if mark.isPrefixOf (c :: rest) then some ([], (c :: rest).drop mark.length)
    else (splitAtMark mark rest).map fun (before, after) => (c :: before, after)

/-- What stands in the braces of `\p{…}`: a name, or a name and a value, joined by `=`, `:` or by
`!=`, which negates. -/
def classQuery (inner : List Char) : Unicode.ClassQuery × Bool :=
  match splitAtMark ['!', '='] inner with
  | some (name, value) => (.valued (String.ofList name) (String.ofList value), true)
  | none =>
    match (splitAtMark [':'] inner).orElse fun _ => splitAtMark ['='] inner with
    | some (name, value) => (.valued (String.ofList name) (String.ofList value), false)
    | none => (.named (String.ofList inner), false)

/-- Reads up to the closing brace. -/
def readBraced (spaced : Bool) : Nat → List Char → List Char → Option (List Char × List Char)
  | _, _, [] => none
  | 0, _, _ => none
  | fuel + 1, acc, c :: rest =>
    if c = '\x7d' then some (acc.reverse, rest)
    else readBraced spaced fuel (c :: acc) (skipBlanks spaced rest)

/-- Reads what follows `\p` or `\P`. -/
def readUnicodeClass (spaced negated : Bool) (rest : List Char) :
    Except Error (Primitive × List Char) :=
  match skipBlanks spaced rest with
  | [] => .error .escapeUnexpectedEnd
  | '\x7b' :: inner =>
    match readBraced spaced (inner.length + 1) [] (skipBlanks spaced inner) with
    | none => .error .escapeUnexpectedEnd
    | some (name, rest) =>
      let (query, flipped) := classQuery name
      .ok (.unicode query (negated != flipped), rest)
  | '\\' :: _ => .error .unicodeClassInvalid
  | c :: rest =>
    .ok (.unicode (.named (String.singleton c)) negated, skipBlanks spaced rest)

/-- Takes letters and hyphens, skipping blanks. -/
def takeBoundaryName (spaced : Bool) : Nat → List Char → List Char → List Char × List Char
  | fuel + 1, acc, c :: rest =>
    if c.isAlpha || c = '-' then takeBoundaryName spaced fuel (c :: acc) (skipBlanks spaced rest)
    else (acc.reverse, c :: rest)
  | _, acc, rest => (acc.reverse, rest)

/-- Reads what follows `\b`: a kind of boundary in braces, unless the brace starts a repetition. -/
def readBoundary (spaced : Bool) (rest : List Char) : Except Error (Primitive × List Char) :=
  match rest with
  | '\x7b' :: inner =>
    match skipBlanks spaced inner with
    | [] => .error .wordBoundaryUnexpectedEnd
    | c :: cs =>
      if c.isAlpha || c = '-' then
        let (name, after) := takeBoundaryName spaced (inner.length + 1) [] (c :: cs)
        match after with
        | '\x7d' :: after =>
          match String.ofList name with
          | "start" => .ok (.assertion .wordStart, after)
          | "end" => .ok (.assertion .wordEnd, after)
          | "start-half" => .ok (.assertion .wordStartHalf, after)
          | "end-half" => .ok (.assertion .wordEndHalf, after)
          | _ => .error .wordBoundaryUnrecognized
        | _ => .error .wordBoundaryUnclosed
      else .ok (.assertion .wordBoundary, rest)
  | _ => .ok (.assertion .wordBoundary, rest)

/-- Reads what follows a backslash. -/
def readEscape (spaced : Bool) : List Char → Except Error (Primitive × List Char)
  | [] => .error .escapeUnexpectedEnd
  | c :: rest =>
    if c.isDigit then .error .backreference
    else if c = 'x' || c = 'u' || c = 'U' then readHex spaced c rest
    else if c = 'p' || c = 'P' then readUnicodeClass spaced (c = 'P') rest
    else if isEscapable c then .ok (.literal c false, rest)
    else
      match c with
      | 'd' => .ok (.perl .digit false, rest)
      | 'D' => .ok (.perl .digit true, rest)
      | 's' => .ok (.perl .space false, rest)
      | 'S' => .ok (.perl .space true, rest)
      | 'w' => .ok (.perl .word false, rest)
      | 'W' => .ok (.perl .word true, rest)
      | 'a' => .ok (.literal '\x07' false, rest)
      | 'f' => .ok (.literal '\x0c' false, rest)
      | 't' => .ok (.literal '\t' false, rest)
      | 'n' => .ok (.literal '\n' false, rest)
      | 'r' => .ok (.literal '\r' false, rest)
      | 'v' => .ok (.literal '\x0b' false, rest)
      | 'A' => .ok (.assertion .startText, rest)
      | 'z' => .ok (.assertion .endText, rest)
      | 'b' => readBoundary spaced rest
      | 'B' => .ok (.assertion .notWordBoundary, rest)
      | '<' => .ok (.assertion .wordStart, rest)
      | '>' => .ok (.assertion .wordEnd, rest)
      | _ => .error .escapeUnrecognized

end Linting.Regex
