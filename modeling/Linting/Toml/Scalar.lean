import Linting.Toml.Value
import Linting.Decimal.Shortest

/-! Reading strings, numbers, dates and keys of a TOML document. A reader returns what it read and
what follows, or `none` where the text breaks the grammar. -/

namespace Linting.Toml

abbrev Reader (α : Type) := List Char → Option (α × List Char)

def isBlank (c : Char) : Bool := c = ' ' || c = '\t'

def dropBlanks (cs : List Char) : List Char := cs.dropWhile isBlank

/-- Characters that a comment may hold. -/
def isCommentChar (c : Char) : Bool := c = '\t' || (' ' ≤ c && c ≤ '~') || 0x80 ≤ c.toNat

def readNewline? : List Char → Option (List Char)
  | '\n' :: rest => some rest
  | '\r' :: '\n' :: rest => some rest
  | _ => none

/-- What follows the blanks and the comment at the end of a line, before the newline. -/
def dropComment (cs : List Char) : List Char :=
  match dropBlanks cs with
  | '#' :: rest => rest.dropWhile isCommentChar
  | rest => rest

/-- Passes the rest of a line, which may hold blanks and a comment only. -/
def endLine? (cs : List Char) : Option (List Char) :=
  match dropComment cs with
  | [] => some []
  | rest => readNewline? rest

def isHexDigit (c : Char) : Bool :=
  c.isDigit || ('a' ≤ c && c ≤ 'f') || ('A' ≤ c && c ≤ 'F')

def digitValue (c : Char) : Nat :=
  if c.isDigit then c.toNat - '0'.toNat
  else if 'a' ≤ c ∧ c ≤ 'f' then c.toNat - 'a'.toNat + 10
  else c.toNat - 'A'.toNat + 10

def valueOf (base : Nat) (digits : List Char) : Nat :=
  digits.foldl (fun n c => n * base + digitValue c) 0

/-- Reads exactly `n` digits of a kind. -/
def takeDigits? (isDigit : Char → Bool) (n : Nat) (cs : List Char) :
    Option (List Char × List Char) :=
  let digits := cs.take n
  if digits.length = n ∧ digits.all isDigit then some (digits, cs.drop n) else none

/-- The character behind `\u` or `\U` and its digits. -/
def readCode (n : Nat) : Reader Char := fun cs => do
  let (digits, rest) ← takeDigits? isHexDigit n cs
  let code := valueOf 16 digits
  if code.isValidChar then some (Char.ofNat code, rest) else none

/-- Reads an escape behind its backslash. -/
def readEscape : Reader Char
  | 'b' :: rest => some ('\x08', rest)
  | 't' :: rest => some ('\t', rest)
  | 'n' :: rest => some ('\n', rest)
  | 'f' :: rest => some ('\x0c', rest)
  | 'r' :: rest => some ('\r', rest)
  | '"' :: rest => some ('"', rest)
  | '\\' :: rest => some ('\\', rest)
  | 'u' :: rest => readCode 4 rest
  | 'U' :: rest => readCode 8 rest
  | _ => none

/-- Characters that a string on one line may hold, its quote and the backslash apart. -/
def isStringChar (c : Char) : Bool := isCommentChar c

/-- Reads a string in double quotes; the text is past the first. -/
def readBasic (acc : List Char) : Nat → Reader (List Char)
  | 0, _ => none
  | fuel + 1, cs =>
    match cs with
    | '"' :: rest => some (acc.reverse, rest)
    | '\\' :: rest => do
      let (c, rest) ← readEscape rest
      readBasic (c :: acc) fuel rest
    | c :: rest => if isStringChar c then readBasic (c :: acc) fuel rest else none
    | [] => none

/-- Reads a string in single quotes, which has no escapes. -/
def readLiteral : Reader (List Char) := fun cs =>
  match cs.dropWhile fun c => isStringChar c && c != '\'' with
  | '\'' :: rest => some (cs.takeWhile fun c => isStringChar c && c != '\'', rest)
  | _ => none

/-- Passes blanks and newlines. -/
def dropBlankLines (fuel : Nat) (cs : List Char) : List Char :=
  match fuel with
  | 0 => cs
  | fuel + 1 =>
    match readNewline? (dropBlanks cs) with
    | some rest => dropBlankLines fuel rest
    | none => dropBlanks cs

/-- What closes a string of several lines: three quotes, and up to two more before them that belong
to the string. -/
def closeQuotes (quote : Char) (cs : List Char) : Option (List Char × List Char) :=
  let run := cs.takeWhile (· = quote)
  if 3 ≤ run.length then
    let extra := min (run.length - 3) 2
    some (List.replicate extra quote, cs.drop (extra + 3))
  else none

/-- Reads a string of several lines; the text is past the opening quotes. With escapes a backslash
at the end of a line joins the lines. -/
def readMultiline (quote : Char) (escapes : Bool) (acc : List Char) : Nat → Reader (List Char)
  | 0, _ => none
  | fuel + 1, cs =>
    match cs with
    | [] => none
    | c :: rest =>
      if c = quote then
        match closeQuotes quote cs with
        | some (extra, rest) => some (acc.reverse ++ extra, rest)
        | none => readMultiline quote escapes (c :: acc) fuel rest
      else if c = '\\' && escapes then
        match readNewline? (dropBlanks rest) with
        | some rest =>
          readMultiline quote escapes acc fuel (dropBlankLines (rest.length + 1) rest)
        | none => do
          let (c, rest) ← readEscape rest
          readMultiline quote escapes (c :: acc) fuel rest
      else
        match readNewline? cs with
        | some rest => readMultiline quote escapes ('\n' :: acc) fuel rest
        | none =>
          if isStringChar c then readMultiline quote escapes (c :: acc) fuel rest else none

/-- A newline right behind the opening quotes does not count. -/
def dropFirstNewline (cs : List Char) : List Char := (readNewline? cs).getD cs

def readString : Reader (List Char)
  | '"' :: '"' :: '"' :: rest =>
    readMultiline '"' true [] (rest.length + 1) (dropFirstNewline rest)
  | '\'' :: '\'' :: '\'' :: rest =>
    readMultiline '\'' false [] (rest.length + 1) (dropFirstNewline rest)
  | '"' :: rest => readBasic [] (rest.length + 1) rest
  | '\'' :: rest => readLiteral rest
  | _ => none

/-- Reads digits with single underscores between them. -/
def readDigits (isDigit : Char → Bool) : Nat → Reader (List Char)
  | 0, _ => none
  | fuel + 1, cs =>
    match cs with
    | c :: rest =>
      if isDigit c then
        match rest with
        | '_' :: more => do
          let (digits, rest) ← readDigits isDigit fuel more
          some (c :: digits, rest)
        | d :: _ =>
          if isDigit d then do
            let (digits, rest) ← readDigits isDigit fuel rest
            some (c :: digits, rest)
          else some ([c], rest)
        | [] => some ([c], [])
      else none
    | [] => none

def digitsOf (isDigit : Char → Bool) : Reader (List Char) := fun cs =>
  readDigits isDigit (cs.length + 1) cs

def readSign : List Char → Bool × List Char
  | '-' :: rest => (true, rest)
  | '+' :: rest => (false, rest)
  | rest => (false, rest)

/-- Reads a sign and digits without a leading zero. -/
def readDecimal : Reader (Bool × List Char) := fun cs =>
  let (negative, rest) := readSign cs
  match rest with
  | '0' :: rest => some ((negative, ['0']), rest)
  | rest => do
    let (digits, rest) ← digitsOf Char.isDigit rest
    some ((negative, digits), rest)

/-- Integers have 64 bits. -/
def integer? (negative : Bool) (magnitude : Nat) : Option Value :=
  if negative then if magnitude ≤ 0x8000000000000000 then some (.integer (-magnitude)) else none
  else if magnitude < 0x8000000000000000 then some (.integer magnitude) else none

def readInteger : Reader Value := fun cs =>
  let based (base : Nat) (isDigit : Char → Bool) (rest : List Char) :
      Option (Value × List Char) := do
    let (digits, rest) ← digitsOf isDigit rest
    some (← integer? false (valueOf base digits), rest)
  match cs with
  | '0' :: 'x' :: rest => based 16 isHexDigit rest
  | '0' :: 'o' :: rest => based 8 (fun c => '0' ≤ c && c ≤ '7') rest
  | '0' :: 'b' :: rest => based 2 (fun c => c = '0' || c = '1') rest
  | cs => do
    let ((negative, digits), rest) ← readDecimal cs
    some (← integer? negative (valueOf 10 digits), rest)

/-- Reads an exponent behind its letter. -/
def readExponent : Reader Int := fun cs => do
  let (negative, rest) := readSign cs
  let (digits, rest) ← digitsOf Char.isDigit rest
  let n : Int := valueOf 10 digits
  some (if negative then -n else n, rest)

/-- Numbers that overflow upward are refused. -/
def float? (negative : Bool) (digits : List Char) (exponent : Int) : Option Value :=
  let x := Decimal.toFloat (valueOf 10 digits) exponent
  let text := Decimal.floatText (if negative then -x else x)
  if text = "inf" then none else some (.float text)

def readSpecialFloat : Reader Value := fun cs =>
  let (negative, rest) := readSign cs
  match rest with
  | 'i' :: 'n' :: 'f' :: rest => some (.float (if negative then "-inf" else "inf"), rest)
  | 'n' :: 'a' :: 'n' :: rest => some (.float "NaN", rest)
  | _ => none

/-- Reads a number with a fraction, an exponent or both. -/
def readFloat : Reader Value := fun cs =>
  (do
    let ((negative, whole), rest) ← readDecimal cs
    let (places, exponent, rest) ←
      match rest with
      | '.' :: rest => do
        let (places, rest) ← digitsOf Char.isDigit rest
        match rest with
        | 'e' :: rest | 'E' :: rest => do
          let (exponent, rest) ← readExponent rest
          some (places, exponent, rest)
        | rest => some (places, (0 : Int), rest)
      | 'e' :: rest | 'E' :: rest => do
        let (exponent, rest) ← readExponent rest
        some ([], exponent, rest)
      | _ => none
    let value ← float? negative (whole ++ places) (exponent - places.length)
    some (value, rest)).orElse fun _ => readSpecialFloat cs

/-- Reads `n` digits with a value from `lo` to `hi`. -/
def readField (n lo hi : Nat) : Reader Nat := fun cs => do
  let (digits, rest) ← takeDigits? Char.isDigit n cs
  let value := valueOf 10 digits
  if lo ≤ value ∧ value ≤ hi then some (value, rest) else none

def expect (c : Char) : List Char → Option (List Char)
  | d :: rest => if d = c then some rest else none
  | [] => none

def daysIn (year month : Nat) : Nat :=
  if month = 2 then
    if (year % 4 = 0 ∧ year % 100 ≠ 0) ∨ year % 400 = 0 then 29 else 28
  else if [4, 6, 9, 11].contains month then 30
  else 31

/-- Passes a date. -/
def passDate (cs : List Char) : Option (List Char) := do
  let (year, rest) ← readField 4 0 9999 cs
  let (month, rest) ← readField 2 1 12 (← expect '-' rest)
  let (_, rest) ← readField 2 1 (daysIn year month) (← expect '-' rest)
  some rest

/-- Passes a time of day, which may have a fraction of a second. -/
def passTime (cs : List Char) : Option (List Char) := do
  let (_, rest) ← readField 2 0 23 cs
  let (_, rest) ← readField 2 0 59 (← expect ':' rest)
  let (_, rest) ← readField 2 0 60 (← expect ':' rest)
  match rest with
  | '.' :: c :: more =>
    if c.isDigit then some ((c :: more).dropWhile Char.isDigit) else none
  | rest => some rest

/-- Passes an offset, if there is one. -/
def passOffset (cs : List Char) : Option (List Char) :=
  match cs with
  | 'Z' :: rest | 'z' :: rest => some rest
  | '+' :: rest | '-' :: rest => do
    let (_, rest) ← readField 2 0 23 rest
    let (_, rest) ← readField 2 0 59 (← expect ':' rest)
    some rest
  | rest => some rest

/-- Reads a date, a time, or both with an optional offset. -/
def readDatetime : Reader Value := fun cs =>
  match passDate cs with
  | some rest =>
    let after := match rest with
      | c :: more =>
        if c = 'T' || c = 't' || c = ' ' then (passTime more).bind passOffset else none
      | [] => none
    some (.datetime, after.getD rest)
  | none => (passTime cs).map fun rest => (.datetime, rest)

def isBareKeyChar (c : Char) : Bool := c.isAlphanum || c = '-' || c = '_'

/-- Reads one part of a key. -/
def readKeyPart : Reader String := fun cs =>
  match cs with
  | '"' :: rest =>
    (readBasic [] (rest.length + 1) rest).map fun (s, rest) => (String.ofList s, rest)
  | '\'' :: rest => (readLiteral rest).map fun (s, rest) => (String.ofList s, rest)
  | cs =>
    if (cs.takeWhile isBareKeyChar).isEmpty then none
    else some (String.ofList (cs.takeWhile isBareKeyChar), cs.dropWhile isBareKeyChar)

/-- Keys and values may nest this deep. -/
def depthLimit : Nat := 79

/-- Reads the parts of a key and passes the blanks around them. -/
def readKey : Nat → Reader (List String)
  | 0, _ => none
  | fuel + 1, cs => do
    let (part, rest) ← readKeyPart (dropBlanks cs)
    match dropBlanks rest with
    | '.' :: rest => do
      let (parts, rest) ← readKey fuel rest
      some (part :: parts, rest)
    | rest => some ([part], rest)

end Linting.Toml
