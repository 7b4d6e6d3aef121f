import Linting.Json.Value
import Linting.Decimal.Shortest

/-! Reading JSON text. -/

namespace Linting.Json

abbrev Reader (α : Type) := List Char → Option (α × List Char)

def isSpace (c : Char) : Bool := c = ' ' || c = '\t' || c = '\n' || c = '\r'

def dropSpace (cs : List Char) : List Char := cs.dropWhile isSpace

def hexValue? (c : Char) : Option Nat :=
  if c.isDigit then some (c.toNat - '0'.toNat)
  else if 'a' ≤ c ∧ c ≤ 'f' then some (c.toNat - 'a'.toNat + 10)
  else if 'A' ≤ c ∧ c ≤ 'F' then some (c.toNat - 'A'.toNat + 10)
  else none

/-- Reads the four digits of an escape. -/
def readUnit : Reader Nat
  | a :: b :: c :: d :: rest => do
    let a ← hexValue? a
    let b ← hexValue? b
    let c ← hexValue? c
    let d ← hexValue? d
    some (((a * 16 + b) * 16 + c) * 16 + d, rest)
  | _ => none

/-- Reads a character written as one escape or, beyond the first 65536, as two. -/
def readCode : Reader Char := fun cs => do
  let (unit, rest) ← readUnit cs
  if 0xD800 ≤ unit ∧ unit < 0xDC00 then
    match rest with
    | '\\' :: 'u' :: rest => do
      let (low, rest) ← readUnit rest
      if 0xDC00 ≤ low ∧ low < 0xE000 then
        some (Char.ofNat (0x10000 + (unit - 0xD800) * 0x400 + (low - 0xDC00)), rest)
      else none
    | _ => none
  else if 0xDC00 ≤ unit ∧ unit < 0xE000 then none
  else some (Char.ofNat unit, rest)

/-- Reads an escape behind its backslash. -/
def readEscape : Reader Char
  | '"' :: rest => some ('"', rest)
  | '\\' :: rest => some ('\\', rest)
  | '/' :: rest => some ('/', rest)
  | 'b' :: rest => some ('\x08', rest)
  | 'f' :: rest => some ('\x0c', rest)
  | 'n' :: rest => some ('\n', rest)
  | 'r' :: rest => some ('\r', rest)
  | 't' :: rest => some ('\t', rest)
  | 'u' :: rest => readCode rest
  | _ => none

/-- Reads a string up to its closing quote. -/
def readString (acc : List Char) : Nat → Reader (List Char)
  | 0, _ | _, [] => none
  | fuel + 1, c :: rest =>
    match c with
    | '"' => some (acc.reverse, rest)
    | '\\' => do
      let (c, rest) ← readEscape rest
      readString (c :: acc) fuel rest
    | c => if c.toNat < 0x20 then none else readString (c :: acc) fuel rest

def readDigits (cs : List Char) : Option (List Char × List Char) :=
  if (cs.takeWhile Char.isDigit).isEmpty then none
  else some (cs.takeWhile Char.isDigit, cs.dropWhile Char.isDigit)

def natOf (digits : List Char) : Nat :=
  digits.foldl (fun n c => n * 10 + (c.toNat - '0'.toNat)) 0

def readFraction : List Char → Option (List Char × List Char)
  | '.' :: rest => readDigits rest
  | rest => some ([], rest)

def readExponent : Reader (Option Int)
  | 'e' :: rest | 'E' :: rest =>
    match rest with
    | '-' :: rest => do
      let (digits, rest) ← readDigits rest
      some (some (-(natOf digits)), rest)
    | '+' :: rest | rest => do
      let (digits, rest) ← readDigits rest
      some (some (natOf digits), rest)
  | rest => some (none, rest)

/-- An integer of at most 64 bits keeps its value; any other number is a float. -/
def number (negative : Bool) (whole places : List Char) (exponent : Option Int) : Json :=
  let n : Int := if negative then -(natOf whole) else natOf whole
  if places.isEmpty ∧ exponent = none ∧ -0x8000000000000000 ≤ n ∧ n ≤ 0xFFFFFFFFFFFFFFFF ∧
      !(negative && n = 0) then
    .integer n
  else
    let x := Decimal.toFloat (natOf (whole ++ places)) (exponent.getD 0 - places.length)
    .float (Decimal.floatText (if negative then -x else x))

def readNumber : Reader Json := fun cs => do
  let (negative, cs) := match cs with
    | '-' :: rest => (true, rest)
    | cs => (false, cs)
  let (whole, rest) ← match cs with
    | '0' :: rest => some (['0'], rest)
    | cs => readDigits cs
  let (places, rest) ← readFraction rest
  let (exponent, rest) ← readExponent rest
  some (number negative whole places exponent, rest)

mutual

def readValue : Nat → Reader Json
  | 0, _ | _, [] => none
  | fuel + 1, c :: rest =>
    match c with
    | 'n' => if "ull".toList.isPrefixOf rest then some (.null, rest.drop 3) else none
    | 't' => if "rue".toList.isPrefixOf rest then some (.boolean true, rest.drop 3) else none
    | 'f' => if "alse".toList.isPrefixOf rest then some (.boolean false, rest.drop 4) else none
    | '"' => do
      let (s, rest) ← readString [] (rest.length + 1) rest
      some (.string (String.ofList s), rest)
    | '[' =>
      match dropSpace rest with
      | ']' :: rest => some (.array [], rest)
      | rest => do
        let (items, rest) ← readItems fuel rest
        some (.array items, rest)
    | '\x7b' =>
      match dropSpace rest with
      | '\x7d' :: rest => some (.object [], rest)
      | rest => do
        let (fields, rest) ← readFields fuel rest
        some (.object fields, rest)
    | c => readNumber (c :: rest)

def readItems : Nat → Reader (List Json)
  | 0, _ => none
  | fuel + 1, cs => do
    let (item, rest) ← readValue fuel (dropSpace cs)
    match dropSpace rest with
    | ',' :: rest => do
      let (items, rest) ← readItems fuel rest
      some (item :: items, rest)
    | ']' :: rest => some ([item], rest)
    | _ => none

def readFields : Nat → Reader (List (String × Json))
  | 0, _ => none
  | fuel + 1, cs =>
    match dropSpace cs with
    | '"' :: rest => do
      let (name, rest) ← readString [] (rest.length + 1) rest
      match dropSpace rest with
      | ':' :: rest => do
        let (value, rest) ← readValue fuel (dropSpace rest)
        let field := (String.ofList name, value)
        match dropSpace rest with
        | ',' :: rest => do
          let (fields, rest) ← readFields fuel rest
          some (field :: fields, rest)
        | '\x7d' :: rest => some ([field], rest)
        | _ => none
      | _ => none
    | _ => none

end

/-- Reads a text that holds one value. -/
def parse? (text : String) : Option Json := do
  let cs := dropSpace text.toList
  let (value, rest) ← readValue (cs.length + 1) cs
  if (dropSpace rest).isEmpty then some value else none

end Linting.Json
