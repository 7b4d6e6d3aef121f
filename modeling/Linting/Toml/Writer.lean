import Linting.Toml.Value

/-! Writing TOML documents. Tables stand under headers, at most one level deep; everything else is
written on one line. A string is written in the plainest form that can hold it. -/

namespace Linting.Toml

/-- The length of the longest run of a character. -/
def longestRun (c : Char) (run : Nat) : List Char → Nat
  | [] => run
  | d :: rest => if d = c then longestRun c (run + 1) rest else max run (longestRun c 0 rest)

/-- Control characters that have to be escaped; tabs and newlines are not among them. -/
def isEscapedControl (c : Char) : Bool :=
  (c.toNat < 0x20 && c != '\t' && c != '\n') || c.toNat = 0x7F

/-- The ways to write a string. -/
inductive StringStyle
  | basic
  | literal
  | multilineBasic
  | multilineLiteral
  | escaped
  | multilineEscaped
  deriving DecidableEq, Repr

/-- The first way that can hold the string as it is, or else one with escapes. -/
def StringStyle.of (cs : List Char) : StringStyle :=
  let controls := cs.any isEscapedControl
  let newline := cs.contains '\n'
  if !controls && !cs.contains '\\' && !cs.contains '"' && !newline then basic
  else if !controls && !cs.contains '\'' && !newline then literal
  else if !controls && !cs.contains '\\' && longestRun '"' 0 cs ≤ 2 then multilineBasic
  else if !controls && longestRun '\'' 0 cs ≤ 2 then multilineLiteral
  else if newline then multilineEscaped
  else escaped

/-- The hexadecimal digits of a number below 256, in upper case. -/
def upperHex (n : Nat) : List Char :=
  [n / 16, n % 16].map fun d => ((Nat.toDigits 16 d).getLastD '0').toUpper

/-- How a character is written between double quotes; quotes apart. -/
def escapeChar (keepNewlines : Bool) (c : Char) : List Char :=
  match c with
  | '\x08' => ['\\', 'b']
  | '\t' => ['\\', 't']
  | '\n' => if keepNewlines then ['\n'] else ['\\', 'n']
  | '\x0c' => ['\\', 'f']
  | '\r' => ['\\', 'r']
  | '\\' => ['\\', '\\']
  | c => if isEscapedControl c then ['\\', 'u', '0', '0'] ++ upperHex c.toNat else [c]

/-- Writes a text between double quotes. Of quotes without an escape between them, at most `allowed`
stand in a row. -/
def escapeText (keepNewlines : Bool) (allowed run : Nat) : List Char → List Char
  | [] => []
  | c :: rest =>
    if c = '"' then
      if run < allowed then '"' :: escapeText keepNewlines allowed (run + 1) rest
      else '\\' :: '"' :: escapeText keepNewlines allowed 0 rest
    else escapeChar keepNewlines c ++ escapeText keepNewlines allowed 0 rest

/-- Puts a text between quotes. One with newlines starts on a line of its own. -/
def enclose (quotes : List Char) (newline : Bool) (cs : List Char) : List Char :=
  quotes ++ (if newline then ['\n'] else []) ++ cs ++ quotes

def renderString (s : String) : List Char :=
  let cs := s.toList
  let newline := cs.contains '\n'
  match StringStyle.of cs with
  | .basic | .escaped => enclose ['"'] false (escapeText false 0 0 cs)
  | .literal => enclose ['\''] false cs
  | .multilineBasic | .multilineEscaped =>
    enclose ['"', '"', '"'] newline (escapeText true 2 0 cs)
  | .multilineLiteral => enclose ['\'', '\'', '\''] newline cs

def isBareKey (s : String) : Bool :=
  !s.toList.isEmpty && s.toList.all fun c => c.isAlphanum || c = '-' || c = '_'

def renderKey (s : String) : List Char := if isBareKey s then s.toList else renderString s

/-- Puts a comma and a blank between texts. -/
def separate : List (List Char) → List Char
  | [] => []
  | [text] => text
  | text :: rest => text ++ ',' :: ' ' :: separate rest

mutual

/-- Writes a value on one line. -/
def renderValue : Value → List Char
  | .string s => renderString s
  | .integer n => (toString n).toList
  | .float text => (if text = "NaN" then "nan" else text).toList
  | .boolean b => (toString b).toList
  | .datetime => "1970-01-01".toList
  | .array _ items => '[' :: separate (renderItems items) ++ [']']
  | .table [] => "\x7b\x7d".toList
  | .table (entry :: rest) =>
    "\x7b ".toList ++ separate (renderEntries (entry :: rest)) ++ " \x7d".toList

def renderItems : List Value → List (List Char)
  | [] => []
  | item :: rest => renderValue item :: renderItems rest

def renderEntries : List (String × Value) → List (List Char)
  | [] => []
  | (key, value) :: rest =>
    (renderKey key ++ " = ".toList ++ renderValue value) :: renderEntries rest

end

/-- The lines of a table's entries. -/
def entryLines (entries : List (String × Value)) : List Char :=
  (renderEntries entries).flatMap (· ++ ['\n'])

/-- A part of a document: entries under a header, if they have one. -/
def sections : List (String × Value) → List (List Char)
  | [] => []
  | (key, .table entries) :: rest =>
    ('[' :: renderKey key ++ [']', '\n'] ++ entryLines entries) :: sections rest
  | (key, .array true tables) :: rest =>
    tables.map (fun table =>
      ['[', '['] ++ renderKey key ++ [']', ']', '\n'] ++
        match table with
        | .table entries => entryLines entries
        | _ => []) ++ sections rest
  | _ :: rest => sections rest

def hasHeader : Value → Bool
  | .table _ => true
  | .array ofTables _ => ofTables
  | _ => false

/-- Puts an empty line between the parts of a document. -/
def joinSections : List (List Char) → List Char
  | [] => []
  | [text] => text
  | text :: rest => text ++ '\n' :: joinSections rest

/-- Writes a document: what needs no header first, then the tables in order. -/
def render (entries : List (String × Value)) : String :=
  let plain := entries.filter fun entry => !hasHeader entry.2
  let parts := if plain.isEmpty then [] else [entryLines plain]
  String.ofList (joinSections (parts ++ sections entries))

end Linting.Toml
