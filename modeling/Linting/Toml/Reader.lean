import Linting.Toml.Scalar
import Linting.Toml.Tree

/-! Reading TOML documents. -/

namespace Linting.Toml

/-- Passes blanks, newlines and comments. -/
def dropSpace : Nat → List Char → List Char
  | 0, cs => cs
  | fuel + 1, cs =>
    match readNewline? (dropComment cs) with
    | some rest => dropSpace fuel rest
    | none => dropBlanks cs

/-- Reads a boolean, a date, or a number. -/
def readPlain : Reader Value
  | 't' :: 'r' :: 'u' :: 'e' :: rest => some (.boolean true, rest)
  | 'f' :: 'a' :: 'l' :: 's' :: 'e' :: rest => some (.boolean false, rest)
  | cs => ((readDatetime cs).orElse fun _ => readFloat cs).orElse fun _ => readInteger cs

mutual

/-- Reads a value that holds at most `depth` levels of arrays and tables. -/
def readValue : Nat → Nat → Reader Value
  | 0, _, _ => none
  | fuel + 1, depth, cs =>
    match cs with
    | '[' :: rest =>
      match depth with
      | 0 => none
      | depth + 1 => do
        let (items, rest) ← readItems fuel depth rest
        some (.array false items, rest)
    | '\x7b' :: rest =>
      match depth with
      | 0 => none
      | depth + 1 =>
        match dropBlanks rest with
        | '\x7d' :: rest => some (.table [], rest)
        | rest => do
          let (entries, rest) ← readPairs fuel depth [] rest
          some (.table (entryValues entries), rest)
    | '"' :: _ | '\'' :: _ => do
      let (s, rest) ← readString cs
      some (.string (String.ofList s), rest)
    | cs => readPlain cs

/-- Reads the items of an array up to the closing bracket. -/
def readItems : Nat → Nat → Reader (List Value)
  | 0, _, _ => none
  | fuel + 1, depth, cs =>
    match dropSpace (cs.length + 1) cs with
    | ']' :: rest => some ([], rest)
    | cs => do
      let (item, rest) ← readValue fuel depth cs
      match dropSpace (rest.length + 1) rest with
      | ',' :: rest => do
        let (items, rest) ← readItems fuel depth rest
        some (item :: items, rest)
      | ']' :: rest => some ([item], rest)
      | _ => none

/-- Reads the entries of a table on one line up to the closing brace. -/
def readPairs : Nat → Nat → Entries → Reader Entries
  | 0, _, _, _ => none
  | fuel + 1, depth, entries, cs => do
    let (path, value, rest) ← readPair fuel depth cs
    let entries ← entries.assign value path
    match dropBlanks rest with
    | ',' :: rest => readPairs fuel depth entries rest
    | '\x7d' :: rest => some (entries, rest)
    | _ => none

/-- Reads a key, the equals sign and a value. -/
def readPair : Nat → Nat → List Char → Option (List String × Value × List Char)
  | 0, _, _ => none
  | fuel + 1, depth, cs => do
    let (path, rest) ← readKey (cs.length + 1) cs
    let rest ← expect '=' rest
    let (value, rest) ← readValue fuel depth (dropBlanks rest)
    if path.length ≤ depthLimit then some (path, value, rest) else none

end

/-- Reads the path of a header and passes what closes it. -/
def readHeader (close : List Char) (cs : List Char) : Option (List String × List Char) := do
  let (path, rest) ← readKey (cs.length + 1) cs
  if path.length ≤ depthLimit ∧ close.isPrefixOf rest then
    some (path, ← endLine? (rest.drop close.length))
  else none

/-- Reads the rest of a document whose last header named `header`. -/
def readLines : Nat → List String → Entries → List Char → Option Entries
  | 0, _, _, _ => none
  | fuel + 1, header, root, cs =>
    match dropComment cs with
    | [] => some root
    | '[' :: '[' :: rest => do
      let (path, rest) ← readHeader [']', ']'] rest
      let root ← root.updateAt (Entries.openElement (path.getLastD "")) path.dropLast
      readLines fuel path root rest
    | '[' :: rest => do
      let (path, rest) ← readHeader [']'] rest
      let root ← root.updateAt (Entries.openTable (path.getLastD "")) path.dropLast
      readLines fuel path root rest
    | cs =>
      match readNewline? cs with
      | some rest => readLines fuel header root rest
      | none => do
        let (path, value, rest) ← readPair (2 * cs.length + 2) depthLimit cs
        let root ← root.updateAt (Entries.assign value path) header
        readLines fuel header root (← endLine? rest)

/-- The entries of a document, or `none` when it is no TOML. A byte order mark in front is passed
over. -/
def readDocument (text : String) : Option (List (String × Value)) :=
  let cs := match text.toList with
    | '\uFEFF' :: rest => rest
    | cs => cs
  (readLines (cs.length + 1) [] [] cs).map entryValues

end Linting.Toml
