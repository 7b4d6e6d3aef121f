import Linting.Glob
import Linting.Unicode.Character

/-! Lines of ignore files. The last rule of a file that matches decides. -/

namespace Linting

/-- A rule ignores what it matches or, as an exception, keeps it. -/
structure IgnoreRule where
  glob : Glob
  isException : Bool
  onlyDirectories : Bool

/-- What a file with rules says about a path. -/
inductive Verdict
  | ignored
  | kept
  deriving DecidableEq, Repr

namespace IgnoreRule

/-- The rule in the words of the line: whether it is an exception, whether it is for directories
only, and its pattern. -/
structure Line where
  isException : Bool
  onlyDirectories : Bool
  pattern : List Char
  deriving DecidableEq, Repr

/-- A line without the white space at its end, unless that is escaped. -/
def trimLine (line : List Char) : List Char :=
  if [' ', '\\'].isPrefixOf line.reverse then line
  else (line.reverse.dropWhile Unicode.isWhiteSpace).reverse

/-- Drops a slash at the end, and the backslash in front of it. -/
def dropFinalSlash (line : List Char) : Bool × List Char :=
  match line.reverse with
  | '/' :: '\\' :: rest => (true, rest.reverse)
  | '/' :: rest => (true, rest.reverse)
  | _ => (false, line)

def endsWith (suffix line : List Char) : Bool := suffix.reverse.isPrefixOf line.reverse

/-- A pattern without a slash matches in every directory, and one that ends in two stars matches
what is in a directory but not the directory. -/
def expand (anchored : Bool) (pattern : List Char) : List Char :=
  let everywhere := !anchored && !pattern.contains '/' && pattern != ['*', '*']
  let pattern := if everywhere then ['*', '*', '/'] ++ pattern else pattern
  if endsWith ['/', '*', '*'] pattern then pattern ++ ['/', '*'] else pattern

/-- Takes a line apart; `none` for comments and empty lines. -/
def splitLine? (line : List Char) : Option Line :=
  if line.head? = some '#' then none
  else
    match trimLine line with
    | [] => none
    | '\\' :: '!' :: rest => some (finish false false ('!' :: rest))
    | '\\' :: '#' :: rest => some (finish false false ('#' :: rest))
    | '!' :: '/' :: rest => some (finish true true rest)
    | '!' :: rest => some (finish true false rest)
    | '/' :: rest => some (finish false true rest)
    | rest => some (finish false false rest)
where
  finish (isException anchored : Bool) (rest : List Char) : Line :=
    let (onlyDirectories, rest) := dropFinalSlash rest
    ⟨isException, onlyDirectories, expand anchored rest⟩

/-- Reads a line; `none` for comments and empty lines. -/
def ofLine? (line : List Char) : Except Glob.Error (Option IgnoreRule) :=
  match splitLine? line with
  | none => .ok none
  | some l =>
    (Glob.compile (String.ofList l.pattern) .ignoreFile).map fun glob =>
      some ⟨glob, l.isException, l.onlyDirectories⟩

def isMatch (r : IgnoreRule) (relative : List UInt8) (isDir : Bool) : Bool :=
  (!r.onlyDirectories || isDir) && r.glob.isMatch relative

/-- What rules say about a path relative to the directory of their file. -/
def verdict? (rules : List IgnoreRule) (relative : List UInt8) (isDir : Bool) : Option Verdict :=
  (rules.reverse.find? fun r => r.isMatch relative isDir).map fun r =>
    if r.isException then .kept else .ignored

end IgnoreRule

end Linting
