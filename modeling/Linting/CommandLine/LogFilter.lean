import Linting.Log
import Linting.Unicode.Character

/-! Which events are written to the log. A filter is a list of directives between commas; each names
a part of the program, a level, or both. Of those that apply to an event, the one with the longest
name decides. -/

namespace Linting

/-- A directive without a target applies to all of the program; one without a level turns logging
off. A directive that is tied to a span applies to nothing, as the program has no spans. -/
structure LogDirective where
  target : String
  level : Option LogLevel
  spanned : Bool
  deriving DecidableEq, Repr

structure LogFilter where
  directives : List LogDirective
  deriving DecidableEq, Repr

namespace LogFilter

/-- A number in decimal digits, which a plus sign may precede. -/
def number? (cs : List Char) : Option Nat :=
  let digits := match cs with
    | '+' :: rest => rest
    | cs => cs
  if digits ≠ [] ∧ digits.all Char.isDigit then some (Nat.ofDigitChars 10 digits 0) else none

/-- The least level that passes, or nothing for `off`. Levels have names and numbers. -/
def level? (cs : List Char) : Option (Option LogLevel) :=
  match number? cs with
  | some n => [none, some .error, some .warn, some .info, some .debug, some .trace][n]?
  | none =>
    match String.ofList (cs.map Char.toLower) with
    | "off" => some none
    | "error" | "" => some (some .error)
    | "warn" => some (some .warn)
    | "info" => some (some .info)
    | "debug" => some (some .debug)
    | "trace" => some (some .trace)
    | _ => none

def isTargetStart (c : Char) : Bool :=
  c = '-' || c = ':' || c = '_' || Unicode.isAlphanumeric c

/-- Reads the level behind an equals sign; without one everything passes. -/
def levelBehind? (cs : List Char) : Option (Option LogLevel) :=
  if cs.isEmpty then some (some .trace) else level? cs

/-- Passes over the fields of a span, up to the brace that closes them. None of them is empty. -/
def skipFields? (inField : Bool) : List Char → Option (List Char)
  | [] => none
  | '\x7d' :: rest => if inField then some rest else none
  | ',' :: rest => if inField then skipFields? false rest else none
  | _ :: rest => skipFields? true rest

/-- Passes over a span behind its opening bracket, up to the one that closes it. -/
def skipSpan? : List Char → Option (List Char)
  | [] => none
  | ']' :: rest => some rest
  | '\x7b' :: rest => do
    match ← skipFields? false rest with
    | ']' :: rest => some rest
    | _ => none
  | _ :: rest => skipSpan? rest

/-- Reads a directive that is tied to a span, behind the opening bracket. -/
def spanDirective? (target : List Char) (cs : List Char) : Option LogDirective := do
  match ← skipSpan? cs with
  | [] => some ⟨String.ofList target, some .trace, true⟩
  | '=' :: level => (levelBehind? level).map fun level => ⟨String.ofList target, level, true⟩
  | _ => none

def trim (cs : List Char) : List Char :=
  ((cs.dropWhile Unicode.isWhiteSpace).reverse.dropWhile Unicode.isWhiteSpace).reverse

/-- Reads a directive. What it is shows without the blanks around it, but its parts are cut from the
whole, so that blanks make no known level and no known part of the program. -/
def directive? (cs : List Char) : Option LogDirective :=
  match trim cs with
  | [] => none
  | '[' :: rest => spanDirective? [] rest
  | c :: rest =>
    if !isTargetStart c then none
    else
      let length := ((c :: rest).takeWhile fun c => c != '=' && c != '[').length
      match (c :: rest).drop length with
      | '=' :: _ =>
        (levelBehind? (cs.drop (length + 1))).map fun level =>
          ⟨String.ofList (cs.take length), level, false⟩
      | '[' :: rest => spanDirective? (cs.take length) rest
      | _ =>
        match level? cs with
        | some level => some ⟨"", level, false⟩
        | none => some ⟨String.ofList cs, some .trace, false⟩

def splitCommas (part : List Char) : List Char → List (List Char)
  | [] => [part.reverse]
  | c :: rest =>
    if c = ',' then part.reverse :: splitCommas [] rest else splitCommas (c :: part) rest

/-- Reads a filter; without directives errors pass. -/
def parse? (s : String) : Option LogFilter := do
  let parts := (splitCommas [] s.toList).filter fun part => !part.isEmpty
  let directives ← parts.mapM directive?
  some ⟨if directives.isEmpty then [⟨"", some .error, false⟩] else directives⟩

def appliesTo (d : LogDirective) (e : LogEvent) : Bool :=
  !d.spanned && d.target.toList.isPrefixOf e.target.toList

/-- The more specific of two directives; of two for one target the later. -/
def stronger (best : Option LogDirective) (d : LogDirective) : Option LogDirective :=
  match best with
  | some b => if d.target.length < b.target.length then some b else some d
  | none => some d

def passes (f : LogFilter) (e : LogEvent) : Bool :=
  match (f.directives.filter fun d => appliesTo d e).foldl stronger none with
  | some d => d.level.any fun level => level.rank ≤ e.level.rank
  | none => false

/-- The filter for the program's verbosity and the filter that its environment asks for. -/
def choose (verbose : Nat) (environment : Option String) : LogFilter :=
  match verbose with
  | 0 => (environment.bind parse?).getD ⟨[⟨"", some .warn, false⟩]⟩
  | 1 => ⟨[⟨"lintel", some .debug, false⟩]⟩
  | _ => ⟨[⟨"lintel", some .trace, false⟩]⟩

def render (f : LogFilter) (events : List LogEvent) : String :=
  String.join ((events.filter f.passes).map LogEvent.line)

end LogFilter

end Linting
