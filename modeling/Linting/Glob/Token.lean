/-! The syntax of glob patterns. -/

namespace Linting.Glob

/-- A piece of a pattern. The three recursive pieces are `**` as the first, the last, or an inner
component of a path. -/
inductive Token
  | literal (c : Char)
  | any
  | zeroOrMore
  | recursivePrefix
  | recursiveSuffix
  | recursiveZeroOrMore
  | oneOf (negated : Bool) (ranges : List (Char × Char))
  | alternates (branches : List (List Token))

/-- Why a pattern cannot be read. -/
inductive Error
  | unclosedClass
  | invalidRange (first last : Char)
  | unopenedAlternates
  | unclosedAlternates
  | danglingEscape
  deriving DecidableEq, Repr

def Error.message : Error → String
  | unclosedClass => "unclosed character class; missing ']'"
  | invalidRange first last => s!"invalid range; '{first}' > '{last}'"
  | unopenedAlternates =>
    "unopened alternate group; missing '\x7b' (maybe escape '\x7d' with '[\x7d]'?)"
  | unclosedAlternates =>
    "unclosed alternate group; missing '\x7d' (maybe escape '\x7b' with '[\x7b]'?)"
  | danglingEscape => "dangling '\\'"

/-- The rules that differ between patterns of file filters and lines of ignore files: whether
wildcards stop at slashes, and whether a bracket that is never closed stands for itself. -/
structure Dialect where
  separatorIsLiteral : Bool
  allowsUnclosedClass : Bool
  deriving DecidableEq, Repr

/-- The dialect of file filters. -/
def Dialect.filter : Dialect := ⟨false, false⟩

/-- The dialect of ignore files. -/
def Dialect.ignoreFile : Dialect := ⟨true, true⟩

/-- A class between brackets as far as it has been read, the latest range first. -/
structure ClassReader where
  ranges : List (Char × Char)
  inRange : Bool

namespace ClassReader

/-- Adds a character, which ends a range when a hyphen has been read before it. -/
def add (r : ClassReader) (c : Char) : Except Error ClassReader :=
  match r.inRange, r.ranges with
  | true, (lo, _) :: rest =>
    if c < lo then .error (.invalidRange lo c) else .ok ⟨(lo, c) :: rest, false⟩
  | _, ranges => .ok ⟨(c, c) :: ranges, false⟩

/-- The ranges in order; a hyphen in front of the closing bracket stands for itself. -/
def finish (r : ClassReader) : List (Char × Char) :=
  (if r.inRange then ('-', '-') :: r.ranges else r.ranges).reverse

/-- Reads up to the closing bracket. A bracket or a hyphen at the start stands for itself. The
answer is `none` when the pattern ends before. -/
def read (first : Bool) (r : ClassReader) :
    List Char → Except Error (Option (List (Char × Char) × List Char))
  | [] => .ok none
  | c :: rest =>
    if c = ']' && !first then .ok (some (r.finish, rest))
    else if c = '-' && !first && !r.inRange then read false { r with inRange := true } rest
    else do read false (← r.add c) rest

end ClassReader

/-- Reads a class behind its opening bracket. -/
def readClass (cs : List Char) : Except Error (Option (Token × List Char)) := do
  let (negated, cs) := match cs with
    | '!' :: rest | '^' :: rest => (true, rest)
    | cs => (false, cs)
  match ← ClassReader.read true ⟨[], false⟩ cs with
  | some (ranges, rest) => .ok (some (.oneOf negated ranges, rest))
  | none => .ok none

/-- A pattern as far as it has been read. The current branch is backwards; `branches` are the
earlier branches of the innermost open group, `outer` what surrounds that group. -/
structure Builder where
  current : List Token
  branches : List (List Token)
  outer : List (List Token × List (List Token))

namespace Builder

def isInGroup (b : Builder) : Bool := !b.outer.isEmpty

def push (b : Builder) (tokens : List Token) : Builder :=
  { b with current := tokens.reverse ++ b.current }

def openGroup (b : Builder) : Builder := ⟨[], [], (b.current, b.branches) :: b.outer⟩

def nextBranch (b : Builder) : Builder := ⟨[], b.current.reverse :: b.branches, b.outer⟩

def closeGroup (b : Builder) : Except Error Builder :=
  match b.outer with
  | [] => .error .unopenedAlternates
  | (current, branches) :: outer =>
    .ok ⟨.alternates (b.current.reverse :: b.branches).reverse :: current, branches, outer⟩

/-- Puts a recursive piece behind a slash. It takes the place of the piece before it, which is that
slash, unless this is recursive already. -/
def pushRecursive (b : Builder) (token : Token) : Builder :=
  match b.current with
  | .recursivePrefix :: _ => b
  | .recursiveSuffix :: _ => b
  | _ :: before => { b with current := token :: before }
  | [] => { b with current := [token] }

/-- Reads on behind two stars; `before` is the character in front of them. They are special only as
a whole component of a path. -/
def twoStars (b : Builder) (before : Option Char) (rest : List Char) : Builder × List Char :=
  let plain := b.push [.zeroOrMore, .zeroOrMore]
  if b.current.isEmpty then
    match rest with
    | [] => (b.push [.recursivePrefix], [])
    | '/' :: more => (b.push [.recursivePrefix], more)
    | _ => (plain, rest)
  else if before != some '/' && !(b.isInGroup && (before = some ',' || before = some '\x7b')) then
    (plain, rest)
  else
    match rest with
    | [] => (b.pushRecursive .recursiveSuffix, [])
    | '/' :: more => (b.pushRecursive .recursiveZeroOrMore, more)
    | c :: _ =>
      if b.isInGroup && (c = ',' || c = '\x7d') then (b.pushRecursive .recursiveSuffix, rest)
      else (plain, rest)

end Builder

/-- The last character of what stands in front of `rest` in `cs`. -/
def lastBefore (cs rest : List Char) : Option Char := (cs.take (cs.length - rest.length)).getLast?

/-- Reads a pattern; `before` is the character in front of it. With `plainBrackets` opening brackets
stand for themselves. -/
def readTokens (dialect : Dialect) (plainBrackets : Bool) (before : Option Char) (b : Builder) :
    Nat → List Char → Except Error (List Token)
  | 0, _ | _, [] =>
    if b.isInGroup then .error .unclosedAlternates else .ok b.current.reverse
  | fuel + 1, c :: rest =>
    match c with
    | '?' => readTokens dialect plainBrackets (some c) (b.push [.any]) fuel rest
    | '*' =>
      match rest with
      | '*' :: more =>
        let (b, rest) := b.twoStars before more
        readTokens dialect plainBrackets (lastBefore (c :: '*' :: more) rest) b fuel rest
      | rest => readTokens dialect plainBrackets (some c) (b.push [.zeroOrMore]) fuel rest
    | '[' =>
      if plainBrackets then
        readTokens dialect plainBrackets (some c) (b.push [.literal c]) fuel rest
      else do
        match ← readClass rest with
        | some (token, after) => readTokens dialect false (some ']') (b.push [token]) fuel after
        | none =>
          if dialect.allowsUnclosedClass then
            readTokens dialect true (some c) (b.push [.literal c]) fuel rest
          else .error .unclosedClass
    | '\x7b' => readTokens dialect plainBrackets (some c) b.openGroup fuel rest
    | '\x7d' => do readTokens dialect plainBrackets (some c) (← b.closeGroup) fuel rest
    | ',' =>
      let b := if b.isInGroup then b.nextBranch else b.push [.literal c]
      readTokens dialect plainBrackets (some c) b fuel rest
    | '\\' =>
      match rest with
      | [] => .error .danglingEscape
      | d :: rest => readTokens dialect plainBrackets (some d) (b.push [.literal d]) fuel rest
    | c => readTokens dialect plainBrackets (some c) (b.push [.literal c]) fuel rest

/-- The pieces of a pattern. -/
def parse (dialect : Dialect) (pattern : String) : Except Error (List Token) :=
  readTokens dialect false none ⟨[], [], []⟩ (pattern.toList.length + 1) pattern.toList

end Linting.Glob
