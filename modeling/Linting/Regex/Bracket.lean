import Linting.Regex.Escape

/-! Reading bracketed classes such as `[^a-z&&[:alpha:]]`. Brackets nest; the open ones are kept on
a stack. -/

namespace Linting.Regex

/-- An open bracket: the items read since the last set operation, newest first, and what that
operation applies to. -/
structure OpenClass where
  negated : Bool
  items : List ClassItem
  pending : Option (SetOp × ClassItem)

namespace OpenClass

/-- All that stands before the current place, as one item. -/
def close (cls : OpenClass) : ClassItem :=
  match cls.pending with
  | none => .ofList cls.items.reverse
  | some (op, lhs) => .combine op lhs (.ofList cls.items.reverse)

def push (cls : OpenClass) (item : ClassItem) : OpenClass :=
  { cls with items := item :: cls.items }

def operate (cls : OpenClass) (op : SetOp) : OpenClass :=
  { cls with items := [], pending := some (op, cls.close) }

end OpenClass

/-- Takes the hyphens that stand first in a class for themselves. -/
def takeHyphens (spaced : Bool) : Nat → List ClassItem → List Char →
    Except Error (List ClassItem × List Char)
  | fuel + 1, items, '-' :: rest =>
    takeHyphens spaced fuel (.literal '-' false :: items) (skipBlanks spaced rest)
  | _, _, [] => .error .classUnclosed
  | _, items, rest => .ok (items, rest)

/-- Reads what follows an opening bracket: a negation, hyphens, and a closing bracket that stands
for itself because it comes first. -/
def openClass (spaced : Bool) (rest : List Char) : Except Error (OpenClass × List Char) := do
  let (negated, rest) ←
    match skipBlanks spaced rest with
    | [] => .error .classUnclosed
    | '^' :: rest => .ok (true, skipBlanks spaced rest)
    | rest => .ok (false, rest)
  let (items, rest) ← takeHyphens spaced (rest.length + 1) [] rest
  match items, rest with
  | [], ']' :: rest =>
    match skipBlanks spaced rest with
    | [] => .error .classUnclosed
    | rest => .ok (⟨negated, [.literal ']' false], none⟩, rest)
  | items, rest => .ok (⟨negated, items, none⟩, rest)

def asciiClass? : String → Option AsciiClass
  | "alnum" => some .alnum
  | "alpha" => some .alpha
  | "ascii" => some .ascii
  | "blank" => some .blank
  | "cntrl" => some .cntrl
  | "digit" => some .digit
  | "graph" => some .graph
  | "lower" => some .lower
  | "print" => some .print
  | "punct" => some .punct
  | "space" => some .space
  | "upper" => some .upper
  | "word" => some .word
  | "xdigit" => some .xdigit
  | _ => none

/-- Reads `:name:]` or `:^name:]`, if that is what follows an opening bracket. -/
def readAsciiClass? : List Char → Option (ClassItem × List Char)
  | ':' :: rest =>
    let (negated, rest) := match rest with
      | '^' :: rest => (true, rest)
      | rest => (false, rest)
    match rest.dropWhile (· != ':') with
    | ':' :: ']' :: after =>
      (asciiClass? (String.ofList (rest.takeWhile (· != ':')))).map fun cls =>
        (.ascii cls negated, after)
    | _ => none
  | _ => none

/-- Reads one member of a class or one end of a range. -/
def readMember (spaced : Bool) : List Char → Except Error (Primitive × List Char)
  | '\\' :: rest => readEscape spaced rest
  | c :: rest => .ok (.literal c false, rest)
  | [] => .error .classUnclosed

def Primitive.toItem : Primitive → Except Error ClassItem
  | literal c byte => .ok (.literal c byte)
  | perl cls negated => .ok (.perl cls negated)
  | unicode query negated => .ok (.unicode query negated)
  | _ => .error .classEscapeInvalid

def Primitive.toBoundary : Primitive → Except Error (Char × Bool)
  | literal c byte => .ok (c, byte)
  | _ => .error .classRangeBoundary

/-- Reads a member or a range. A hyphen before the closing bracket or before another hyphen does
not make a range. -/
def readRange (spaced : Bool) (rest : List Char) : Except Error (ClassItem × List Char) := do
  let (first, rest) ← readMember spaced rest
  match skipBlanks spaced rest with
  | [] => .error .classUnclosed
  | '-' :: after =>
    match skipBlanks spaced after with
    | ']' :: _ | '-' :: _ => .ok (← first.toItem, '-' :: after)
    | [] => .error .classUnclosed
    | after =>
      let (final, rest) ← readMember spaced after
      let (a, aByte) ← first.toBoundary
      let (b, bByte) ← final.toBoundary
      if b < a then .error .classRangeInvalid else .ok (.range a aByte b bByte, rest)
  | rest => .ok (← first.toItem, rest)

/-- A class being read: the innermost open bracket, those around it, and the text that follows. -/
structure ClassReader where
  current : OpenClass
  outer : List OpenClass
  rest : List Char

/-- Reads on by one item, bracket or operator; the finished class when the last bracket closes. -/
def ClassReader.step (spaced : Bool) (r : ClassReader) :
    Except Error (ClassReader ⊕ (Ast × List Char)) :=
  match skipBlanks spaced r.rest with
  | [] => .error .classUnclosed
  | '[' :: rest =>
    match readAsciiClass? rest with
    | some (item, rest) => .ok (.inl { r with current := r.current.push item, rest })
    | none => do
      let (cls, rest) ← openClass spaced rest
      .ok (.inl ⟨cls, r.current :: r.outer, rest⟩)
  | ']' :: rest =>
    match r.outer with
    | [] => .ok (.inr (.bracketed r.current.negated r.current.close, rest))
    | cls :: outer =>
      .ok (.inl ⟨cls.push (.bracketed r.current.negated r.current.close), outer, rest⟩)
  | '&' :: '&' :: rest => .ok (.inl { r with current := r.current.operate .intersection, rest })
  | '-' :: '-' :: rest => .ok (.inl { r with current := r.current.operate .difference, rest })
  | '~' :: '~' :: rest =>
    .ok (.inl { r with current := r.current.operate .symmetricDifference, rest })
  | rest => do
    let (item, rest) ← readRange spaced rest
    .ok (.inl { r with current := r.current.push item, rest })

/-- Every step reads a character, so the length of the text bounds their number. -/
def ClassReader.run (spaced : Bool) : Nat → ClassReader → Except Error (Ast × List Char)
  | 0, _ => .error .classUnclosed
  | fuel + 1, r => do
    match ← r.step spaced with
    | .inl r => ClassReader.run spaced fuel r
    | .inr done => .ok done

/-- Reads a class; the text is past its opening bracket. -/
def readClass (spaced : Bool) (rest : List Char) : Except Error (Ast × List Char) := do
  let (cls, rest) ← openClass spaced rest
  ClassReader.run spaced (rest.length + 1) ⟨cls, [], rest⟩

end Linting.Regex
