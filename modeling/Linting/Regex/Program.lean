import Linting.Regex.Node

/-! A pattern as a program: numbered instructions, each naming the ones that may follow it. The
order of two followers is the order of preference. -/

namespace Linting.Regex

inductive Instr
  | accept
  | set (members : Unicode.CodeSet) (next : Nat)
  | look (l : Look) (next : Nat)
  | split (first second : Nat)
  deriving Repr

structure Program where
  code : Array Instr
  entry : Nat
  deriving Repr

/-- Whether a match of the node may be empty. -/
def Node.mayBeEmpty : Node → Bool
  | empty => true
  | set members => members.isEmpty
  | look _ => true
  | capture body => body.mayBeEmpty
  | repetition min _ _ body => min = 0 || body.mayBeEmpty
  | sequence parts => allEmpty parts
  | choice branches => anyEmpty branches
where
  allEmpty : List Node → Bool
    | [] => true
    | part :: parts => part.mayBeEmpty && allEmpty parts
  anyEmpty : List Node → Bool
    | [] => false
    | branch :: branches => branch.mayBeEmpty || anyEmpty branches

/-- A split that prefers to go on with the body when greedy. -/
def Instr.prefer (greedy : Bool) (body next : Nat) : Instr :=
  if greedy then split body next else split next body

/-- Instructions written so far and where to start. -/
abbrev Emitter := Nat → Array Instr → Nat × Array Instr

def emit (i : Instr) (code : Array Instr) : Nat × Array Instr := (code.size, code.push i)

/-- `n` copies in a row. -/
def copies (body : Emitter) : Nat → Emitter
  | 0, next, code => (next, code)
  | n + 1, next, code =>
    let (after, code) := copies body n next code
    body after code

/-- At most `n` copies; each is entered only from the one before it, and all leave to `exit`. -/
def optionalCopies (body : Emitter) (greedy : Bool) (exit : Nat) : Nat → Array Instr →
    Nat × Array Instr
  | 0, code => (exit, code)
  | n + 1, code =>
    let (after, code) := optionalCopies body greedy exit n code
    let (start, code) := body after code
    emit (.prefer greedy start exit) code

/-- One copy or more: a split behind the body leads back to it. -/
def oneOrMore (body : Emitter) (greedy : Bool) : Emitter := fun next code =>
  let back := code.size
  let (start, code) := body back (code.push .accept)
  (start, code.setIfInBounds back (.prefer greedy start next))

/-- Any number of copies. A body that may match nothing is entered through a split of its own, so
that leaving the loop keeps its place in the order of preference. -/
def zeroOrMore (body : Emitter) (mayBeEmpty greedy : Bool) : Emitter := fun next code =>
  if mayBeEmpty then
    let (start, code) := oneOrMore body greedy next code
    emit (.prefer greedy start next) code
  else
    let back := code.size
    let (start, code) := body back (code.push .accept)
    (back, code.setIfInBounds back (.prefer greedy start next))

def repeatBody (body : Emitter) (mayBeEmpty greedy : Bool) (min : Nat) : Option Nat → Emitter
  | none => fun next code =>
    match min with
    | 0 => zeroOrMore body mayBeEmpty greedy next code
    | n + 1 =>
      let (start, code) := oneOrMore body greedy next code
      copies body n start code
  | some max => fun next code =>
    let (start, code) := optionalCopies body greedy next (max - min) code
    copies body min start code

/-- Writes the instructions of a node in front of `next`. -/
def Node.emit : Node → Emitter
  | empty, next, code => (next, code)
  | set members, next, code => Regex.emit (.set members next) code
  | look l, next, code => Regex.emit (.look l next) code
  | capture body, next, code => body.emit next code
  | repetition min max greedy body, next, code =>
    repeatBody body.emit body.mayBeEmpty greedy min max next code
  | sequence parts, next, code => emitAll parts next code
  | choice branches, next, code => emitAny branches next code
where
  emitAll : List Node → Emitter
    | [], next, code => (next, code)
    | part :: parts, next, code =>
      let (after, code) := emitAll parts next code
      part.emit after code
  emitAny : List Node → Emitter
    | [], next, code => (next, code)
    | [branch], next, code => branch.emit next code
    | branch :: branches, next, code =>
      let (second, code) := emitAny branches next code
      let (first, code) := branch.emit next code
      Regex.emit (.split first second) code

/-- A repetition of what takes no room happens at most once. -/
def Node.takesRoom : Node → Bool
  | empty => false
  | set _ => true
  | look _ => false
  | capture body => body.takesRoom
  | repetition _ max _ body => max != some 0 && body.takesRoom
  | sequence parts => anyTakes parts
  | choice branches => anyTakes branches
where
  anyTakes : List Node → Bool
    | [] => false
    | part :: parts => part.takesRoom || anyTakes parts

/-- Bounds the repetitions of what takes no room and drops those that change nothing. -/
def Node.simplify : Node → Node
  | capture body => capture body.simplify
  | repetition min max greedy body =>
    let (min, max) :=
      if body.takesRoom then (min, max)
      else (Nat.min min 1, some (Nat.min (max.getD 1) 1))
    if max = some 0 then empty
    else if min = 1 && max = some 1 then body.simplify
    else repetition min max greedy body.simplify
  | sequence parts => sequence (simplifyAll parts)
  | choice branches => choice (simplifyAll branches)
  | node => node
where
  simplifyAll : List Node → List Node
    | [] => []
    | part :: parts => part.simplify :: simplifyAll parts

def Node.toProgram (node : Node) : Program :=
  let (entry, code) := node.emit 0 #[.accept]
  ⟨code, entry⟩

end Linting.Regex
