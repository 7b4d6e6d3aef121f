import Linting.Regex.Program

/-! How much memory the byte automaton of a pattern takes. Patterns whose automaton, forward or
backward, exceeds a limit are refused before they are run. -/

namespace Linting.Regex

/-- Greatest code point that takes `n` bytes. -/
def maxOfWidth : Nat → Nat
  | 1 => 0x7F
  | 2 => 0x7FF
  | 3 => 0xFFFF
  | _ => 0x10FFFF

/-- The bytes of a code point. -/
def encodedBytes (n : Nat) : List Nat :=
  if n ≤ 0x7F then [n]
  else if n ≤ 0x7FF then [0xC0 + n / 64, 0x80 + n % 64]
  else if n ≤ 0xFFFF then [0xE0 + n / 4096, 0x80 + n / 64 % 64, 0x80 + n % 64]
  else [0xF0 + n / 262144, 0x80 + n / 4096 % 64, 0x80 + n / 64 % 64, 0x80 + n % 64]

/-- Where a run of code points has to be cut so that each part is a product of byte ranges: at the
surrogates, between widths, and where only some continuation bytes of a block belong to it. -/
def cutPoint (a b : Nat) : Option Nat :=
  if a < 0xE000 ∧ 0xD7FF < b then some 0xD7FF
  else
    match [1, 2, 3].find? fun w => a ≤ maxOfWidth w ∧ maxOfWidth w < b with
    | some w => some (maxOfWidth w)
    | none =>
      if b ≤ 0x7F then none
      else
        [1, 2, 3].findSome? fun i =>
          let block := Nat.pow 64 i
          if a / block = b / block then none
          else if a % block ≠ 0 then some (a / block * block + block - 1)
          else if b % block ≠ block - 1 then some (b / block * block - 1)
          else none

/-- The byte ranges of a run, one list for each part. Every cut leaves two smaller runs, and a run
needs few of them, so the fuel is not used up. -/
def byteSequences : Nat → Nat → Nat → List (List (Nat × Nat))
  | 0, _, _ => []
  | fuel + 1, a, b =>
    if b < a ∨ (0xD800 ≤ a ∧ b ≤ 0xDFFF) then []
    else
      match cutPoint a b with
      | some cut =>
        if cut = 0xD7FF ∧ a < 0xE000 ∧ 0xD7FF < b then
          byteSequences fuel a 0xD7FF ++ byteSequences fuel 0xE000 b
        else byteSequences fuel a cut ++ byteSequences fuel (cut + 1) b
      | none => [(encodedBytes a).zip (encodedBytes b)]

def sequencesOf (s : Unicode.CodeSet) : List (List (Nat × Nat)) :=
  s.ranges.toList.flatMap fun r => byteSequences 40 r.1 r.2

/-- States and heap bytes of an automaton. -/
structure Cost where
  states : Nat := 0
  heap : Nat := 0

namespace Cost

def add (a b : Cost) : Cost := ⟨a.states + b.states, a.heap + b.heap⟩

def times (n : Nat) (a : Cost) : Cost := ⟨n * a.states, n * a.heap⟩

/-- A state takes 32 bytes besides what it keeps on the heap. -/
def bytes (a : Cost) : Nat := 32 * a.states + a.heap

end Cost

/-- A node of the forward automaton of a set: its transitions, each with the state it leads to. -/
abbrev Transitions := List ((Nat × Nat) × Nat)

/-- Numbers a state, reusing the number of one that has the same transitions. -/
def internState (known : List (Transitions × Nat)) (t : Transitions) :
    List (Transitions × Nat) × Nat :=
  match known.find? fun entry => entry.1 == t with
  | some entry => (known, entry.2)
  | none => ((t, known.length + 1) :: known, known.length + 1)

/-- Groups sequences that start with the same byte range; they come in ascending order. -/
def groupByHead : List (List (Nat × Nat)) → List ((Nat × Nat) × List (List (Nat × Nat)))
  | [] => []
  | [] :: rest => groupByHead rest
  | (r :: tail) :: rest =>
    match groupByHead rest with
    | (r', tails) :: groups =>
      if r = r' then (r, tail :: tails) :: groups else (r, [tail]) :: (r', tails) :: groups
    | [] => [(r, [tail])]

/-- Builds the states for a set of sequences of at most `width` ranges, sharing equal ones. -/
def internSequences : Nat → List (Transitions × Nat) → List (List (Nat × Nat)) →
    List (Transitions × Nat) × Nat
  | 0, known, _ => (known, 0)
  | width + 1, known, sequences =>
    if sequences.all List.isEmpty then (known, 0)
    else
      let (known, transitions) := (groupByHead sequences).foldl
        (fun (known, transitions) (r, tails) =>
          let (known, target) := internSequences width known tails
          (known, transitions ++ [(r, target)]))
        (known, [])
      internState known transitions

/-- Distinct beginnings of the sequences. -/
def countPrefixes : Nat → List (List (Nat × Nat)) → Nat
  | 0, _ => 0
  | width + 1, sequences =>
    ((groupByHead sequences).map fun g => 1 + countPrefixes width g.2).sum

def setCost (backward : Bool) (s : Unicode.CodeSet) : Cost :=
  match s.ranges.toList with
  | [] => ⟨1, 0⟩
  | [(a, b)] => if a = b then ⟨(encodedBytes a).length, 0⟩ else rangesCost
  | _ => rangesCost
where
  rangesCost : Cost :=
    if s.isAscii then ⟨2, 8 * s.ranges.size⟩
    else
      let sequences := sequencesOf s
      if backward then ⟨2 + countPrefixes 4 sequences, 4 * sequences.length⟩
      else
        let known := (internSequences 4 [] sequences).1
        ⟨1 + known.length, 8 * known.foldl (fun n entry => n + entry.1.length) 0⟩

def repetitionCost (body : Cost) (mayBeEmpty : Bool) (min : Nat) (max : Option Nat) : Cost :=
  let union : Cost := ⟨1, 8⟩
  match min, max with
  | 0, none => if mayBeEmpty then (body.add (union.times 2)).add ⟨1, 0⟩ else body.add union
  | n, none => (body.times n).add union
  | 0, some 1 => (body.add union).add ⟨1, 0⟩
  | min, some max =>
    if min = max then body.times min
    else
      ((body.times min).add ((body.add union).times (max - min))).add
        ⟨if min = 0 then 2 else 1, 0⟩

def Node.cost (backward : Bool) : Node → Cost
  | empty => ⟨1, 0⟩
  | set members => setCost backward members
  | look _ => ⟨1, 0⟩
  | capture body => if backward then body.cost backward else (body.cost backward).add ⟨2, 0⟩
  | repetition min max _ body => repetitionCost (body.cost backward) body.mayBeEmpty min max
  | sequence parts => costAll backward parts
  | choice branches => (costAll backward branches).add ⟨2, 4 * branches.length⟩
where
  costAll (backward : Bool) : List Node → Cost
    | [] => ⟨0, 0⟩
    | part :: parts => (part.cost backward).add (costAll backward parts)

/-- Automata may take this many bytes. -/
def sizeLimit : Nat := 10485760

/-- Whether both automata fit; each has a few states besides those of the pattern. -/
def Node.fits (node : Node) : Bool :=
  ((node.cost false).add ⟨7, 32⟩).bytes ≤ sizeLimit &&
    ((node.cost true).add ⟨2, 0⟩).bytes ≤ sizeLimit

end Linting.Regex
