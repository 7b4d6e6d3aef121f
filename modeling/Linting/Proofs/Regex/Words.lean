import Linting.Linter.Pattern
import Mathlib.Data.List.Infix

/-! Programs that read a word and nothing else. One instruction waits at a time, so running such a
program compares the text with the word, and its matches are the places that a search for the word
finds. -/

namespace Linting.Unicode.CodeSet

theorem contains_singleton (a b : Nat) : (singleton a).contains b = decide (b = a) := by
  have first : (singleton a).contains b = searchRuns #[(a, a)] b 0 1 := rfl
  rw [first, searchRuns]
  rcases Nat.lt_trichotomy b a with below | rfl | above
  · simp [searchRuns, below, Nat.ne_of_lt below]
  · simp
  · simp [searchRuns, above, Nat.not_lt_of_gt above, Nat.ne_of_gt above]

end Linting.Unicode.CodeSet

namespace Linting.Regex
open Unicode

/-- From instruction `i` on, the code reads the characters of a word one by one and accepts. -/
inductive ReadsFrom (code : Array Instr) : Nat → List Char → Prop
  | accept {i : Nat} (h : code[i]? = some .accept) : ReadsFrom code i []
  | char {i next : Nat} {c : Char} {word : List Char}
      (h : code[i]? = some (.set (.singleton c.toNat) next)) (rest : ReadsFrom code next word) :
      ReadsFrom code i (c :: word)

theorem ReadsFrom.push {code : Array Instr} {i : Nat} {word : List Char}
    (h : ReadsFrom code i word) (instr : Instr) : ReadsFrom (code.push instr) i word := by
  have kept {j : Nat} {other : Instr} (hj : code[j]? = some other) :
      (code.push instr)[j]? = some other := by
    obtain ⟨inside, _⟩ := Array.getElem?_eq_some_iff.mp hj
    rwa [Array.getElem?_push_lt inside, ← Array.getElem?_eq_getElem inside]
  induction h with
  | accept h => exact .accept (kept h)
  | char h _ ih => exact .char (kept h) ih

/-- The pattern that stands for a word. -/
def Node.ofWord (word : List Char) : Node := .sequence (word.map fun c => .set (.singleton c.toNat))

theorem readsFrom_emitAll {code : Array Instr} {next : Nat} (h : ReadsFrom code next [])
    (word : List Char) :
    let emitted := Node.emit.emitAll (word.map fun c => .set (.singleton c.toNat)) next code
    ReadsFrom emitted.2 emitted.1 word := by
  induction word with
  | nil => exact h
  | cons c word ih => exact .char Array.getElem?_push_size (ih.push _)

theorem readsFrom_toProgram (word : List Char) :
    ReadsFrom (Node.ofWord word).toProgram.code (Node.ofWord word).toProgram.entry word :=
  readsFrom_emitAll (.accept rfl) word

/-- No instruction was met in this round or a later one. -/
def MarkedBefore (round : Nat) (marks : Array Nat) : Prop := ∀ m ∈ marks, m < round

theorem MarkedBefore.set {round : Nat} {marks : Array Nat} (h : MarkedBefore round marks)
    (i : Nat) : MarkedBefore (round + 1) (marks.setIfInBounds i round) := by
  intro m hm
  rcases Array.mem_or_eq_of_mem_setIfInBounds hm with old | rfl
  · exact Nat.lt_succ_of_lt (h m old)
  · exact Nat.lt_succ_self _

variable {p : Program} {i : Nat} {word : List Char}

/-- An instruction that reads or accepts is the only one to wait. -/
theorem follow_of_readsFrom (h : ReadsFrom p.code i word) {round : Nat} {marks : Array Nat}
    (fresh : MarkedBefore round marks) (before : Option Char) (rest : List Char) :
    follow p before rest round p.fuel [i] ⟨#[], marks⟩ = ⟨#[i], marks.setIfInBounds i round⟩ := by
  have unmet : marks[i]? ≠ some round := by
    intro met
    exact Nat.lt_irrefl _ (fresh _ (Array.mem_of_getElem? met))
  have fuel : p.fuel = 3 * p.code.size + 1 + 1 + 1 := rfl
  rw [fuel, follow]
  cases h with
  | accept h => simp only [if_neg unmet, h, follow, Array.push_empty]
  | char h _ => simp only [if_neg unmet, h, follow, Array.push_empty]

theorem longest_of_no_waiting (p : Program) (marks : Array Nat) (round length : Nat)
    (best : Option Nat) (rest : List Char) :
    longest p ⟨#[], marks⟩ round length best rest = best := by
  cases rest <;> simp [longest, longest.accepts]

theorem advance_of_char {next : Nat} {d : Char}
    (h : p.code[i]? = some (.set (.singleton d.toNat) next)) (c : Char) (rest : List Char)
    (round : Nat) (marks : Array Nat) :
    advance p c rest round ⟨#[i], marks⟩ =
      (if c = d then follow p (some c) rest round p.fuel [next] ⟨#[], marks⟩ else ⟨#[], marks⟩,
        false) := by
  have same : decide (c.toNat = d.toNat) = decide (c = d) := by
    simp [Char.toNat_inj]
  simp only [advance, advance.go, h, CodeSet.contains_singleton, same, decide_eq_true_eq]
  split <;> rfl

/-- The induction is on the word: as long as the text goes on with it, one instruction waits. -/
theorem longest_of_readsFrom (h : ReadsFrom p.code i word) {round : Nat} {marks : Array Nat}
    (fresh : MarkedBefore round marks) (length : Nat) (best : Option Nat) (rest : List Char) :
    longest p ⟨#[i], marks⟩ round length best rest =
      if word <+: rest then some (length + word.length) else best := by
  induction h generalizing round marks length rest with
  | @accept i h =>
    rw [if_pos List.nil_prefix, List.length_nil, Nat.add_zero]
    cases rest with
    | nil => simp [longest, longest.accepts, h]
    | cons c rest =>
      have step : advance p c rest round ⟨#[i], marks⟩ = (⟨#[], marks⟩, true) := by
        simp only [advance, advance.go, h]
      simp only [longest, step]
      exact longest_of_no_waiting p marks _ _ _ rest
  | @char i next d word h following ih =>
    cases rest with
    | nil => simp [longest, longest.accepts, h]
    | cons c rest =>
      have waits : (#[i] : Array Nat).isEmpty = false := rfl
      simp only [longest, advance_of_char h, waits, Bool.false_eq_true, if_false]
      by_cases hc : c = d
      · subst hc
        have prefixes : (c :: word <+: c :: rest) ↔ word <+: rest := by simp
        have length : length + 1 + word.length = length + (c :: word).length := by
          rw [List.length_cons]
          omega
        rw [if_pos rfl, follow_of_readsFrom following fresh, ih (fresh.set next), length]
        simp only [prefixes]
      · have differs : ¬d :: word <+: c :: rest := fun h => hc (List.cons_prefix_cons.mp h).1.symm
        rw [if_neg hc, if_neg differs]
        exact longest_of_no_waiting p marks _ _ _ rest

theorem matchAt_of_readsFrom (h : ReadsFrom p.code p.entry word) (before : Option Char)
    (rest : List Char) :
    p.matchAt before rest = if word <+: rest then some word.length else none := by
  have fresh : MarkedBefore 1 (Array.replicate p.code.size 0) := by
    intro m hm
    rw [(Array.mem_replicate.mp hm).2]
    exact Nat.zero_lt_one
  rw [Program.matchAt, follow_of_readsFrom h fresh, longest_of_readsFrom h (fresh.set _),
    Nat.zero_add]

/-- Both searches go on behind what they found. -/
theorem matchesFrom_of_readsFrom (h : ReadsFrom p.code p.entry word) (hne : word ≠ [])
    (before : Option Char) (offset skip : Nat) (afterMatch : Bool) (rest : List Char) :
    p.matchesFrom before offset skip afterMatch rest =
      (Builtin.occurrences word offset skip rest).map fun o => ⟨o, Text.byteLength word⟩ := by
  induction rest generalizing before offset skip afterMatch with
  | nil =>
    cases skip with
    | succ n => rw [Program.matchesFrom, Builtin.occurrences, List.map_nil]
    | zero =>
      have nothing : p.matchAt before [] = none := by
        rw [matchAt_of_readsFrom h, if_neg (List.prefix_nil.not.mpr hne)]
      simp [Program.matchesFrom, nothing, Builtin.occurrences]
  | cons c rest ih =>
    cases skip with
    | succ n => rw [Program.matchesFrom, Builtin.occurrences, ih]
    | zero =>
      by_cases here : word <+: c :: rest
      · obtain ⟨n, hn⟩ := Nat.exists_eq_add_one.mpr (List.length_pos_of_ne_nil hne)
        have matched : p.matchAt before (c :: rest) = some (n + 1) := by
          rw [matchAt_of_readsFrom h, if_pos here, hn]
        have text : (c :: rest).take (n + 1) = word := by
          rw [← hn]
          exact (List.prefix_iff_eq_take.mp here).symm
        have isPrefix : word.isPrefixOf (c :: rest) = true := List.isPrefixOf_iff_prefix.mpr here
        have later := ih (some c) (offset + c.utf8Size) n true
        rw [Builtin.occurrences, if_pos isPrefix, List.map_cons, hn, Nat.add_sub_cancel, ← later]
        simp [Program.matchesFrom, matched, text]
      · have nothing : p.matchAt before (c :: rest) = none := by
          rw [matchAt_of_readsFrom h, if_neg here]
        have noPrefix : ¬word.isPrefixOf (c :: rest) = true :=
          List.isPrefixOf_iff_prefix.not.mpr here
        have later := ih (some c) (offset + c.utf8Size) 0 false
        rw [Builtin.occurrences, if_neg noPrefix, ← later]
        simp [Program.matchesFrom, nothing]

theorem findAll_of_readsFrom (h : ReadsFrom p.code p.entry word) (hne : word ≠ [])
    (cs : List Char) :
    p.findAll cs =
      (Builtin.occurrences word 0 0 cs).map fun o => ⟨o, Text.byteLength word⟩ :=
  matchesFrom_of_readsFrom h hne none 0 0 false cs

end Linting.Regex
