import Linting.Proofs.Linter.Locality
import Linting.Proofs.Regex.Words
import Mathlib.Data.List.Forall2

/-! Where a word occurs. The search goes on behind each hit, so it would miss a second occurrence
that starts inside the first. A word that never overlaps itself has none, and is found wherever it
occurs. -/

namespace Linting
open Text

/-- No end of the word is also its beginning. -/
def NeverOverlaps (word : List Char) : Prop :=
  ∀ k < word.length, 0 < k → ¬word.drop k <+: word

instance : DecidablePred NeverOverlaps := fun _ => Nat.decidableBallLT _ _

/-- The word occurs behind `n` characters or more, at this byte. The text starts at `offset`. -/
def OccursBehind (word cs : List Char) (n offset byte : Nat) : Prop :=
  ∃ pre post, cs = pre ++ word ++ post ∧ n ≤ pre.length ∧ byte = offset + byteLength pre

theorem occursBehind_iff {word cs : List Char} {byte : Nat} :
    OccursBehind word cs 0 0 byte ↔ ∃ pre, pre ++ word <+: cs ∧ byteLength pre = byte := by
  constructor
  · rintro ⟨pre, post, rfl, -, rfl⟩
    exact ⟨pre, ⟨post, rfl⟩, (Nat.zero_add _).symm⟩
  · rintro ⟨pre, ⟨post, rfl⟩, rfl⟩
    exact ⟨pre, post, rfl, Nat.zero_le _, (Nat.zero_add _).symm⟩

theorem occursBehind_nil {word : List Char} (hne : word ≠ []) (n offset byte : Nat) :
    ¬OccursBehind word [] n offset byte := by
  rintro ⟨pre, post, parts, -, -⟩
  simp [hne] at parts

theorem occursBehind_cons (word cs : List Char) (c : Char) (n offset byte : Nat) :
    OccursBehind word (c :: cs) (n + 1) offset byte ↔
      OccursBehind word cs n (offset + c.utf8Size) byte := by
  constructor
  · rintro ⟨pre, post, parts, far, rfl⟩
    cases pre with
    | nil => cases far
    | cons d pre =>
      obtain ⟨rfl, rest⟩ := List.cons.inj parts
      exact ⟨pre, post, rest, Nat.le_of_succ_le_succ far, by rw [byteLength_cons, Nat.add_assoc]⟩
  · rintro ⟨pre, post, rfl, far, rfl⟩
    exact ⟨c :: pre, post, rfl, Nat.succ_le_succ far, by rw [byteLength_cons, Nat.add_assoc]⟩

theorem occursBehind_zero (word cs : List Char) (offset byte : Nat) :
    OccursBehind word cs 0 offset byte ↔
      (word <+: cs ∧ byte = offset) ∨ OccursBehind word cs 1 offset byte := by
  constructor
  · rintro ⟨pre, post, rfl, -, rfl⟩
    cases pre with
    | nil => exact .inl ⟨⟨post, rfl⟩, rfl⟩
    | cons c pre => exact .inr ⟨c :: pre, post, rfl, Nat.succ_le_succ (Nat.zero_le _), rfl⟩
  · rintro (⟨⟨post, rfl⟩, rfl⟩ | ⟨pre, post, parts, -, here⟩)
    · exact ⟨[], post, rfl, Nat.le_refl _, rfl⟩
    · exact ⟨pre, post, parts, Nat.zero_le _, here⟩

/-- A second occurrence starts behind the first, whose rest it would begin with otherwise. -/
theorem NeverOverlaps.length_le {word pre post : List Char} (h : NeverOverlaps word)
    (first : word <+: pre ++ word ++ post) (hpre : 0 < pre.length) : word.length ≤ pre.length := by
  by_contra inside
  have short : pre.length < word.length := Nat.not_le.mp inside
  obtain ⟨more, parts⟩ := first
  have rest : word.drop pre.length ++ more = word ++ post := by
    have dropped := congrArg (List.drop pre.length) parts
    rwa [List.drop_append_of_le_length (Nat.le_of_lt short), List.append_assoc,
      List.drop_left] at dropped
  have ending : word.drop pre.length <+: word ++ post := ⟨more, rest⟩
  have length : (word.drop pre.length).length ≤ word.length := by
    rw [List.length_drop]
    exact Nat.sub_le _ _
  exact h _ short hpre
    (List.prefix_of_prefix_length_le ending (List.prefix_append word post) length)

theorem NeverOverlaps.occursBehind_iff {word cs : List Char} (h : NeverOverlaps word)
    (hne : word ≠ []) (first : word <+: cs) (offset byte : Nat) :
    OccursBehind word cs 1 offset byte ↔ OccursBehind word cs word.length offset byte := by
  constructor
  · rintro ⟨pre, post, rfl, far, here⟩
    exact ⟨pre, post, rfl, h.length_le first far, here⟩
  · rintro ⟨pre, post, parts, far, here⟩
    exact ⟨pre, post, parts, Nat.le_trans (List.length_pos_of_ne_nil hne) far, here⟩

namespace Builtin

/-- The induction follows the search: what it has skipped can be no start of an occurrence. -/
theorem mem_occurrences_iff {word : List Char} (hne : word ≠ []) (h : NeverOverlaps word)
    {offset skip byte : Nat} {cs : List Char} :
    byte ∈ occurrences word offset skip cs ↔ OccursBehind word cs skip offset byte := by
  induction cs generalizing offset skip with
  | nil => simp [occurrences, occursBehind_nil hne]
  | cons c cs ih =>
    cases skip with
    | succ n => rw [occurrences, ih, occursBehind_cons]
    | zero =>
      rw [occurrences, occursBehind_zero, ← List.isPrefixOf_iff_prefix]
      split
      · rename_i first
        have length : word.length = word.length - 1 + 1 :=
          (Nat.sub_add_cancel (List.length_pos_of_ne_nil hne)).symm
        rw [h.occursBehind_iff hne (List.isPrefixOf_iff_prefix.mp first), length,
          occursBehind_cons, ← ih, List.mem_cons]
        simp [first]
      · rename_i noPrefix
        rw [occursBehind_cons, ← ih]
        simp [noPrefix]

end Builtin

theorem Stretch.Precedes.byteLength_lt {s t : Stretch} (h : s.Precedes t) :
    byteLength s.front < byteLength t.front := by
  obtain ⟨⟨more, parts⟩, shorter⟩ := h
  have something : byteLength more ≠ 0 := by
    intro nothing
    rw [byteLength_eq_zero_iff] at nothing
    rw [← parts, nothing, List.append_nil] at shorter
    exact Nat.lt_irrefl _ shorter
  rw [← parts, byteLength_append]
  omega

namespace Builtin

theorem important_ne_nil : important ≠ [] := by decide

theorem important_neverOverlaps : NeverOverlaps important := by decide

/-- The word has no character with a meaning of its own in a pattern. -/
theorem compile_important :
    Regex.compile "!important" = .ok ⟨"!important", (Regex.Node.ofWord important).toProgram⟩ := rfl

theorem findAll_important {cs : List Char} {found : List Stretch}
    (hspans : (occurrences important 0 0 cs).map (fun offset => (offset, byteLength important)) =
      found.map Stretch.span) :
    (Regex.Node.ofWord important).toProgram.findAll cs =
      found.map fun s => ⟨byteLength s.front, byteLength s.text⟩ := by
  have matched := congrArg (List.map fun span => Regex.Match.mk span.1 span.2) hspans
  rw [List.map_map, List.map_map] at matched
  exact (Regex.findAll_of_readsFrom (Regex.readsFrom_toProgram important) important_ne_nil cs).trans
    matched

/-- Each place where `!important` stands is reported once, from the start of the text to the end. A
pattern that is this word is reported at the same places. -/
theorem importantRule_finds_every_occurrence (name : LinterName) (path : Path) {cs : List Char}
    (hlen : cs.length < 0xFFFFFFFF) :
    let d := Document.ofChars path cs
    ∃ offsets lints, importantRule name d = .reported lints ∧
      offsets.Pairwise (· < ·) ∧
      (∀ byte, byte ∈ offsets ↔ ∃ pre, pre ++ "!important".toList <+: cs ∧ byteLength pre = byte) ∧
      List.Forall₂ (fun byte l => ∃ pre, pre ++ "!important".toList <+: cs ∧
          byteLength pre = byte ∧ l.location.Tells pre "!important".toList ∧
          l.location.length = 10 ∧
          l = ⟨name, path, l.location, .warning, "!important should not be used"⟩)
        offsets lints ∧
      ∃ regex, Regex.compile "!important" = .ok regex ∧
        ∀ other message severity, ∃ matched,
          (PatternLinter.mk other regex message severity).run d = .reported matched ∧
          matched.map Lint.location = lints.map Lint.location := by
  intro d
  obtain ⟨found, hspans, hword, h⟩ := exists_occurrence_spans important cs
  have hoffsets : occurrences important 0 0 cs = found.map fun s => byteLength s.front := by
    have firsts := congrArg (List.map Prod.fst) hspans
    rw [List.map_map, List.map_map] at firsts
    exact (List.map_id _).symm.trans firsts
  refine ⟨occurrences important 0 0 cs, _,
    importantRule_eq_reported name path hlen hspans h.inside, ?_, fun byte => ?_, ?_,
    _, compile_important, fun other message severity => ⟨_,
      PatternLinter.run_eq_reported _ path hlen (findAll_important hspans) h.inside, ?_⟩⟩
  · rw [hoffsets, List.pairwise_map]
    exact h.ordered.imp Stretch.Precedes.byteLength_lt
  · rw [mem_occurrences_iff important_ne_nil important_neverOverlaps, occursBehind_iff]
    rfl
  · rw [hoffsets, List.forall₂_map_left_iff, List.forall₂_map_right_iff, List.forall₂_same]
    intro s hs
    have inside : s.front ++ important <+: cs := hword s hs ▸ h.inside s hs
    have location : s.location = .ofStretch s.front important := by
      rw [Stretch.location, hword s hs]
    rw [location]
    exact ⟨s.front, inside, rfl, Location.ofStretch_tells inside hlen, rfl, rfl⟩
  · rw [List.map_map, List.map_map]
    rfl

/-- Two occurrences that touch, and one behind a beginning of the word that breaks off. -/
theorem importantRule_finds_every_occurrence_touching :
    let cs := "é!important!important\r\n!importan!!important".toList
    let d := Document.ofChars (Path.ofString "a.scss") cs
    let places : List Location := [⟨1, 2, 10⟩, ⟨1, 12, 10⟩, ⟨2, 11, 10⟩]
    cs.length < 0xFFFFFFFF ∧
    ∃ lints, importantRule ⟨"ImportantRule", by decide +kernel⟩ d = .reported lints ∧
      lints.map Lint.location = places ∧
      ∃ regex matched, Regex.compile "!important" = .ok regex ∧
        (PatternLinter.mk ⟨"NoImportant", by decide +kernel⟩ regex "No" .error).run d =
          .reported matched ∧ matched.map Lint.location = places := by
  intro cs d places
  have short : cs.length < 0xFFFFFFFF := by decide
  obtain ⟨offsets, lints, reported, -, -, -, regex, compiled, pattern⟩ :=
    importantRule_finds_every_occurrence ⟨"ImportantRule", by decide +kernel⟩
      (Path.ofString "a.scss") short
  obtain ⟨matched, found, same⟩ := pattern ⟨"NoImportant", by decide +kernel⟩ "No" .error
  have computed : importantRule ⟨"ImportantRule", by decide +kernel⟩ d = .reported
      (places.map fun place => d.lint ⟨"ImportantRule", by decide +kernel⟩ place .warning
        "!important should not be used") := by decide +kernel
  cases reported.symm.trans computed
  exact ⟨short, _, reported, rfl, regex, matched, compiled, found, same⟩

end Builtin

end Linting
