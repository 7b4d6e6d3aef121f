import Linting.Linter.Pattern
import Linting.Proofs.Document.Stretches

/-! What the searching linters find. Looking for a word and matching an expression both pass over a
text from left to right, so what they find are stretches of it, each starting behind the one before.
The spans of stretches always have locations. -/

namespace Linting
open Text

/-- A stretch of a text, with the text in front of it. -/
structure Stretch where
  front : List Char
  text : List Char

namespace Stretch

def IsIn (s : Stretch) (cs : List Char) : Prop := s.front ++ s.text <+: cs

/-- Whether `t` starts further on than `s`. -/
def Precedes (s t : Stretch) : Prop := s.front <+: t.front ∧ s.front.length < t.front.length

/-- The byte offset and the number of bytes. -/
def span (s : Stretch) : Nat × Nat := (byteLength s.front, byteLength s.text)

def location (s : Stretch) : Location := .ofStretch s.front s.text

/-- A search in `cs` that has passed `pre` finds these stretches. -/
structure Found (pre cs : List Char) (found : List Stretch) : Prop where
  inside : ∀ s ∈ found, s.IsIn cs
  behind : ∀ s ∈ found, pre <+: s.front
  ordered : found.Pairwise Precedes

theorem Found.nil (pre cs : List Char) : Found pre cs [] where
  inside := by simp
  behind := by simp
  ordered := .nil

theorem Found.pass {pre cs : List Char} {c : Char} {found : List Stretch}
    (h : Found (pre ++ [c]) cs found) : Found pre cs found where
  inside := h.inside
  behind s hs := (List.prefix_append pre [c]).trans (h.behind s hs)
  ordered := h.ordered

theorem Found.add {pre text cs : List Char} {c : Char} {found : List Stretch}
    (h : Found (pre ++ [c]) cs found) (hin : pre ++ text <+: cs) :
    Found pre cs (⟨pre, text⟩ :: found) where
  inside := List.forall_mem_cons.mpr ⟨hin, h.inside⟩
  behind := List.forall_mem_cons.mpr ⟨List.prefix_rfl, h.pass.behind⟩
  ordered := by
    refine List.pairwise_cons.mpr ⟨fun s hs => ⟨h.pass.behind s hs, ?_⟩, h.ordered⟩
    have longer := (h.behind s hs).length_le
    rw [List.length_append, List.length_singleton] at longer
    exact longer

theorem Found.single {pre front text cs : List Char} (hpre : pre <+: front)
    (hin : front ++ text <+: cs) : Found pre cs [⟨front, text⟩] where
  inside := by simpa [IsIn] using hin
  behind := by simpa using hpre
  ordered := List.pairwise_singleton _ _

end Stretch

namespace Builtin
open Stretch

/-- Stretches have locations, so their spans are all reported. -/
theorem lintSpans_eq_reported (path : Path) (name : LinterName) (severity : Severity)
    (message : String) {cs : List Char} (hlen : cs.length < 0xFFFFFFFF) {found : List Stretch}
    (h : ∀ s ∈ found, s.IsIn cs) :
    lintSpans (.ofChars path cs) name severity message (found.map span) =
      .reported (found.map fun s => ⟨name, path, s.location, severity, message⟩) := by
  have located : (found.map span).mapM
      (fun span => (Document.ofChars path cs).locationOf span.1 span.2) =
        some (found.map location) := by
    induction found with
    | nil => rfl
    | cons s found ih =>
      obtain ⟨hs, hfound⟩ := List.forall_mem_cons.mp h
      have first := Document.locationOf_stretch path hs hlen
      rw [List.map_cons, List.mapM_cons, span, first, ih hfound]
      rfl
  rw [lintSpans, located]
  simp only [List.map_map]
  rfl

theorem exists_occurrences (word pre rest : List Char) (skip : Nat) :
    ∃ found, occurrences word (byteLength pre) skip rest =
        found.map (fun s => byteLength s.front) ∧
      (∀ s ∈ found, s.text = word) ∧ Stretch.Found pre (pre ++ rest) found := by
  -- what the search has passed moves over to `pre` one character at a time
  induction rest generalizing pre skip with
  | nil => exact ⟨[], rfl, by simp, .nil _ _⟩
  | cons c rest ih =>
    have passed : byteLength pre + c.utf8Size = byteLength (pre ++ [c]) := by simp
    have whole : pre ++ c :: rest = pre ++ [c] ++ rest := by simp
    cases skip with
    | succ n =>
      obtain ⟨found, hfound, hword, h⟩ := ih (pre ++ [c]) n
      rw [occurrences, passed, whole]
      exact ⟨found, hfound, hword, h.pass⟩
    | zero =>
      rw [occurrences, passed]
      split
      · rename_i hprefix
        obtain ⟨found, hfound, hword, h⟩ := ih (pre ++ [c]) (word.length - 1)
        refine ⟨⟨pre, word⟩ :: found, by rw [hfound, List.map_cons],
          List.forall_mem_cons.mpr ⟨rfl, hword⟩, ?_⟩
        have here : pre ++ word <+: pre ++ c :: rest :=
          (List.prefix_append_right_inj pre).mpr (List.isPrefixOf_iff_prefix.mp hprefix)
        rw [whole] at here ⊢
        exact h.add here
      · obtain ⟨found, hfound, hword, h⟩ := ih (pre ++ [c]) 0
        rw [whole]
        exact ⟨found, hfound, hword, h.pass⟩

end Builtin

namespace Regex

theorem matchesFrom_nil_cases (p : Program) (before : Option Char) (offset skip : Nat)
    (afterMatch : Bool) :
    p.matchesFrom before offset skip afterMatch [] = [] ∨
      p.matchesFrom before offset skip afterMatch [] = [⟨offset, 0⟩] := by
  cases skip with
  | succ n => exact .inl (by rw [Program.matchesFrom])
  | zero =>
    cases h : p.matchAt before [] with
    | none => exact .inl (by simp [Program.matchesFrom, h])
    | some n =>
      cases n with
      | zero => cases afterMatch <;> simp [Program.matchesFrom, h]
      | succ n => exact .inl (by simp [Program.matchesFrom, h])

/-- A search may find something where it stands, and then it passes one character. -/
theorem matchesFrom_cons_cases (p : Program) (before : Option Char) (offset skip : Nat)
    (afterMatch : Bool) (c : Char) (cs : List Char) :
    ∃ skip' afterMatch',
      p.matchesFrom before offset skip afterMatch (c :: cs) =
        p.matchesFrom (some c) (offset + c.utf8Size) skip' afterMatch' cs ∨
      ∃ text, text <+: c :: cs ∧ p.matchesFrom before offset skip afterMatch (c :: cs) =
        ⟨offset, byteLength text⟩ ::
          p.matchesFrom (some c) (offset + c.utf8Size) skip' afterMatch' cs := by
  cases skip with
  | succ n => exact ⟨n, true, .inl (by rw [Program.matchesFrom])⟩
  | zero =>
    cases h : p.matchAt before (c :: cs) with
    | none => exact ⟨0, false, .inl (by simp [Program.matchesFrom, h])⟩
    | some n =>
      cases n with
      | zero =>
        cases afterMatch with
        | true => exact ⟨0, false, .inl (by simp [Program.matchesFrom, h])⟩
        | false =>
          exact ⟨0, false, .inr ⟨[], List.nil_prefix, by simp [Program.matchesFrom, h]⟩⟩
      | succ n =>
        exact ⟨n, true, .inr ⟨_, List.take_prefix (n + 1) (c :: cs), by
          simp [Program.matchesFrom, h]⟩⟩

/-- What the matches of a program stand for, whatever the program matches at each place. -/
theorem exists_matchesFrom (p : Program) (before : Option Char) (pre rest : List Char)
    (skip : Nat) (afterMatch : Bool) :
    ∃ found, p.matchesFrom before (byteLength pre) skip afterMatch rest =
        found.map (fun s => ⟨byteLength s.front, byteLength s.text⟩) ∧
      Stretch.Found pre (pre ++ rest) found := by
  induction rest generalizing before pre skip afterMatch with
  | nil =>
    rcases matchesFrom_nil_cases p before (byteLength pre) skip afterMatch with h | h
    · exact ⟨[], h, .nil _ _⟩
    · exact ⟨[⟨pre, []⟩], h, .single List.prefix_rfl List.prefix_rfl⟩
  | cons c cs ih =>
    have passed : byteLength pre + c.utf8Size = byteLength (pre ++ [c]) := by simp
    have whole : pre ++ c :: cs = pre ++ [c] ++ cs := by simp
    obtain ⟨skip', afterMatch', h⟩ :=
      matchesFrom_cons_cases p before (byteLength pre) skip afterMatch c cs
    rw [passed] at h
    obtain ⟨found, hfound, hlater⟩ := ih (some c) (pre ++ [c]) skip' afterMatch'
    rw [hfound] at h
    -- nothing is found here, or a stretch in front of all that are found later
    rcases h with h | ⟨text, htext, h⟩
    · exact ⟨found, h, whole ▸ hlater.pass⟩
    · have here := (List.prefix_append_right_inj pre).mpr htext
      rw [whole] at here ⊢
      exact ⟨⟨pre, text⟩ :: found, h, hlater.add here⟩

theorem exists_findAll (p : Program) (cs : List Char) :
    ∃ found, p.findAll cs = found.map (fun s => ⟨byteLength s.front, byteLength s.text⟩) ∧
      Stretch.Found [] cs found :=
  exists_matchesFrom p none [] cs 0 false

end Regex

theorem PatternLinter.run_eq_reported (p : PatternLinter) (path : Path) {cs : List Char}
    (hlen : cs.length < 0xFFFFFFFF) {found : List Stretch}
    (hfound : p.regex.program.findAll cs =
      found.map fun s => ⟨byteLength s.front, byteLength s.text⟩)
    (h : ∀ s ∈ found, s.IsIn cs) :
    p.run (.ofChars path cs) =
      .reported (found.map fun s => ⟨p.name, path, s.location, p.severity, p.message⟩) := by
  have spans : (p.regex.program.findAll cs).map (fun m => (m.offset, m.byteLength)) =
      found.map Stretch.span := by
    rw [hfound, List.map_map]
    rfl
  rw [run, Document.contents_ofChars, spans]
  exact Builtin.lintSpans_eq_reported path p.name p.severity p.message hlen h

end Linting
