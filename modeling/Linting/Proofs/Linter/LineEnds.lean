import Linting.Proofs.Linter.LineNumbers
import Mathlib.Data.List.DropRight
import Mathlib.Data.List.Infix

/-! Linters that report how a line ends: with blanks, or beyond a limit. They count columns in the
line itself, and come to the location that the document has for the bytes of that end. -/

namespace Linting
open Text

namespace Document

/-- A location of all that a line has from its character number `k` on, counted from zero. The
document locates the bytes of this end there. -/
structure LocatesEnd (d : Document) (front line : List Char) (k : Nat) (loc : Location) :
    Prop where
  located : d.locationOf (byteLength (front ++ line.take k)) (byteLength (line.drop k)) = some loc
  number : loc.line.toNat = front.count '\n' + 1
  column : loc.column.toNat = k + 1
  reach : loc.column.toNat - 1 + loc.length.toNat = line.length

end Document

/-- Lints that stand for the lines of a text that `P` holds of: one for each of them, from the top
of the text down. What is said of a line behind `front` is told by `R`. -/
structure StandForLines (cs : List Char) (P : List Char → Prop)
    (R : List Char → List Char → Lint → Prop) (lints : List Lint) : Prop where
  ascending : lints.Pairwise fun k l => k.location.line < l.location.line
  of_lint : ∀ l ∈ lints, ∃ front line, IsLineBehind cs front line ∧ P line ∧ R front line l
  of_line : ∀ front line, IsLineBehind cs front line → P line → ∃ l ∈ lints, R front line l

theorem StandForLines.imp {cs : List Char} {P : List Char → Prop}
    {R S : List Char → List Char → Lint → Prop} {lints : List Lint}
    (h : StandForLines cs P R lints) (hRS : ∀ front line l, R front line l → S front line l) :
    StandForLines cs P S lints where
  ascending := h.ascending
  of_lint l hl := by
    obtain ⟨front, line, isLine, holds, told⟩ := h.of_lint l hl
    exact ⟨front, line, isLine, holds, hRS front line l told⟩
  of_line front line isLine holds := by
    obtain ⟨l, hl, told⟩ := h.of_line front line isLine holds
    exact ⟨l, hl, hRS front line l told⟩

namespace Builtin

theorem saturate_eq {n : Nat} (h : n ≤ 0xFFFFFFFF) : saturate n = n.toUInt32 := by
  rw [saturate, maxWord32, Nat.min_eq_left h]

theorem locatesEnd_saturate (path : Path) {cs front line : List Char} {k : Nat}
    (hlen : cs.length < 0xFFFFFFFF) (h : IsLineBehind cs front line) (hk : k ≤ line.length) :
    (Document.ofChars path cs).LocatesEnd front line k
      ⟨(front.count '\n').toUInt32 + 1, saturate (k + 1), saturate (line.length - k)⟩ := by
  have inside := h.take_drop_prefix k
  have lengths := inside.length_le
  simp only [List.length_append, List.length_take, List.length_drop] at lengths
  have newlines : front.count '\n' ≤ front.length := List.count_le_length
  have column : saturate (k + 1) = (k + 1).toUInt32 := saturate_eq (by omega)
  have length : saturate (line.length - k) = (line.length - k).toUInt32 := saturate_eq (by omega)
  have columnValue : (k + 1).toUInt32.toNat = k + 1 := toNat_toUInt32 (by omega)
  have lengthValue : (line.length - k).toUInt32.toNat = line.length - k :=
    toNat_toUInt32 (by omega)
  rw [column, length]
  refine ⟨?_, toNat_toUInt32_add_one (by omega), columnValue, ?_⟩
  · rw [Document.locationOf_stretch path inside hlen, h.ofStretch_take hk, List.length_drop]
  · rw [columnValue, lengthValue]
    omega

/-- What a linter of lines reports, if it reports of the lines that `P` holds of all that they have
from some character on. -/
theorem lintLines_standForLines (name : LinterName) (path : Path) {cs : List Char}
    (hlen : cs.length < 0xFFFFFFFF) {find : List Char → Option (UInt32 × UInt32 × String)}
    {P : List Char → Prop} [DecidablePred P] {start : List Char → Nat}
    {message : List Char → String}
    (hfind : ∀ line, find line = if P line then
      some (saturate (start line + 1), saturate (line.length - start line), message line) else none)
    (hstart : ∀ line, P line → start line < line.length) :
    StandForLines cs P
      (fun front line l =>
        (Document.ofChars path cs).LocatesEnd front line (start line) l.location ∧
        l = ⟨name, path, l.location, .warning, message line⟩)
      (lintLines (.ofChars path cs) name find) where
  ascending := lintLines_ascending name path hlen find
  of_lint l hl := by
    obtain ⟨number, line, hline, column, length, text, hfound, rfl⟩ := mem_lintLines.mp hl
    obtain ⟨i, hi⟩ := List.mem_iff_getElem?.mp hline
    rw [Document.getElem?_lines, Option.map_eq_some_iff] at hi
    obtain ⟨_, hi, same⟩ := hi
    cases same
    obtain ⟨front, isLine, rfl⟩ := exists_front_of_getElem? hi
    rw [hfind] at hfound
    split at hfound
    · rename_i holds
      cases hfound
      have located := locatesEnd_saturate path hlen isLine (Nat.le_of_lt (hstart line holds))
      exact ⟨front, line, isLine, holds, located, rfl⟩
    · cases hfound
  of_line front line isLine holds := by
    have inhabited : line ≠ [] := List.ne_nil_of_length_pos (Nat.zero_lt_of_lt (hstart line holds))
    have hline : ((front.count '\n').toUInt32 + 1, line) ∈ (Document.ofChars path cs).lines := by
      refine List.mem_of_getElem? (i := front.count '\n') ?_
      rw [Document.getElem?_lines, isLine.getElem?_splitLines inhabited]
      rfl
    have located := locatesEnd_saturate path hlen isLine (Nat.le_of_lt (hstart line holds))
    exact ⟨_, mem_lintLines.mpr ⟨_, line, hline, _, _, _, by rw [hfind, if_pos holds], rfl⟩,
      located, rfl⟩

/-- A line that ends with a space or a tab. -/
def EndsBlank (line : List Char) : Prop := line.getLast? = some ' ' ∨ line.getLast? = some '\t'

instance : DecidablePred EndsBlank := fun _ => inferInstanceAs (Decidable (_ ∨ _))

/-- The longest end of a line that is made of spaces and tabs only starts behind `k` characters. -/
structure IsBlankEnd (line : List Char) (k : Nat) : Prop where
  blank : ∀ c ∈ line.drop k, c = ' ' ∨ c = '\t'
  longest : ∀ j, (∀ c ∈ line.drop j, c = ' ' ∨ c = '\t') → k ≤ j

theorem isBlank_iff {c : Char} : isBlank c = true ↔ c = ' ' ∨ c = '\t' := by
  simp [isBlank]

theorem trimEnd_append_rtakeWhile (line : List Char) :
    trimEnd line ++ line.rtakeWhile isBlank = line :=
  List.rdropWhile_append_rtakeWhile

theorem drop_length_trimEnd (line : List Char) :
    line.drop (trimEnd line).length = line.rtakeWhile isBlank := by
  calc
    line.drop (trimEnd line).length =
        (trimEnd line ++ line.rtakeWhile isBlank).drop (trimEnd line).length := by
      rw [trimEnd_append_rtakeWhile]
    _ = line.rtakeWhile isBlank := List.drop_left

theorem isBlankEnd_trimEnd (line : List Char) : IsBlankEnd line (trimEnd line).length where
  blank c hc := by
    rw [drop_length_trimEnd] at hc
    exact isBlank_iff.mp (List.mem_rtakeWhile_imp hc)
  longest j hj := by
    by_contra shorter
    -- the last character that is kept would be among those behind the first `j`
    have inhabited : line.rdropWhile isBlank ≠ [] :=
      List.ne_nil_of_length_pos (Nat.zero_lt_of_lt (Nat.not_le.mp shorter))
    have last := List.rdropWhile_last_not isBlank line inhabited
    refine last (isBlank_iff.mpr (hj _ ?_))
    have kept : (line.rdropWhile isBlank).drop j <+: line.drop j :=
      (List.rdropWhile_prefix isBlank line).drop j
    have some : (line.rdropWhile isBlank).drop j ≠ [] :=
      List.drop_eq_nil_iff.not.mpr shorter
    rw [← List.getLast_drop some]
    exact kept.subset (List.getLast_mem some)

theorem byteLength_of_blank {cs : List Char} (h : ∀ c ∈ cs, isBlank c = true) :
    byteLength cs = cs.length := by
  induction cs with
  | nil => rfl
  | cons c cs ih =>
    obtain ⟨hc, hcs⟩ := List.forall_mem_cons.mp h
    have width : c.utf8Size = 1 := by
      rcases isBlank_iff.mp hc with rfl | rfl <;> rfl
    rw [byteLength_cons, width, ih hcs, List.length_cons, Nat.add_comm]

theorem rtakeWhile_ne_nil_iff (line : List Char) :
    line.rtakeWhile isBlank ≠ [] ↔ EndsBlank line := by
  induction line using List.reverseRecOn with
  | nil => simp [EndsBlank]
  | append_singleton line c _ =>
    by_cases hc : isBlank c = true
    · have ends := isBlank_iff.mp hc
      simp [EndsBlank, List.rtakeWhile_concat_pos _ _ _ hc, ends]
    · have open' := isBlank_iff.not.mp hc
      simp [EndsBlank, List.rtakeWhile_concat_neg _ _ _ hc, not_or.mp open']

theorem findBlanks_eq (line : List Char) :
    findBlanks line = if EndsBlank line then
      some (saturate ((trimEnd line).length + 1), saturate (line.length - (trimEnd line).length),
        "Line contains trailing whitespace") else none := by
  have parts := trimEnd_append_rtakeWhile line
  have blanks : byteLength (line.rtakeWhile isBlank) = (line.rtakeWhile isBlank).length :=
    byteLength_of_blank fun c => List.mem_rtakeWhile_imp
  have bytes := congrArg byteLength parts
  have characters := congrArg List.length parts
  rw [byteLength_append, blanks] at bytes
  rw [List.length_append] at characters
  unfold findBlanks
  by_cases ends : EndsBlank line
  · have positive := List.length_pos_of_ne_nil ((rtakeWhile_ne_nil_iff line).mpr ends)
    have differ : byteLength (trimEnd line) ≠ byteLength line := by omega
    have count : byteLength line - byteLength (trimEnd line) =
        line.length - (trimEnd line).length := by omega
    rw [if_neg differ, if_pos ends, count]
  · have nothing := not_ne_iff.mp ((rtakeWhile_ne_nil_iff line).not.mpr ends)
    have same : byteLength (trimEnd line) = byteLength line := by
      rw [← bytes, nothing]
      rfl
    rw [if_pos same, if_neg ends]

theorem length_trimEnd_lt {line : List Char} (h : EndsBlank line) :
    (trimEnd line).length < line.length := by
  have characters := congrArg List.length (trimEnd_append_rtakeWhile line)
  have positive := List.length_pos_of_ne_nil ((rtakeWhile_ne_nil_iff line).mpr h)
  rw [List.length_append] at characters
  omega

theorem findExcess_eq (max : Nat) (line : List Char) :
    findExcess max line = if max < line.length then
      some (saturate (max + 1), saturate (line.length - max), tooLongMessage max line.length)
      else none := by
  unfold findExcess
  by_cases long : max < line.length
  · rw [if_neg (Nat.not_le.mpr long), if_pos long]
  · rw [if_pos (Nat.not_lt.mp long), if_neg long]

/-- Each line that ends with a space or a tab is reported once, at the longest end that holds
nothing else. -/
theorem trailingWhitespace_reports_blank_ends (name : LinterName) (path : Path) {cs : List Char}
    (hlen : cs.length < 0xFFFFFFFF) :
    let d := Document.ofChars path cs
    ∃ lints, trailingWhitespace name d = .reported lints ∧
      StandForLines cs EndsBlank
        (fun front line l => ∃ k, IsBlankEnd line k ∧ d.LocatesEnd front line k l.location ∧
          l = ⟨name, path, l.location, .warning, "Line contains trailing whitespace"⟩) lints := by
  intro d
  have found := lintLines_standForLines name path hlen findBlanks_eq fun _ => length_trimEnd_lt
  refine ⟨_, trailingWhitespace_eq_lintLines name d, found.imp ?_⟩
  rintro front line l ⟨located, parts⟩
  exact ⟨_, isBlankEnd_trimEnd line, located, parts⟩

/-- The blanks behind a character of two bytes are reported, and a last line that holds nothing else.
Those in front of a carriage return that ends no line are not. -/
theorem trailingWhitespace_reports_blank_ends_all_blank :
    let cs := "é \t\r\n\n \t\rb\n\t ".toList
    let d := Document.ofChars (Path.ofString "a.scss") cs
    cs.length < 0xFFFFFFFF ∧
    ∃ first last, trailingWhitespace ⟨"TrailingWhitespace", by decide +kernel⟩ d =
        .reported [first, last] ∧
      first.location = ⟨1, 2, 2⟩ ∧ last.location = ⟨4, 1, 2⟩ ∧
      ∃ front line k, IsLineBehind cs front line ∧ IsBlankEnd line k ∧
        d.LocatesEnd front line k last.location := by
  intro cs d
  have short : cs.length < 0xFFFFFFFF := by decide
  obtain ⟨lints, reported, found⟩ := trailingWhitespace_reports_blank_ends
    ⟨"TrailingWhitespace", by decide +kernel⟩ (Path.ofString "a.scss") short
  cases reported
  obtain ⟨front, line, isLine, -, k, blankEnd, located, -⟩ :=
    found.of_lint _ (List.mem_cons_of_mem _ (List.mem_singleton_self _))
  exact ⟨short, _, _, rfl, rfl, rfl, front, line, k, isLine, blankEnd, located⟩

/-- Each line of more than `max` characters is reported once, at those beyond `max`. A greater limit
leaves some of these lines, reported up to the same places. -/
theorem lineLength_reports_excess (name : LinterName) (path : Path) (max : Nat) {cs : List Char}
    (hlen : cs.length < 0xFFFFFFFF) :
    let d := Document.ofChars path cs
    ∃ lints, lineLength max name d = .reported lints ∧
      StandForLines cs (max < ·.length)
        (fun front line l => d.LocatesEnd front line max l.location ∧
          l = ⟨name, path, l.location, .warning,
            s!"Line should be at most {max} characters wide, but was {line.length}"⟩) lints ∧
      ∀ greater ≥ max, ∃ left, lineLength greater name d = .reported left ∧
        ∀ m ∈ left, ∃ l ∈ lints, l.location.line = m.location.line ∧
          l.location.column.toNat + l.location.length.toNat =
            m.location.column.toNat + m.location.length.toNat := by
  intro d
  have excess (max : Nat) :=
    lintLines_standForLines name path hlen (findExcess_eq max) fun _ => id
  refine ⟨_, lineLength_eq_lintLines max name d, excess max, ?_⟩
  intro greater hgreater
  refine ⟨_, lineLength_eq_lintLines greater name d, ?_⟩
  intro m hm
  obtain ⟨front, line, isLine, longer, marked, -⟩ := (excess greater).of_lint m hm
  obtain ⟨l, hl, located, -⟩ :=
    (excess max).of_line front line isLine (Nat.lt_of_le_of_lt hgreater longer)
  refine ⟨l, hl, UInt32.toNat_inj.mp (located.number.trans marked.number.symm), ?_⟩
  have reach := located.reach
  have sameReach := marked.reach
  have column := located.column
  have sameColumn := marked.column
  omega

/-- Characters of two bytes count once and a carriage return in front of a newline does not count,
so the first line is within the greater limit. -/
theorem lineLength_reports_excess_of_accents :
    let cs := "ééé\r\nab\nabcd".toList
    let d := Document.ofChars (Path.ofString "a.scss") cs
    let name : LinterName := ⟨"LineWidth", by decide +kernel⟩
    cs.length < 0xFFFFFFFF ∧ 3 ≥ 2 ∧
    ∃ first last left, lineLength 2 name d = .reported [first, last] ∧
      lineLength 3 name d = .reported [left] ∧
      first.location = ⟨1, 3, 1⟩ ∧ last.location = ⟨3, 3, 2⟩ ∧ left.location = ⟨3, 4, 1⟩ ∧
      ∃ l ∈ [first, last], l.location.line = left.location.line ∧
        l.location.column.toNat + l.location.length.toNat =
          left.location.column.toNat + left.location.length.toNat := by
  intro cs d name
  have short : cs.length < 0xFFFFFFFF := by decide
  obtain ⟨lints, reported, -, greater⟩ :=
    lineLength_reports_excess name (Path.ofString "a.scss") 2 short
  obtain ⟨left, reportedLeft, within⟩ := greater 3 (by decide)
  cases reported
  cases reportedLeft
  exact ⟨short, by decide, _, _, _, rfl, rfl, rfl, rfl, rfl,
    within _ (List.mem_singleton_self _)⟩

end Builtin

end Linting
