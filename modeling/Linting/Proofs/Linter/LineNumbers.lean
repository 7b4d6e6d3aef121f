import Linting.Proofs.Document.LineTexts
import Linting.Proofs.Linter.Order

/-! Two ways to number lines. Linters that go through the lines count them, and those that find
places ask the index of line starts. On every text that is not empty both speak of the same lines. -/

namespace Linting
open Text

namespace Document

/-- A line with its number, counted from zero, as the index has it: its text starts at the offset
with this number, and its characters are located on it, in the columns that count them. -/
structure HasLine (d : Document) (i start : Nat) (line : List Char) : Prop where
  indexed : d.offsets[i]? = some start
  text : ∃ front, IsLineBehind d.contents front line ∧ byteLength front = start
  located : ∀ k ≤ line.length, ∃ loc, d.locationOf (start + byteLength (line.take k)) 0 = some loc
  placed : ∀ k ≤ line.length, ∀ byteLen loc,
    d.locationOf (start + byteLength (line.take k)) byteLen = some loc →
      loc.line.toNat = i + 1 ∧ loc.column.toNat = k + 1

theorem lineCount_of_newline (path : Path) {cs : List Char} (h : cs.getLast? = some '\n') :
    (ofChars path cs).lineCount = cs.count '\n' := by
  rw [lineCount, contents_ofChars, if_pos h, size_offsets, Nat.add_sub_cancel]

theorem lineCount_of_no_newline (path : Path) {cs : List Char} (h : cs.getLast? ≠ some '\n') :
    (ofChars path cs).lineCount = cs.count '\n' + 1 := by
  rw [lineCount, contents_ofChars, if_neg h, size_offsets]

theorem length_splitLines_eq_lineCount (path : Path) {cs : List Char} (hne : cs ≠ []) :
    (splitLines [] cs).length = (ofChars path cs).lineCount := by
  by_cases newline : cs.getLast? = some '\n'
  · have ended : EndsLine cs := .inr newline
    rw [lineCount_of_newline path newline, ended.length_splitLines]
  · have unended : ¬EndsLine cs := fun ended => ended.elim hne newline
    rw [lineCount_of_no_newline path newline, length_splitLines_of_not_endsLine unended]

theorem getElem?_lines (path : Path) (cs : List Char) (i : Nat) :
    (ofChars path cs).lines[i]? = (splitLines [] cs)[i]?.map (i.toUInt32 + 1, ·) := by
  rw [lines_ofChars, List.getElem?_map, List.getElem?_zipIdx, Option.map_map, Nat.zero_add]
  rfl

theorem lines_numbers (path : Path) {cs : List Char} (hlen : cs.length < 0xFFFFFFFF) :
    (ofChars path cs).lines.map (·.1.toNat) = List.range' 1 (splitLines [] cs).length := by
  have counted : ((splitLines [] cs).zipIdx.map Prod.snd).map (1 + ·) =
      List.range' 1 (splitLines [] cs).length := by
    rw [List.zipIdx_map_snd, List.map_add_range']
  rw [lines_ofChars, List.map_map, ← counted, List.map_map]
  exact List.map_congr_left fun entry hentry =>
    (number_of_mem_zipIdx hlen hentry).1.trans (Nat.add_comm entry.2 1)

theorem hasLine_of_getElem? (path : Path) {cs line : List Char} {i : Nat}
    (hlen : cs.length < 0xFFFFFFFF) (h : (splitLines [] cs)[i]? = some line) :
    ∃ start, (ofChars path cs).HasLine i start line := by
  obtain ⟨front, isLine, rfl⟩ := exists_front_of_getElem? h
  refine ⟨byteLength front, ?_, ⟨front, isLine, rfl⟩, ?_, ?_⟩
  · obtain ⟨behind, hcs, -⟩ := isLine.placed
    have entry := isLine.starts.getElem?_lineOffsets (line ++ behind)
    rwa [← List.append_assoc, ← hcs, ← List.getElem?_toArray] at entry
  · intro k _
    have here : front ++ line.take k ++ [] <+: cs := by
      rw [List.append_nil]
      exact (List.prefix_append _ _).trans (isLine.take_drop_prefix k)
    have located := locationOf_stretch path here hlen
    rw [byteLength_append] at located
    exact ⟨_, located⟩
  · intro k hk byteLen loc hloc
    obtain ⟨behind, rfl⟩ := isLine.take_drop_prefix k
    rw [← byteLength_append, List.append_assoc (front ++ line.take k)] at hloc
    obtain ⟨mid, rfl⟩ := exists_mid_of_locationOf hloc
    have newlines : front.count '\n' ≤ front.length := List.count_le_length
    simp only [List.length_append, List.length_take, List.length_drop] at hlen
    rw [isLine.ofStretch_take hk]
    exact ⟨toNat_toUInt32_add_one (by omega), toNat_toUInt32 (by omega)⟩

/-- The only place behind the last line is the end, and only where a newline ends the text. -/
theorem line_of_locationOf {path : Path} {cs : List Char} (hlen : cs.length < 0xFFFFFFFF)
    {offset byteLen : Nat} {loc : Location}
    (h : (ofChars path cs).locationOf offset byteLen = some loc) :
    if cs.getLast? = some '\n' ∧ byteLength cs ≤ offset
    then loc.line.toNat = (ofChars path cs).lineCount + 1
    else loc.line.toNat ≤ (ofChars path cs).lineCount := by
  obtain ⟨pre, mid, post, rfl, hpre, -, rfl⟩ := exists_stretch_of_locationOf h
  rw [List.append_assoc] at hlen hpre ⊢
  have short : pre.length < 0xFFFFFFFF := by
    rw [List.length_append] at hlen
    omega
  rw [Location.ofStretch_line short]
  split
  · rename_i atEnd
    obtain ⟨newline, beyond⟩ := atEnd
    have nothing : mid ++ post = [] := by
      rw [Nat.min_eq_right beyond, byteLength_append] at hpre
      exact byteLength_eq_zero_iff.mp (by omega)
    rw [nothing, List.append_nil] at newline ⊢
    rw [lineCount_of_newline path newline]
  · rename_i inside
    by_cases newline : (pre ++ (mid ++ post)).getLast? = some '\n'
    · -- a newline stands behind the place: the one that ends the text
      have within : offset < byteLength (pre ++ (mid ++ post)) :=
        Nat.lt_of_not_le fun beyond => inside ⟨newline, beyond⟩
      have more : mid ++ post ≠ [] := by
        intro nothing
        rw [nothing, List.append_nil] at hpre within
        omega
      have last : (mid ++ post).getLast? = some '\n' := by
        rwa [List.getLast?_append_of_ne_nil _ more] at newline
      have behind := List.count_pos_iff.mpr (List.mem_of_getLast? last)
      rw [lineCount_of_newline path newline, List.count_append]
      omega
    · rw [lineCount_of_no_newline path newline, List.count_append]
      omega

/-- What is not ended by a newline is located behind the last character of its last line. -/
theorem ofStretch_unended (path : Path) {cs : List Char} (hlen : cs.length < 0xFFFFFFFF)
    (h : ¬EndsLine cs) :
    ∃ last, (ofChars path cs).lines.getLast? = some ((Location.ofStretch cs []).line, last) ∧
      (Location.ofStretch cs []).column.toNat = last.length + 1 := by
  have lines := length_splitLines_of_not_endsLine h
  obtain ⟨last, hlast⟩ : ∃ last, (splitLines [] cs)[cs.count '\n']? = some last :=
    ⟨_, List.getElem?_eq_getElem (by omega)⟩
  obtain ⟨front, ⟨⟨behind, hcs, ends⟩, starts, unbroken⟩, hcount⟩ := exists_front_of_getElem? hlast
  -- all newlines stand in front of the line, so none ends it
  have counts : cs.count '\n' = front.count '\n' + last.count '\n' + behind.count '\n' := by
    rw [hcs, List.count_append, List.count_append]
  have nothing : behind = [] := by
    cases ends with
    | newline => simp at counts; omega
    | returnNewline => simp at counts; omega
    | endOfText => rfl
  refine ⟨last, ?_, ?_⟩
  · rw [List.getLast?_eq_getElem?, lines_ofChars, List.length_map, List.length_zipIdx, lines,
      Nat.add_sub_cancel, ← lines_ofChars path, getElem?_lines, hlast]
    rfl
  · have whole : lastLine last = last := lastLine_append_of_not_mem [] unbroken
    rw [Location.ofStretch_column hlen, hcs, nothing, List.append_nil, starts.lastLine_append,
      whole]

/-- Counting the lines and looking them up in the index come to the same on every text that is not
empty, and a text that lacks its final newline is reported once, behind its last line. -/
theorem lines_agree_with_index (path : Path) (name : LinterName) {cs : List Char} (hne : cs ≠ [])
    (hlen : cs.length < 0xFFFFFFFF) :
    let d := ofChars path cs
    d.lines.length = d.lineCount ∧
    d.lines.map (·.1.toNat) = List.range' 1 d.lineCount ∧
    (∀ i number line, d.lines[i]? = some (number, line) →
      number.toNat = i + 1 ∧ ∃ start, d.HasLine i start line) ∧
    (∃ loc, d.locationOf d.size 0 = some loc) ∧
    (∀ offset byteLen loc, d.locationOf offset byteLen = some loc →
      if cs.getLast? = some '\n' ∧ d.size ≤ offset then loc.line.toNat = d.lineCount + 1
      else loc.line.toNat ≤ d.lineCount) ∧
    if cs.getLast? = some '\n' then Builtin.finalNewline name d = .reported []
    else ∃ lint last, Builtin.finalNewline name d = .reported [lint] ∧
      d.lines.getLast? = some (lint.location.line, last) ∧
      lint.location.line.toNat = d.lineCount ∧ lint.location.column.toNat = last.length + 1 ∧
      lint.location.length = 0 := by
  intro d
  have count := length_splitLines_eq_lineCount path hne
  have numbers := lines_numbers path hlen
  rw [count] at numbers
  have length : d.lines.length = d.lineCount := by
    rw [← List.length_map (·.1.toNat), numbers, List.length_range']
  refine ⟨length, numbers, ?_, ?_, fun _ _ _ => line_of_locationOf hlen, ?_⟩
  · intro i number line hline
    rw [getElem?_lines, Option.map_eq_some_iff] at hline
    obtain ⟨_, hline, same⟩ := hline
    cases same
    have inside : (line, i) ∈ (splitLines [] cs).zipIdx :=
      List.mem_of_getElem? (i := i) (by rw [List.getElem?_zipIdx, hline]; simp)
    exact ⟨(number_of_mem_zipIdx hlen inside).1, hasLine_of_getElem? path hlen hline⟩
  · have whole : cs ++ [] <+: cs := by simp
    exact ⟨_, locationOf_stretch path whole hlen⟩
  · split
    · rename_i newline
      exact Builtin.finalNewline_of_endsLine name path (.inr newline)
    · rename_i newline
      have unended : ¬EndsLine cs := fun ended => ended.elim hne newline
      obtain ⟨last, hlast, column⟩ := ofStretch_unended path hlen unended
      refine ⟨_, last, Builtin.finalNewline_of_not_endsLine name path hlen unended, hlast, ?_,
        column, rfl⟩
      rw [Location.ofStretch_line hlen, lineCount_of_no_newline path newline]

/-- A carriage return ends a line only in front of a newline, so the one at the end is counted as a
character of the last line. -/
theorem lines_agree_with_index_lone_return :
    let cs := "é\r\n\nb\r".toList
    let d := ofChars (Path.ofString "a.scss") cs
    cs ≠ [] ∧ cs.length < 0xFFFFFFFF ∧ d.lines.map (·.1.toNat) = [1, 2, 3] ∧
    (∃ start, d.HasLine 2 start ['b', '\r']) ∧
    ∃ lint, Builtin.finalNewline ⟨"FinalNewline", by decide +kernel⟩ d = .reported [lint] ∧
      lint.location.line.toNat = 3 ∧ lint.location.column.toNat = 3 := by
  intro cs d
  have inhabited : cs ≠ [] := by decide
  have short : cs.length < 0xFFFFFFFF := by decide
  have count : d.lineCount = 3 := by decide
  obtain ⟨-, numbers, items, -, -, final⟩ := lines_agree_with_index (Path.ofString "a.scss")
    ⟨"FinalNewline", by decide +kernel⟩ inhabited short
  obtain ⟨lint, last, reported, hlast, line, column, -⟩ := final
  have lastText : d.lines.getLast? = some (3, ['b', '\r']) := by decide
  obtain rfl : last = ['b', '\r'] := congrArg Prod.snd (Option.some.inj (hlast.symm.trans lastText))
  exact ⟨inhabited, short, numbers, (items 2 3 _ (by decide)).2, lint, reported, line, column⟩

end Document

end Linting
