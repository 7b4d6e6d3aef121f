import Linting.Proofs.Document.Stretches

/-! Where the lines of a text stand. In front of a line there are whole lines, as many as its number
says, and the index holds the offset where it starts; behind it there is what ends it, or nothing.
So places in a line are located on it, at the characters that it counts. -/

namespace Linting
open Text

/-- What stands behind a line: a newline, with the carriage return in front of it if there is one,
or nothing. -/
inductive EndsBefore (line : List Char) : List Char → Prop
  | newline {rest : List Char} (h : line.getLast? ≠ some '\r') : EndsBefore line ('\n' :: rest)
  | returnNewline {rest : List Char} : EndsBefore line ('\r' :: '\n' :: rest)
  | endOfText : EndsBefore line []

/-- A line of a text, with whole lines in front of it. -/
structure IsLineBehind (cs front line : List Char) : Prop where
  placed : ∃ behind, cs = front ++ line ++ behind ∧ EndsBefore line behind
  starts : EndsLine front
  unbroken : '\n' ∉ line

/-- A text is one line that is not ended, or such a line is ended and a text follows. -/
@[elab_as_elim]
theorem lines_induction {motive : List Char → Prop}
    (last : ∀ line, '\n' ∉ line → motive line)
    (cons : ∀ line rest, '\n' ∉ line → motive rest → motive (line ++ '\n' :: rest))
    (cs : List Char) : motive cs := by
  by_cases newline : '\n' ∈ cs
  · obtain ⟨line, rest, parts, unbroken⟩ := List.eq_append_cons_of_mem newline
    have shorter : rest.length < cs.length := by
      rw [parts, List.length_append, List.length_cons]
      omega
    rw [parts]
    exact cons line rest unbroken (lines_induction last cons rest)
  · exact last cs newline
termination_by cs.length

theorem splitLines_of_not_mem {cs : List Char} (h : '\n' ∉ cs) (line : List Char) :
    splitLines line cs = if line.reverse ++ cs = [] then [] else [line.reverse ++ cs] := by
  induction cs generalizing line with
  | nil => simp [splitLines]
  | cons c cs ih =>
    obtain ⟨hc, hcs⟩ : c ≠ '\n' ∧ '\n' ∉ cs := by simpa [eq_comm] using h
    rw [splitLines, if_neg hc, ih hcs, List.reverse_cons, List.append_assoc, List.singleton_append]

theorem splitLines_newline {cs : List Char} (h : '\n' ∉ cs) (line rest : List Char) :
    splitLines line (cs ++ '\n' :: rest) =
      dropReturn (line.reverse ++ cs) :: splitLines [] rest := by
  induction cs generalizing line with
  | nil => simp [splitLines]
  | cons c cs ih =>
    obtain ⟨hc, hcs⟩ : c ≠ '\n' ∧ '\n' ∉ cs := by simpa [eq_comm] using h
    rw [List.cons_append, splitLines, if_neg hc, ih hcs, List.reverse_cons, List.append_assoc,
      List.singleton_append]

/-- What is not ended counts as a line, too. -/
theorem length_splitLines_of_not_endsLine {cs : List Char} (h : ¬EndsLine cs) :
    (splitLines [] cs).length = cs.count '\n' + 1 := by
  induction cs using lines_induction with
  | last line unbroken =>
    have inhabited : line ≠ [] := fun empty => h (.inl empty)
    simp [splitLines_of_not_mem unbroken, inhabited, List.count_eq_zero.mpr unbroken]
  | cons line rest unbroken ih =>
    have ended : EndsLine (line ++ ['\n']) := .inr (by simp)
    have unended : ¬EndsLine rest := by
      rwa [← ended.append_iff rest, List.append_assoc, List.singleton_append]
    rw [splitLines_newline unbroken, List.length_cons, ih unended, List.count_append,
      List.count_cons_self, List.count_eq_zero.mpr unbroken, Nat.zero_add]

/-- Dropping what ends a line leaves a line in front of what was dropped. -/
theorem exists_endsBefore_dropReturn (line rest : List Char) :
    ∃ behind, line ++ '\n' :: rest = dropReturn line ++ behind ∧
      EndsBefore (dropReturn line) behind := by
  unfold dropReturn
  split
  · rename_i h
    obtain ⟨front, rfl⟩ := List.getLast?_eq_some_iff.mp h
    refine ⟨'\r' :: '\n' :: rest, ?_, .returnNewline⟩
    rw [List.dropLast_concat, List.append_assoc, List.singleton_append]
  · rename_i h
    exact ⟨'\n' :: rest, rfl, .newline h⟩

theorem prefix_dropReturn (line : List Char) : dropReturn line <+: line := by
  unfold dropReturn
  split
  · exact List.dropLast_prefix line
  · exact List.prefix_rfl

theorem IsLineBehind.cons {rest front line : List Char} (h : IsLineBehind rest front line)
    (first : List Char) :
    IsLineBehind (first ++ '\n' :: rest) (first ++ '\n' :: front) line := by
  obtain ⟨⟨behind, rfl, hbehind⟩, starts, unbroken⟩ := h
  have ended : EndsLine (first ++ ['\n']) := .inr (by simp)
  refine ⟨⟨behind, by simp, hbehind⟩, ?_, unbroken⟩
  have joined := (ended.append_iff front).mpr starts
  rwa [List.append_assoc, List.singleton_append] at joined

/-- A line that is split off has as many whole lines in front of it as its number says. -/
theorem exists_front_of_getElem? {cs line : List Char} {i : Nat}
    (h : (splitLines [] cs)[i]? = some line) :
    ∃ front, IsLineBehind cs front line ∧ front.count '\n' = i := by
  induction cs using lines_induction generalizing i with
  | last text unbroken =>
    rw [splitLines_of_not_mem unbroken, List.reverse_nil, List.nil_append] at h
    split at h
    · cases h
    · obtain ⟨rfl, rfl⟩ : i = 0 ∧ text = line := by
        cases i with
        | zero => exact ⟨rfl, Option.some.inj h⟩
        | succ i => cases h
      exact ⟨[], ⟨⟨[], by simp, .endOfText⟩, .inl rfl, unbroken⟩, rfl⟩
  | cons first rest unbroken ih =>
    rw [splitLines_newline unbroken, List.reverse_nil, List.nil_append] at h
    cases i with
    | zero =>
      obtain rfl : dropReturn first = line := Option.some.inj h
      exact ⟨[], ⟨exists_endsBefore_dropReturn first rest, .inl rfl,
        fun newline => unbroken ((prefix_dropReturn first).subset newline)⟩, rfl⟩
    | succ i =>
      obtain ⟨front, hfront, rfl⟩ := ih h
      refine ⟨first ++ '\n' :: front, hfront.cons first, ?_⟩
      rw [List.count_append, List.count_cons_self, List.count_eq_zero.mpr unbroken, Nat.zero_add]

/-- A line that holds something is split off at the place that its number says. -/
theorem IsLineBehind.getElem?_splitLines {cs front line : List Char} (h : IsLineBehind cs front line)
    (hne : line ≠ []) : (splitLines [] cs)[front.count '\n']? = some line := by
  obtain ⟨⟨behind, rfl, ends⟩, starts, unbroken⟩ := h
  have first : (splitLines [] (line ++ behind))[0]? = some line := by
    cases ends with
    | newline noReturn =>
      rw [splitLines_newline unbroken]
      simp [dropReturn, noReturn]
    | @returnNewline rest =>
      have unbrokenReturn : '\n' ∉ line ++ ['\r'] := by simpa using unbroken
      have lines := splitLines_newline unbrokenReturn [] rest
      rw [List.append_assoc, List.singleton_append] at lines
      rw [lines]
      simp [dropReturn]
    | endOfText =>
      rw [List.append_nil, splitLines_of_not_mem unbroken]
      simp [hne]
  rw [List.append_assoc, starts.splitLines_append, ← starts.length_splitLines,
    List.getElem?_append_right (Nat.le_refl _), Nat.sub_self, first]

theorem IsLineBehind.take_drop_prefix {cs front line : List Char} (h : IsLineBehind cs front line)
    (k : Nat) : front ++ line.take k ++ line.drop k <+: cs := by
  obtain ⟨behind, rfl, -⟩ := h.placed
  exact ⟨behind, by rw [List.append_assoc front, List.take_append_drop]⟩

/-- Behind the first `k` characters of a line a place is on this line, in the column that counts
them. -/
theorem IsLineBehind.ofStretch_take {cs front line : List Char} (h : IsLineBehind cs front line)
    {k : Nat} (hk : k ≤ line.length) (mid : List Char) :
    Location.ofStretch (front ++ line.take k) mid =
      ⟨(front.count '\n').toUInt32 + 1, (k + 1).toUInt32, mid.length.toUInt32⟩ := by
  have unbroken : '\n' ∉ line.take k := fun newline => h.unbroken (List.mem_of_mem_take newline)
  have whole : lastLine (line.take k) = line.take k := lastLine_append_of_not_mem [] unbroken
  rw [Location.ofStretch, List.count_append, List.count_eq_zero.mpr unbroken, Nat.add_zero,
    h.starts.lastLine_append, whole, List.length_take, Nat.min_eq_left hk]

/-- The index holds the offsets behind whole lines. -/
theorem EndsLine.getElem?_lineOffsets {front : List Char} (h : EndsLine front) (more : List Char) :
    (lineOffsets (front ++ more))[front.count '\n']? = some (byteLength front) := by
  obtain ⟨start, hfront, hstart⟩ := lineOffsets_lastLine front
  have empty : lastLine front = [] := by
    have behind := h.lastLine_append []
    rwa [List.append_nil] at behind
  rw [empty, List.append_nil] at hfront
  have entry : front.count '\n' < (lineOffsets front).length := by
    rw [length_lineOffsets]
    exact Nat.lt_succ_self _
  rw [lineOffsets_append, List.getElem?_append_left entry, hstart, hfront]

end Linting
