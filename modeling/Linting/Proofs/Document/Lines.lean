import Linting.Proofs.Document.Locations

/-! Lines of a text that is put together from two. Behind a newline the lines start afresh, so the
lines of both parts follow each other and those of the second part keep their columns. -/

namespace Linting

/-- A text that stops where a line may start: it is empty or ends with a newline. -/
def EndsLine (cs : List Char) : Prop := cs = [] ∨ cs.getLast? = some '\n'

theorem EndsLine.eq_nil_or_concat {cs : List Char} (h : EndsLine cs) :
    cs = [] ∨ ∃ front, cs = front ++ ['\n'] :=
  h.imp_right List.getLast?_eq_some_iff.mp

theorem EndsLine.tail {c : Char} {cs : List Char} (h : EndsLine (c :: cs)) : EndsLine cs := by
  cases cs with
  | nil => exact .inl rfl
  | cons d cs =>
    refine .inr ?_
    rcases h with h | h
    · cases h
    · rwa [List.getLast?_cons_cons] at h

theorem EndsLine.append_iff {as : List Char} (h : EndsLine as) (bs : List Char) :
    EndsLine (as ++ bs) ↔ EndsLine bs := by
  cases bs with
  | nil =>
    -- both sides hold, whichever of the two cases `h` is
    rw [List.append_nil]
    exact iff_of_true h (.inl rfl)
  | cons c bs => simp [EndsLine, List.getLast?_append]

theorem EndsLine.newline_mem {cs : List Char} (h : EndsLine cs) (hne : cs ≠ []) : '\n' ∈ cs := by
  obtain ⟨front, rfl⟩ := h.eq_nil_or_concat.resolve_left hne
  exact List.mem_append_right _ (List.mem_singleton_self _)

theorem lastLine_append_of_mem (as : List Char) {bs : List Char} (h : '\n' ∈ bs) :
    lastLine (as ++ bs) = lastLine bs := by
  induction bs using List.reverseRecOn with
  | nil => cases h
  | append_singleton bs c ih =>
    rw [← List.append_assoc]
    by_cases hc : c = '\n'
    · rw [hc, lastLine_concat_newline, lastLine_concat_newline]
    · have hbs : '\n' ∈ bs := by simpa [Ne.symm hc] using h
      rw [lastLine_concat_of_ne _ hc, lastLine_concat_of_ne _ hc, ih hbs]

theorem lastLine_append_of_not_mem (as : List Char) {bs : List Char} (h : '\n' ∉ bs) :
    lastLine (as ++ bs) = lastLine as ++ bs := by
  induction bs using List.reverseRecOn with
  | nil => simp
  | append_singleton bs c ih =>
    obtain ⟨hbs, hc⟩ : '\n' ∉ bs ∧ c ≠ '\n' := by simpa [eq_comm] using h
    rw [← List.append_assoc, lastLine_concat_of_ne _ hc, ih hbs, List.append_assoc]

theorem EndsLine.lastLine_append {as : List Char} (h : EndsLine as) (bs : List Char) :
    lastLine (as ++ bs) = lastLine bs := by
  by_cases hbs : '\n' ∈ bs
  · exact lastLine_append_of_mem as hbs
  · have ended : lastLine as = [] := by
      rcases h.eq_nil_or_concat with rfl | ⟨front, rfl⟩
      · rfl
      · exact lastLine_concat_newline front
    have whole : lastLine bs = bs := lastLine_append_of_not_mem [] hbs
    rw [lastLine_append_of_not_mem as hbs, ended, whole, List.nil_append]

theorem splitLines_append_newline (line as bs : List Char) :
    splitLines line (as ++ '\n' :: bs) = splitLines line (as ++ ['\n']) ++ splitLines [] bs := by
  induction as generalizing line with
  | nil => simp [splitLines]
  | cons c as ih =>
    by_cases hc : c = '\n'
    · simp only [List.cons_append, splitLines, if_pos hc, ih]
    · simp only [List.cons_append, splitLines, if_neg hc, ih]

theorem length_splitLines_le (line cs : List Char) :
    (splitLines line cs).length ≤ cs.count '\n' + 1 := by
  induction cs generalizing line with
  | nil =>
    rw [splitLines]
    split <;> simp
  | cons c cs ih =>
    by_cases hc : c = '\n'
    · simp [splitLines, hc, ih]
    · simp [splitLines, hc, ih]

theorem length_splitLines_concat (line cs : List Char) :
    (splitLines line (cs ++ ['\n'])).length = cs.count '\n' + 1 := by
  induction cs generalizing line with
  | nil => simp [splitLines]
  | cons c cs ih =>
    by_cases hc : c = '\n'
    · simp [splitLines, hc, ih]
    · simp [splitLines, hc, ih]

theorem EndsLine.splitLines_append {as : List Char} (h : EndsLine as) (bs : List Char) :
    splitLines [] (as ++ bs) = splitLines [] as ++ splitLines [] bs := by
  rcases h.eq_nil_or_concat with rfl | ⟨front, rfl⟩
  · rfl
  · rw [List.append_assoc, List.singleton_append, splitLines_append_newline]

theorem EndsLine.length_splitLines {cs : List Char} (h : EndsLine cs) :
    (splitLines [] cs).length = cs.count '\n' := by
  rcases h.eq_nil_or_concat with rfl | ⟨front, rfl⟩
  · rfl
  · rw [length_splitLines_concat, List.count_append, List.count_singleton_self]

end Linting
