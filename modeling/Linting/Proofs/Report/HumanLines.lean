import Linting.Proofs.Json.Lines
import Linting.Report.Human
import Mathlib.Algebra.GroupWithZero.Nat

/-! The lines of a report for people. There is one for each lint, an empty one and the summary, and
whatever else the text breaks at stands in the path of a file or in a message. -/

namespace Linting

/-- The text of lines, each ended by a newline. -/
def endLines (lines : List String) : String := String.join (lines.map (· ++ "\n"))

theorem endLines_append (as bs : List String) : endLines (as ++ bs) = endLines as ++ endLines bs := by
  simp [endLines]

theorem count_newline_endLines (lines : List String) :
    (endLines lines).toList.count '\n' =
      lines.length + (lines.map fun line => line.toList.count '\n').sum := by
  induction lines with
  | nil => rfl
  | cons line lines ih =>
    rw [← List.singleton_append, endLines_append, String.toList_append, List.count_append, ih]
    simp [endLines]
    omega

theorem isLinesOf_endLines {lines : List String} (h : ∀ line ∈ lines, '\n' ∉ line.toList) :
    IsLinesOf (some ∘ String.ofList) (endLines lines) lines := by
  refine ⟨lines.map String.toList, ?_, ?_, ?_⟩
  · simp [endLines, String.toList_join, List.flatMap_map]
  · exact List.forall_mem_map.mpr h
  · simp

namespace Span

/-- Without colours, spans are their texts. -/
theorem renderAll_false (spans : List Span) :
    renderAll false spans = String.join (spans.map Span.text) := by
  rw [renderAll]
  congr 1
  refine List.map_congr_left fun span _ => ?_
  unfold render
  split <;> rfl

theorem renderAll_append (useColor : Bool) (as bs : List Span) :
    renderAll useColor (as ++ bs) = renderAll useColor as ++ renderAll useColor bs := by
  rw [renderAll, List.map_append, String.join_append, ← renderAll, ← renderAll]

end Span

/-- The line of a lint: where it is, how serious, of which linter, and what it says. -/
def Lint.line (l : Lint) : String :=
  s!"{l.file.display}:{l.location.line}:{l.location.column} [{l.severity.short}] " ++
    s!"{l.linter.text}: {l.message}"

theorem Lint.renderAll_spans (l : Lint) : Span.renderAll false l.spans = endLines [l.line] := by
  have text (s : String) : toString s = s := rfl
  rw [Span.renderAll_false, ← String.toList_inj]
  simp [spans, position, Location.text, line, endLines, Span.colored, Span.plain, text]

namespace Report

def summary (r : Report) : String :=
  if r.lints = [] then s!"No lints found in {r.filesChecked} file(s)."
  else s!"{r.lints.length} lint(s) found in {r.filesChecked} file(s) by {r.lintersRun} linter(s)."

/-- The lines that a report is meant to have. -/
def humanLines (r : Report) : List String :=
  r.lints.map Lint.line ++ (if r.lints = [] then [] else [""]) ++ [r.summary]

theorem renderAll_summarySpans (r : Report) :
    Span.renderAll false r.summarySpans = endLines [r.summary] := by
  have text (s : String) : toString s = s := rfl
  rw [Span.renderAll_false, ← String.toList_inj]
  by_cases clean : r.lints = []
  · simp [summarySpans, summary, isClean, clean, endLines, Span.colored, Span.plain, text]
  · simp [summarySpans, summary, isClean, clean, endLines, Span.bold, Span.plain, text]

theorem human_eq_endLines (r : Report) : r.human false = endLines r.humanLines := by
  have lints : Span.renderAll false (r.lints.flatMap Lint.spans) =
      endLines (r.lints.map Lint.line) := by
    induction r.lints with
    | nil => rfl
    | cons l lints ih =>
      rw [List.flatMap_cons, Span.renderAll_append, l.renderAll_spans, ih, ← endLines_append,
        List.map_cons, List.singleton_append]
  have gap : Span.renderAll false (if r.isClean then [] else [.plain "\n"]) =
      endLines (if r.lints = [] then [] else [""]) := by
    by_cases clean : r.lints = [] <;> simp [isClean, clean] <;> rfl
  rw [human, spans, Span.renderAll_append, Span.renderAll_append, lints, gap,
    renderAll_summarySpans, humanLines, endLines_append, endLines_append]

end Report

/-! ### Where newlines come from -/

theorem count_newline_toDigits (n : Nat) : (Nat.toDigits 10 n).count '\n' = 0 :=
  List.count_eq_zero.mpr fun newline =>
    absurd (Text.isDigit_of_mem_toDigits newline) (by decide)

theorem LinterName.newline_not_mem (name : LinterName) : '\n' ∉ name.text.toList := by
  have valid := name.valid
  simp only [isLinterName, Bool.and_eq_true, List.all_eq_true] at valid
  exact fun newline => absurd (valid.2 '\n' newline) (by decide +kernel)

/-- The newlines that a lint brings along. -/
def Lint.newlines (l : Lint) : Nat :=
  l.file.display.toList.count '\n' + l.message.toList.count '\n'

theorem Lint.newlines_eq_zero_iff {l : Lint} :
    l.newlines = 0 ↔ '\n' ∉ l.file.display.toList ∧ '\n' ∉ l.message.toList := by
  rw [newlines, Nat.add_eq_zero_iff, List.count_eq_zero, List.count_eq_zero]

theorem Lint.count_newline_line (l : Lint) : l.line.toList.count '\n' = l.newlines := by
  have text (s : String) : toString s = s := rfl
  have word (w : UInt32) : (toString w).toList.count '\n' = 0 := by
    have decimal : toString w = toString w.toNat := rfl
    rw [decimal, Text.toList_toString, count_newline_toDigits]
  have name : l.linter.text.toList.count '\n' = 0 :=
    List.count_eq_zero.mpr l.linter.newline_not_mem
  have short : l.severity.short.toList.count '\n' = 0 := by
    cases l.severity <;> rfl
  simp [line, newlines, text, word, name, short]

namespace Report

theorem count_newline_summary (r : Report) : r.summary.toList.count '\n' = 0 := by
  have text (s : String) : toString s = s := rfl
  unfold summary
  split <;> simp [text, count_newline_toDigits]

theorem length_humanLines (r : Report) :
    r.humanLines.length = if r.lints = [] then 1 else r.lints.length + 2 := by
  by_cases clean : r.lints = [] <;> simp [humanLines, clean]

theorem count_newline_human (r : Report) :
    (r.human false).toList.count '\n' = r.humanLines.length + (r.lints.map Lint.newlines).sum := by
  have gap : ((if r.lints = [] then [] else [""]).map
      fun line : String => line.toList.count '\n').sum = 0 := by
    split <;> rfl
  have lints : (r.lints.map Lint.line).map (fun line => line.toList.count '\n') =
      r.lints.map Lint.newlines := by
    rw [List.map_map]
    refine List.map_congr_left fun l _ => ?_
    rw [Function.comp_apply, l.count_newline_line]
  rw [human_eq_endLines, count_newline_endLines]
  simp only [humanLines, List.map_append, List.sum_append, lints, gap, List.map_cons, List.map_nil,
    List.sum_cons, List.sum_nil, count_newline_summary, Nat.add_zero]

/-- The text of a report without colours is that of a line for each lint, an empty line if there
are any, and the summary. These are the lines of the text exactly when no path and no message holds
a newline; otherwise the text has as many lines more as there are newlines in them. -/
theorem human_isLinesOf_iff (r : Report) :
    r.human false = endLines r.humanLines ∧
    r.humanLines.length = (if r.lints = [] then 1 else r.lints.length + 2) ∧
    (r.human false).toList.count '\n' =
      r.humanLines.length + (r.lints.map Lint.newlines).sum ∧
    (IsLinesOf (some ∘ String.ofList) (r.human false) r.humanLines ↔
      ∀ l ∈ r.lints, '\n' ∉ l.file.display.toList ∧ '\n' ∉ l.message.toList) := by
  have count := r.count_newline_human
  refine ⟨r.human_eq_endLines, r.length_humanLines, count, ?_, ?_⟩
  · intro lines l hl
    have none : (r.lints.map Lint.newlines).sum = 0 := by
      have same := lines.count_newline
      omega
    exact Lint.newlines_eq_zero_iff.mp
      (List.sum_eq_zero_iff_forall_eq_nat.mp none _ (List.mem_map_of_mem hl))
  · intro plain
    rw [human_eq_endLines]
    refine isLinesOf_endLines fun line hline => ?_
    rcases List.mem_append.mp hline with hline | hline
    · rcases List.mem_append.mp hline with hline | hline
      · obtain ⟨l, hl, rfl⟩ := List.mem_map.mp hline
        rw [← List.count_eq_zero, l.count_newline_line]
        exact Lint.newlines_eq_zero_iff.mpr (plain l hl)
      · split at hline
        · cases hline
        · obtain rfl := List.mem_singleton.mp hline
          simp
    · obtain rfl := List.mem_singleton.mp hline
      exact List.count_eq_zero.mp r.count_newline_summary

/-- The message of a linter for the pattern of a line break quotes it, so its lint is on two
lines. -/
theorem human_breaks_quoted_pattern :
    let name : LinterName := ⟨"NoBreak", by decide +kernel⟩
    let message := PatternDefinition.lintMessage ⟨name, "a\nb", none, .warning⟩
    let r : Report := ⟨[⟨name, Path.ofString "a.scss", ⟨1, 1, 3⟩, .warning, message⟩], 1, 1⟩
    (r.human false).toList.count '\n' = 4 ∧ r.lints.length + 2 = 3 ∧
    ¬ IsLinesOf (some ∘ String.ofList) (r.human false) r.humanLines := by
  intro name message r
  have four : (r.human false).toList.count '\n' = 4 := by decide +kernel
  have three : r.humanLines.length = 3 := r.length_humanLines
  refine ⟨four, rfl, fun lines => ?_⟩
  have same := lines.count_newline
  omega

end Report

end Linting
