import Linting.Files.Filter
import Mathlib.Data.List.Basic

/-! Making a filter from two lists of patterns. It fails for the first pattern that cannot be read,
and otherwise holds a glob for each pattern of the lists. -/

namespace Linting.FileFilter

theorem exists_compileAll_iff {patterns : List String} :
    (∃ globs, compileAll patterns = .ok globs) ↔
      ∀ p ∈ patterns, ∃ glob, Glob.compile p .filter = .ok glob := by
  induction patterns with
  | nil => simp [compileAll]
  | cons pattern rest ih =>
    rw [compileAll, List.forall_mem_cons, ← ih]
    cases Glob.compile pattern .filter with
    | error e => simp
    | ok glob => cases compileAll rest <;> simp [Except.map]

/-- What the pattern that is always excluded stands for. -/
def gitGlob : Glob where
  pattern := alwaysExcluded
  dialect := .filter
  tokens := [.recursivePrefix, .literal '.', .literal 'g', .literal 'i', .literal 't',
    .recursiveSuffix]

theorem compile_alwaysExcluded : Glob.compile alwaysExcluded .filter = .ok gitGlob := rfl

/-- The pattern that every filter excludes compiles too, so making a filter cannot fail. -/
theorem ofPatterns_of_forall {included excluded : List String}
    (hincluded : ∀ p ∈ included, ∃ glob, Glob.compile p .filter = .ok glob)
    (hexcluded : ∀ p ∈ excluded, ∃ glob, Glob.compile p .filter = .ok glob) :
    ∃ filter, ofPatterns included excluded = .ok filter := by
  have all : ∀ p ∈ excluded ++ [alwaysExcluded], ∃ glob, Glob.compile p .filter = .ok glob := by
    intro p hp
    rcases List.mem_append.mp hp with hp | hp
    · exact hexcluded p hp
    · exact List.mem_singleton.mp hp ▸ ⟨gitGlob, compile_alwaysExcluded⟩
  obtain ⟨includedGlobs, hi⟩ := exists_compileAll_iff.mpr hincluded
  obtain ⟨excludedGlobs, he⟩ := exists_compileAll_iff.mpr all
  rw [ofPatterns, hi, he]
  cases included.isEmpty <;> exact ⟨_, rfl⟩

/-- The first pattern of a list that cannot be read. -/
def IsFirstBad (patterns : List String) (bad : BadPattern) : Prop :=
  ∃ before after, patterns = before ++ bad.pattern :: after ∧
    (∀ p ∈ before, ∃ glob, Glob.compile p .filter = .ok glob) ∧
    Glob.compile bad.pattern .filter = .error bad.error

variable {patterns included excluded : List String} {bad : BadPattern}

theorem isFirstBad_nil : ¬IsFirstBad [] bad := by
  rintro ⟨before, after, split, -, -⟩
  cases before <;> cases split

theorem isFirstBad_cons {pattern : String} :
    IsFirstBad (pattern :: patterns) bad ↔
      (bad.pattern = pattern ∧ Glob.compile pattern .filter = .error bad.error) ∨
      (∃ glob, Glob.compile pattern .filter = .ok glob) ∧ IsFirstBad patterns bad := by
  constructor
  · rintro ⟨before, after, split, fine, error⟩
    cases before with
    | nil =>
      cases split
      exact .inl ⟨rfl, error⟩
    | cons first before =>
      cases split
      exact .inr ⟨fine pattern List.mem_cons_self, before, after, rfl,
        fun p hp => fine p (List.mem_cons_of_mem pattern hp), error⟩
  · rintro (⟨rfl, error⟩ | ⟨first, before, after, rfl, fine, error⟩)
    · exact ⟨[], patterns, rfl, by simp, error⟩
    · exact ⟨pattern :: before, after, rfl, List.forall_mem_cons.mpr ⟨first, fine⟩, error⟩

theorem compileAll_eq_error_iff : compileAll patterns = .error bad ↔ IsFirstBad patterns bad := by
  induction patterns with
  | nil => exact iff_of_false (by simp [compileAll]) isFirstBad_nil
  | cons pattern rest ih =>
    rw [isFirstBad_cons, ← ih, compileAll]
    cases Glob.compile pattern .filter with
    | error e =>
      obtain ⟨badPattern, badError⟩ := bad
      simp [eq_comm]
    | ok glob => cases compileAll rest <;> simp [Except.map]

theorem isFirstBad_append {front back : List String} :
    IsFirstBad (front ++ back) bad ↔
      IsFirstBad front bad ∨
      (∀ p ∈ front, ∃ glob, Glob.compile p .filter = .ok glob) ∧ IsFirstBad back bad := by
  induction front with
  | nil => simp [isFirstBad_nil]
  | cons pattern front ih =>
    rw [List.cons_append, isFirstBad_cons, isFirstBad_cons, ih, List.forall_mem_cons]
    tauto

/-- The globs are those of the patterns. -/
theorem mem_compileAll {globs : List Glob} (h : compileAll patterns = .ok globs) {glob : Glob} :
    glob ∈ globs ↔ ∃ p ∈ patterns, Glob.compile p .filter = .ok glob := by
  induction patterns generalizing globs with
  | nil =>
    cases h
    simp
  | cons pattern rest ih =>
    rw [compileAll] at h
    cases first : Glob.compile pattern .filter with
    | error e =>
      rw [first] at h
      cases h
    | ok g =>
      simp only [first] at h
      cases later : compileAll rest with
      | error e =>
        rw [later] at h
        cases h
      | ok more =>
        rw [later] at h
        cases h
        simp [ih later, first, eq_comm]

/-- Without patterns to include by there is nothing to compile of them. -/
theorem ofPatterns_eq (included excluded : List String) :
    ofPatterns included excluded =
      if included = [] then (compileAll (excluded ++ [alwaysExcluded])).map (mk none)
      else (compileAll included).bind fun globs =>
        (compileAll (excluded ++ [alwaysExcluded])).map (mk (some globs)) := by
  rw [ofPatterns]
  cases included with
  | nil => cases compileAll (excluded ++ [alwaysExcluded]) <;> rfl
  | cons pattern rest =>
    cases compileAll (pattern :: rest) <;>
      cases compileAll (excluded ++ [alwaysExcluded]) <;> rfl

theorem ofPatterns_eq_ok_iff {f : FileFilter} :
    ofPatterns included excluded = .ok f ↔
      (included = [] ∧ f.included = none ∨
        included ≠ [] ∧ ∃ globs, compileAll included = .ok globs ∧ f.included = some globs) ∧
      compileAll (excluded ++ [alwaysExcluded]) = .ok f.excluded := by
  obtain ⟨globs, others⟩ := f
  rw [ofPatterns_eq]
  cases compileAll (excluded ++ [alwaysExcluded]) <;> by_cases none : included = [] <;>
    cases compileAll included <;> simp [none, Except.map, Except.bind, eq_comm]

theorem exists_ofPatterns_iff :
    (∃ f, ofPatterns included excluded = .ok f) ↔
      ∀ p ∈ included ++ excluded, ∃ glob, Glob.compile p .filter = .ok glob := by
  rw [List.forall_mem_append]
  constructor
  · rintro ⟨f, h⟩
    obtain ⟨first, all⟩ := ofPatterns_eq_ok_iff.mp h
    refine ⟨?_, (List.forall_mem_append.mp (exists_compileAll_iff.mp ⟨_, all⟩)).1⟩
    rcases first with ⟨rfl, -⟩ | ⟨-, globs, compiled, -⟩
    · exact fun p hp => absurd hp List.not_mem_nil
    · exact exists_compileAll_iff.mp ⟨globs, compiled⟩
  · rintro ⟨hincluded, hexcluded⟩
    exact ofPatterns_of_forall hincluded hexcluded

/-- Patterns to include are read first, and the one that is always excluded is never to blame. -/
theorem ofPatterns_eq_error_iff :
    ofPatterns included excluded = .error bad ↔ IsFirstBad (included ++ excluded) bad := by
  have always : IsFirstBad (excluded ++ [alwaysExcluded]) bad ↔ IsFirstBad excluded bad := by
    simp [isFirstBad_append, isFirstBad_cons, isFirstBad_nil, compile_alwaysExcluded]
  rw [isFirstBad_append, ← always, ← compileAll_eq_error_iff, ← compileAll_eq_error_iff,
    ← exists_compileAll_iff, ofPatterns_eq]
  cases compileAll (excluded ++ [alwaysExcluded]) <;> by_cases none : included = [] <;>
    cases first : compileAll included <;> simp_all [compileAll, Except.map, Except.bind]

end Linting.FileFilter
