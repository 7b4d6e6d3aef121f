import Linting.Config.Validate
import Mathlib.Data.List.Nodup

/-! When a configuration has no fault, in terms of its values alone. -/

namespace Linting.Config

theorem badGlob?_eq_none_iff {patterns : List String} :
    badGlob? patterns = none ↔ ∀ p ∈ patterns, ∃ glob, Glob.compile p .filter = .ok glob := by
  induction patterns with
  | nil => simp [badGlob?]
  | cons pattern rest ih =>
    rw [badGlob?, List.forall_mem_cons]
    cases h : Glob.compile pattern .filter with
    | error e => simp
    | ok glob => simpa using ih

/-- Names before the patterns count as used. -/
theorem patternFault?_eq_none_iff {seen : List LinterName} {patterns : List PatternDefinition} :
    patternFault? seen patterns = none ↔
      (∀ p ∈ patterns, ∃ regex, Regex.compile p.pattern = .ok regex) ∧
      (patterns.map PatternDefinition.name).Nodup ∧ ∀ p ∈ patterns, p.name ∉ seen := by
  induction patterns generalizing seen with
  | nil => simp [patternFault?]
  | cons p rest ih =>
    rw [patternFault?, List.map_cons, List.nodup_cons, List.forall_mem_cons,
      List.forall_mem_cons]
    by_cases used : p.name ∈ seen
    · simp [used]
    · rw [if_neg (by simpa using used)]
      cases h : Regex.compile p.pattern with
      | error e => simp
      | ok regex =>
        have later : (∀ q ∈ rest, q.name ∉ p.name :: seen) ↔
            p.name ∉ rest.map PatternDefinition.name ∧ ∀ q ∈ rest, q.name ∉ seen := by
          simp only [List.mem_cons, not_or, List.mem_map, not_exists, not_and]
          exact ⟨fun h => ⟨fun q hq => (h q hq).1, fun q hq => (h q hq).2⟩,
            fun h q hq => ⟨h.1 q hq, h.2 q hq⟩⟩
        simp only [ih, later, used, not_false_eq_true, true_and, Except.ok.injEq, exists_eq']
        tauto

theorem fault?_eq_none_iff {c : Config} :
    c.fault? = none ↔
      c.files.version = "1" ∧
      (∀ p ∈ c.files.included, ∃ glob, Glob.compile p .filter = .ok glob) ∧
      (∀ p ∈ c.files.excluded, ∃ glob, Glob.compile p .filter = .ok glob) ∧
      (0 < c.linters.maxLineLength ∧ c.linters.maxLineLength ≤ Builtin.maxWord32) ∧
      (∀ p ∈ c.patterns, ∃ regex, Regex.compile p.pattern = .ok regex) ∧
      (c.patterns.map PatternDefinition.name).Nodup := by
  rw [fault?, ← badGlob?_eq_none_iff, ← badGlob?_eq_none_iff]
  by_cases version : c.files.version = "1"
  · rw [if_neg (by simpa using version)]
    cases badGlob? c.files.included with
    | some bad => simp
    | none =>
      cases badGlob? c.files.excluded with
      | some bad => simp
      | none =>
        by_cases zero : c.linters.maxLineLength = 0
        · simp [zero]
        · by_cases huge : Builtin.maxWord32 < c.linters.maxLineLength
          · simp [zero, huge, Nat.not_le.mpr huge]
          · simp [zero, huge, version, Nat.pos_of_ne_zero zero, Nat.not_lt.mp huge,
              patternFault?_eq_none_iff]
  · simp [version]

theorem fault?_of_parse {text : String} {c : Config} (h : parse text = .ok c) :
    c.fault? = none := by
  unfold parse at h
  split at h
  · cases h
  · split at h
    · cases h
    · unfold validate at h
      split at h
      · cases h
      · rename_i accepted
        cases h
        exact accepted

end Linting.Config
