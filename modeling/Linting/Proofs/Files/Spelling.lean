import Linting.Files.Filter
import Linting.Proofs.Files.Components

/-! When two paths name the same file: when they agree once they are taken relative to the working
directory and `.` is dropped. Paths that are spelled the same way then have the same components;
others may name one file and yet be told apart. -/

namespace Linting

open Linting.Path

namespace Path

theorem filter_current (p : Path) :
    (p.components.filter (· != .current)) =
      (if p.spelling = .absolute then [.root] else []) ++ p.body := by
  have rest : p.body.filter (· != .current) = p.body := by
    refine List.filter_eq_self.mpr fun c hc => ?_
    simpa using (plain_of_mem_body hc).2
  rw [components_eq, List.filter_append, rest]
  cases p.spelling <;> rfl

theorem components_ofComponents (p : Path) :
    (ofComponents (p.components.filter (· != .current))).components =
      p.components.filter (· != .current) := by
  have proper : ∀ c ∈ p.body, Wellformed c := fun c hc => wellformed_of_mem_body hc
  rw [filter_current, components_eq]
  split
  · obtain ⟨spelled, rest⟩ := ofComponents_absolute proper
    rw [List.singleton_append, spelled, rest]
    rfl
  · obtain ⟨spelled, rest⟩ := ofComponents_relative proper
    rw [List.nil_append, spelled, rest]
    rfl

theorem isAbsolute_iff {p : Path} : p.isAbsolute = true ↔ p.spelling = .absolute := by
  unfold spelling
  constructor
  · intro h
    rw [if_pos h]
  · intro h
    by_contra relative
    rw [if_neg relative] at h
    split at h <;> cases h

theorem components_of_isAbsolute {p : Path} (h : p.isAbsolute = true) :
    p.components = .root :: p.body := by
  rw [components_eq, isAbsolute_iff.mp h]
  rfl

end Path

namespace FileFilter

variable {cwd p q : Path}

/-- The paths that are made relative: absolute ones under the working directory. -/
def IsBelow (cwd p : Path) : Prop :=
  p.spelling = .absolute ∧ cwd.components ≠ [] ∧ cwd.components <+: p.components

instance : Decidable (IsBelow cwd p) := inferInstanceAs (Decidable (_ ∧ _ ∧ _))

/-- The working directory is in front of what is under it. -/
theorem body_of_isBelow (h : IsBelow cwd p) :
    p.body = cwd.body ++ p.body.drop cwd.body.length := by
  obtain ⟨absolute, nonempty, more, text⟩ := h
  have front : cwd.components = .root :: cwd.body := by
    have first : cwd.components.head? = some .root := by
      rw [← List.head?_append_of_ne_nil _ nonempty, text, components_eq, absolute]
      rfl
    have rooted : cwd.spelling = .absolute := by
      rw [spelling_eq_ofHead, first]
      rfl
    exact components_of_isAbsolute (isAbsolute_iff.mpr rooted)
  have behind : cwd.body ++ more = p.body := by
    rw [front, components_eq, absolute] at text
    exact (List.cons.inj text).2
  rw [← behind, List.drop_left]

/-- The components of the spelling that patterns are matched against. -/
theorem components_matchablePath (cwd p : Path) :
    (matchablePath cwd p).components =
      if IsBelow cwd p then p.body.drop cwd.body.length
      else p.components.filter (· != .current) := by
  unfold matchablePath
  by_cases below : IsBelow cwd p
  · rw [if_pos below]
    obtain ⟨absolute, nonempty, front⟩ := below
    -- what is left of `p` is relative, so nothing of it is dropped
    have inside : ∀ piece ∈ dropPieces cwd.body.length (pieces p.bytes), slash ∉ piece :=
      fun piece hpiece =>
        slash_not_mem_of_mem_pieces ((dropPieces_suffix _ _).subset hpiece)
    obtain ⟨bare, rest⟩ := joinPieces_trimmed inside
    rw [filterMap_dropPieces] at rest
    rw [if_pos (isAbsolute_iff.mpr absolute), stripPrefix?_eq, if_neg nonempty,
      if_pos (List.isPrefixOf_iff_prefix.mpr front), Option.getD_some, components_ofComponents,
      filter_current, bare, rest]
    rfl
  · have kept : (if p.isAbsolute then (p.stripPrefix? cwd).getD p else p) = p := by
      split
      · rename_i absolute
        have absolute := isAbsolute_iff.mp absolute
        rw [stripPrefix?_eq]
        split
        · rfl
        · rename_i nonempty
          rw [if_neg fun front =>
            below ⟨absolute, nonempty, List.isPrefixOf_iff_prefix.mp front⟩]
          rfl
      · rfl
    simp only [kept, components_ofComponents, if_neg below]

theorem components_matchablePath_of_relative (cwd : Path) (relative : p.isAbsolute = false) :
    (matchablePath cwd p).components = p.body := by
  have bare : p.spelling ≠ .absolute := by
    rw [Ne, ← isAbsolute_iff, relative]
    exact Bool.false_ne_true
  have outside : ¬IsBelow cwd p := fun below => bare below.1
  rw [components_matchablePath, if_neg outside, filter_current, if_neg bare, List.nil_append]

/-- Two paths name the same file. -/
def SameFile (cwd p q : Path) : Prop := (matchablePath cwd p).same (matchablePath cwd q) = true

theorem sameFile_iff :
    SameFile cwd p q ↔ (matchablePath cwd p).components = (matchablePath cwd q).components := by
  rw [SameFile, same_iff_components]

theorem sameFile_of_same (h : p.same q = true) : SameFile cwd p q := by
  obtain ⟨spelled, rest⟩ := same_iff.mp h
  have components := same_iff_components.mp h
  have below : IsBelow cwd p ↔ IsBelow cwd q := by rw [IsBelow, IsBelow, spelled, components]
  simp only [sameFile_iff, components_matchablePath, below, rest, components]

theorem root_not_mem_body (p : Path) : Component.root ∉ p.body :=
  fun h => (plain_of_mem_body h).1 rfl

/-- Of the files that are spelled alike, the spelling tells one from another. -/
theorem body_eq_of_sameFile (spelled : p.spelling = q.spelling) (h : SameFile cwd p q) :
    p.body = q.body := by
  rw [sameFile_iff, components_matchablePath, components_matchablePath] at h
  by_cases hp : IsBelow cwd p <;> by_cases hq : IsBelow cwd q
  · rw [if_pos hp, if_pos hq] at h
    rw [body_of_isBelow hp, body_of_isBelow hq, h]
  · -- the root would be behind the working directory
    rw [if_pos hp, if_neg hq, filter_current, ← spelled, if_pos hp.1] at h
    have root : Component.root ∈ p.body.drop cwd.body.length := h ▸ List.mem_cons_self
    exact absurd (List.mem_of_mem_drop root) (root_not_mem_body p)
  · rw [if_neg hp, if_pos hq, filter_current, spelled, if_pos hq.1] at h
    have root : Component.root ∈ q.body.drop cwd.body.length := h ▸ List.mem_cons_self
    exact absurd (List.mem_of_mem_drop root) (root_not_mem_body q)
  · rw [if_neg hp, if_neg hq, filter_current, filter_current, spelled] at h
    exact List.append_cancel_left h

theorem same_iff_sameFile : p.same q = true ↔ p.spelling = q.spelling ∧ SameFile cwd p q := by
  constructor
  · intro h
    exact ⟨(same_iff.mp h).1, sameFile_of_same h⟩
  · rintro ⟨spelled, h⟩
    exact same_iff.mpr ⟨spelled, body_eq_of_sameFile spelled h⟩

end FileFilter

end Linting
