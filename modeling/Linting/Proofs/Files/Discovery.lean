import Linting.Proofs.CommandLine.Commands
import Linting.Proofs.Files.Components
import Linting.Proofs.Files.Sorting
import Linting.Proofs.Files.Walk
import Mathlib.Data.List.Sort

/-! What a search for files comes to: the error of the first path that cannot be searched, or else
the files that the paths stand for, whatever the order of the paths. -/

namespace Linting

namespace Discovery

variable {fs : FileSystem} {filter : FileFilter}

/-- Why a path cannot be searched. -/
inductive Fails (fs : FileSystem) (filter : FileFilter) : Path → DiscoveryError → Prop
  | missing {p : Path} (file : fs.isFile p = false) (dir : fs.isDir p = false) :
      Fails fs filter p (.missing p)
  | walk {p : Path} {e : WalkError} (dir : fs.isDir p = true)
      (h : Walk.visits fs filter p = .error e) : Fails fs filter p (.walk e)

/-- The error is that of the first path that cannot be searched. -/
def FirstFailure (fs : FileSystem) (filter : FileFilter) (paths : List Path)
    (e : DiscoveryError) : Prop :=
  ∃ before p after, paths = before ++ p :: after ∧
    (∀ q ∈ before, ∀ other, ¬Fails fs filter q other) ∧ Fails fs filter p e

/-- The files that paths stand for: those that are named and not excluded, and those that a walk of
a named directory comes to and the filter takes. -/
inductive Named (fs : FileSystem) (filter : FileFilter) (paths : List Path) : Path → Prop
  | file {p : Path} (h : p ∈ paths) (file : fs.isFile p = true)
      (kept : filter.isExcluded (FileSystem.absolute fs.cwd) p = false) : Named fs filter paths p
  | walked {root p : Path} (h : root ∈ paths) (dir : fs.isDir root = true)
      (yields : Walk.Yields fs root p)
      (kept : filter.check ((p.stripPrefix? root).getD p) = none) : Named fs filter paths p

theorem isDir_eq_false_of_isFile {p : Path} (h : fs.isFile p = true) : fs.isDir p = false := by
  unfold FileSystem.isFile at h
  unfold FileSystem.isDir
  cases node : fs.node? p with
  | none => rfl
  | some n =>
    rw [node] at h
    cases n with
    | file bytes => rfl
    | dir entries => cases h
    | link target => cases h

section Argument

variable {p : Path}

/-- A path is a file, a directory whose walk fails or not, or neither. -/
theorem filesAt_cases (fs : FileSystem) (filter : FileFilter) (p : Path) :
    (fs.isFile p = true ∧ fs.isDir p = false ∧ (filesAt fs filter p).result =
      .ok (if filter.isExcluded (FileSystem.absolute fs.cwd) p then [] else [p])) ∨
    (fs.isFile p = false ∧ fs.isDir p = true ∧
      ((∃ e, Walk.visits fs filter p = .error e ∧
        (filesAt fs filter p).result = .error (.walk e)) ∨
      ∃ found, Walk.visits fs filter p = .ok found ∧
        (filesAt fs filter p).result = .ok (walkFiles found))) ∨
    (fs.isFile p = false ∧ fs.isDir p = false ∧
      (filesAt fs filter p).result = .error (.missing p)) := by
  unfold filesAt
  by_cases file : fs.isFile p = true
  · refine .inl ⟨file, isDir_eq_false_of_isFile file, ?_⟩
    rw [if_pos file]
    split <;> rfl
  · rw [if_neg file]
    by_cases dir : fs.isDir p = true
    · refine .inr (.inl ⟨by simpa using file, dir, ?_⟩)
      rw [if_pos dir]
      cases walked : Walk.visits fs filter p with
      | error e => exact .inl ⟨e, rfl, rfl⟩
      | ok found => exact .inr ⟨found, rfl, rfl⟩
    · rw [if_neg dir]
      exact .inr (.inr ⟨by simpa using file, by simpa using dir, rfl⟩)

theorem fails_iff {e : DiscoveryError} :
    Fails fs filter p e ↔
      (fs.isFile p = false ∧ fs.isDir p = false ∧ e = .missing p) ∨
      (fs.isDir p = true ∧ ∃ failure, Walk.visits fs filter p = .error failure ∧
        e = .walk failure) := by
  constructor
  · rintro (⟨file, dir⟩ | ⟨dir, walked⟩)
    · exact .inl ⟨file, dir, rfl⟩
    · exact .inr ⟨dir, _, walked, rfl⟩
  · rintro (⟨file, dir, rfl⟩ | ⟨dir, failure, walked, rfl⟩)
    · exact .missing file dir
    · exact .walk dir walked

theorem filesAt_eq_error_iff {e : DiscoveryError} :
    (filesAt fs filter p).result = .error e ↔ Fails fs filter p e := by
  rw [fails_iff]
  rcases filesAt_cases fs filter p with ⟨file, dir, result⟩ |
    ⟨file, dir, ⟨failure, walked, result⟩ | ⟨found, walked, result⟩⟩ | ⟨file, dir, result⟩
  all_goals rw [result]
  · simp [file, dir]
  · simpa [dir, walked] using eq_comm
  · simp [dir, walked]
  · simpa [file, dir] using eq_comm

theorem named_singleton_iff {q : Path} :
    Named fs filter [p] q ↔
      (q = p ∧ fs.isFile p = true ∧ filter.isExcluded (FileSystem.absolute fs.cwd) p = false) ∨
      (fs.isDir p = true ∧ Walk.Yields fs p q ∧
        filter.check ((q.stripPrefix? p).getD q) = none) := by
  constructor
  · rintro (⟨named, file, kept⟩ | ⟨named, dir, yields, kept⟩)
    all_goals obtain rfl := List.mem_singleton.mp named
    · exact .inl ⟨rfl, file, kept⟩
    · exact .inr ⟨dir, yields, kept⟩
  · rintro (⟨rfl, file, kept⟩ | ⟨dir, yields, kept⟩)
    · exact .file List.mem_cons_self file kept
    · exact .walked List.mem_cons_self dir yields kept

theorem mem_filesAt_iff {found : List Path} (h : (filesAt fs filter p).result = .ok found)
    (q : Path) : q ∈ found ↔ Named fs filter [p] q := by
  rw [named_singleton_iff]
  rcases filesAt_cases fs filter p with ⟨file, dir, result⟩ |
    ⟨file, dir, ⟨failure, walked, result⟩ | ⟨visited, walked, result⟩⟩ | ⟨file, dir, result⟩
  all_goals rw [result] at h; cases h
  · cases filter.isExcluded (FileSystem.absolute fs.cwd) p <;> simp [file, dir]
  · simp [file, dir, Walk.mem_walkFiles_iff dir walked]

end Argument

section Arguments

variable {paths : List Path}

theorem named_mono {some more : List Path} (h : ∀ p ∈ some, p ∈ more) {q : Path}
    (named : Named fs filter some q) : Named fs filter more q := by
  cases named with
  | file hq file kept => exact .file (h q hq) file kept
  | walked hroot dir yields kept => exact .walked (h _ hroot) dir yields kept

theorem named_cons_iff {p q : Path} :
    Named fs filter (p :: paths) q ↔ Named fs filter [p] q ∨ Named fs filter paths q := by
  constructor
  · rintro (⟨named, file, kept⟩ | ⟨named, dir, yields, kept⟩)
    · rcases List.mem_cons.mp named with rfl | later
      · exact .inl (.file List.mem_cons_self file kept)
      · exact .inr (.file later file kept)
    · rcases List.mem_cons.mp named with rfl | later
      · exact .inl (.walked List.mem_cons_self dir yields kept)
      · exact .inr (.walked later dir yields kept)
  · rintro (first | later)
    · exact named_mono (by simp) first
    · exact named_mono (fun q hq => List.mem_cons_of_mem p hq) later

theorem firstFailure_cons_iff {p : Path} {e : DiscoveryError} :
    FirstFailure fs filter (p :: paths) e ↔
      Fails fs filter p e ∨
        (∀ other, ¬Fails fs filter p other) ∧ FirstFailure fs filter paths e := by
  constructor
  · rintro ⟨before, q, after, split, fine, fails⟩
    cases before with
    | nil =>
      cases split
      exact .inl fails
    | cons first before =>
      cases split
      exact .inr ⟨fine p List.mem_cons_self, before, q, after, rfl,
        fun r hr => fine r (List.mem_cons_of_mem p hr), fails⟩
  · rintro (fails | ⟨fine, before, q, after, rfl, others, fails⟩)
    · exact ⟨[], p, paths, rfl, by simp, fails⟩
    · exact ⟨p :: before, q, after, rfl, List.forall_mem_cons.mpr ⟨fine, others⟩, fails⟩

theorem forall_not_fails_iff {p : Path} :
    (∀ e, ¬Fails fs filter p e) ↔ ∃ found, (filesAt fs filter p).result = .ok found := by
  simp only [← filesAt_eq_error_iff]
  cases (filesAt fs filter p).result with
  | error e => simp
  | ok found => simp

/-- Paths are searched in their order, up to the first that fails. -/
theorem filesAtAll_eq_error_iff {e : DiscoveryError} :
    (filesAtAll fs filter paths).result = .error e ↔ FirstFailure fs filter paths e := by
  induction paths with
  | nil => simp [filesAtAll, Logged.result_pure, FirstFailure]
  | cons p paths ih =>
    rw [firstFailure_cons_iff, forall_not_fails_iff, ← ih, ← filesAt_eq_error_iff, filesAtAll]
    simp [Logged.result_bind_eq_error_iff, Logged.result_pure]

theorem mem_filesAtAll_iff {found : List Path}
    (h : (filesAtAll fs filter paths).result = .ok found) (q : Path) :
    q ∈ found ↔ Named fs filter paths q := by
  induction paths generalizing found with
  | nil =>
    cases h
    constructor
    · intro hq
      cases hq
    · rintro (⟨named, _⟩ | ⟨named, _⟩) <;> cases named
  | cons p paths ih =>
    obtain ⟨first, hfirst, h⟩ := Logged.result_bind_eq_ok_iff.mp h
    obtain ⟨rest, hrest, h⟩ := Logged.result_bind_eq_ok_iff.mp h
    cases h
    rw [List.mem_append, named_cons_iff, mem_filesAt_iff hfirst, ih hrest]

end Arguments

section Sorted

theorem mem_of_mem_dedupAfter {p q : Path} {files : List Path}
    (h : q ∈ dedup.dedupAfter p files) : q ∈ files := by
  induction files generalizing p with
  | nil => exact h
  | cons r files ih =>
    rw [dedup.dedupAfter] at h
    split at h
    · exact List.mem_cons_of_mem r (ih h)
    · rcases List.mem_cons.mp h with rfl | later
      · exact List.mem_cons_self
      · exact List.mem_cons_of_mem r (ih later)

/-- For whatever is dropped there is a file with the same components in front of it. -/
theorem exists_same_of_mem_dedupAfter {p q : Path} {files : List Path} (h : q ∈ p :: files) :
    ∃ r ∈ p :: dedup.dedupAfter p files, r.same q = true := by
  induction files generalizing p with
  | nil => exact ⟨q, h, Path.same_refl q⟩
  | cons next files ih =>
    rw [dedup.dedupAfter]
    split
    · rename_i same
      rcases List.mem_cons.mp h with rfl | later
      · exact ⟨q, List.mem_cons_self, Path.same_refl q⟩
      · rcases List.mem_cons.mp later with rfl | last
        · exact ⟨p, List.mem_cons_self, same⟩
        · exact ih (List.mem_cons_of_mem p last)
    · rcases List.mem_cons.mp h with rfl | later
      · exact ⟨q, List.mem_cons_self, Path.same_refl q⟩
      · obtain ⟨r, hr, same⟩ := ih later
        exact ⟨r, List.mem_cons_of_mem p hr, same⟩

theorem mem_of_mem_sortFiles {q : Path} {files : List Path} (h : q ∈ sortFiles files) :
    q ∈ files := by
  have sorted : q ∈ files.mergeSort fun p q => (p.cmp q).isLE := by
    unfold sortFiles at h
    generalize files.mergeSort (fun p q => (p.cmp q).isLE) = found at h ⊢
    cases found with
    | nil => exact h
    | cons p rest =>
      rcases List.mem_cons.mp h with rfl | later
      · exact List.mem_cons_self
      · exact List.mem_cons_of_mem p (mem_of_mem_dedupAfter later)
  exact List.mem_mergeSort.mp sorted

theorem exists_same_of_mem_sortFiles {q : Path} {files : List Path} (h : q ∈ files) :
    ∃ r ∈ sortFiles files, r.same q = true := by
  have sorted : q ∈ files.mergeSort fun p q => (p.cmp q).isLE := List.mem_mergeSort.mpr h
  unfold sortFiles
  generalize files.mergeSort (fun p q => (p.cmp q).isLE) = found at sorted ⊢
  cases found with
  | nil => cases sorted
  | cons p rest => exact exists_same_of_mem_dedupAfter sorted

/-- The order of components is strict. -/
def Before (cs ds : List Component) : Prop := Component.cmpAll cs ds = .lt

instance : Std.Irrefl Before where
  irrefl cs less := by
    have self : Component.cmpAll cs cs = .eq := Std.ReflCmp.compare_self
    rw [Before, self] at less
    cases less

instance : Std.Antisymm Before where
  antisymm cs ds less more := by
    have swap : Component.cmpAll ds cs = (Component.cmpAll cs ds).swap := Std.OrientedCmp.eq_swap
    rw [Before] at less more
    rw [less, more] at swap
    cases swap

/-- Sorted lists with the same components in them agree file by file. -/
theorem forall₂_same_of_pairwise {files others : List Path}
    (h : files.Pairwise fun p q => p.cmp q = .lt) (h' : others.Pairwise fun p q => p.cmp q = .lt)
    (into : ∀ p ∈ files, ∃ q ∈ others, q.same p = true)
    (onto : ∀ q ∈ others, ∃ p ∈ files, p.same q = true) :
    List.Forall₂ (fun p q => p.same q = true) files others := by
  have sorted : (files.map Path.components).Pairwise Before := List.pairwise_map.mpr h
  have sorted' : (others.map Path.components).Pairwise Before := List.pairwise_map.mpr h'
  have members : ∀ cs, cs ∈ files.map Path.components ↔ cs ∈ others.map Path.components := by
    intro cs
    simp only [List.mem_map]
    constructor
    · rintro ⟨p, hp, rfl⟩
      obtain ⟨q, hq, same⟩ := into p hp
      exact ⟨q, hq, Path.same_iff_components.mp same⟩
    · rintro ⟨q, hq, rfl⟩
      obtain ⟨p, hp, same⟩ := onto q hq
      exact ⟨p, hp, Path.same_iff_components.mp same⟩
  have components := sorted.eq_of_mem_iff sorted' members
  rw [← List.forall₂_eq_eq_eq, List.forall₂_map_left_iff, List.forall₂_map_right_iff] at components
  exact components.imp fun p q same => Path.same_iff_components.mpr same

end Sorted

section Search

variable {paths files : List Path}

theorem discover_eq_error_iff {e : DiscoveryError} :
    (discover fs filter paths).result = .error e ↔ FirstFailure fs filter paths e := by
  rw [← filesAtAll_eq_error_iff, discover]
  simp [Logged.result_bind_eq_error_iff, Logged.result_pure, Logged.log]

theorem exists_firstFailure_iff :
    (∃ e, FirstFailure fs filter paths e) ↔ ∃ p ∈ paths, ∃ e, Fails fs filter p e := by
  induction paths with
  | nil => simp [FirstFailure]
  | cons p paths ih =>
    simp only [firstFailure_cons_iff, List.exists_mem_cons_iff, ← ih]
    by_cases fails : ∃ e, Fails fs filter p e
    · obtain ⟨e, he⟩ := fails
      exact ⟨fun _ => .inl ⟨e, he⟩, fun _ => ⟨e, .inl he⟩⟩
    · have fine : ∀ e, ¬Fails fs filter p e := fun e he => fails ⟨e, he⟩
      simp [fine]

theorem exists_discover_eq_ok_iff :
    (∃ files, (discover fs filter paths).result = .ok files) ↔
      ∀ p ∈ paths, ∀ e, ¬Fails fs filter p e := by
  have failure : (∀ p ∈ paths, ∀ e, ¬Fails fs filter p e) ↔
      ¬∃ e, (discover fs filter paths).result = .error e := by
    simp only [discover_eq_error_iff, exists_firstFailure_iff]
    push Not
    rfl
  rw [failure]
  cases (discover fs filter paths).result with
  | error e => simp
  | ok files => simp

theorem pairwise_discover (h : (discover fs filter paths).result = .ok files) :
    files.Pairwise fun p q => p.cmp q = .lt := by
  obtain ⟨found, -, rfl⟩ := discover_eq_ok_iff.mp h
  exact pairwise_sortFiles found

theorem named_of_mem_discover (h : (discover fs filter paths).result = .ok files) :
    ∀ p ∈ files, Named fs filter paths p := by
  obtain ⟨found, hfound, rfl⟩ := discover_eq_ok_iff.mp h
  exact fun p hp => (mem_filesAtAll_iff hfound p).mp (mem_of_mem_sortFiles hp)

theorem exists_same_of_named (h : (discover fs filter paths).result = .ok files) :
    ∀ p, Named fs filter paths p → ∃ q ∈ files, q.same p = true := by
  obtain ⟨found, hfound, rfl⟩ := discover_eq_ok_iff.mp h
  exact fun p hp => exists_same_of_mem_sortFiles ((mem_filesAtAll_iff hfound p).mpr hp)

/-- Only which paths there are counts, not their order and not how often they are named. -/
theorem exists_discover_of_mem_iff (h : (discover fs filter paths).result = .ok files)
    {others : List Path} (same : ∀ p, p ∈ others ↔ p ∈ paths) :
    ∃ again, (discover fs filter others).result = .ok again ∧
      List.Forall₂ (fun p q => p.same q = true) again files := by
  have fine := exists_discover_eq_ok_iff.mp ⟨files, h⟩
  obtain ⟨again, hagain⟩ := exists_discover_eq_ok_iff.mpr
    fun p hp => fine p ((same p).mp hp)
  refine ⟨again, hagain, ?_⟩
  apply forall₂_same_of_pairwise (pairwise_discover hagain) (pairwise_discover h)
  · intro p hp
    have named := named_of_mem_discover hagain p hp
    exact exists_same_of_named h p (named_mono (fun q hq => (same q).mp hq) named)
  · intro q hq
    have named := named_of_mem_discover h q hq
    exact exists_same_of_named hagain q (named_mono (fun p hp => (same p).mpr hp) named)

/-- The search fails exactly when a path cannot be searched, with the error of the first. Otherwise
its files ascend and are those that the paths stand for, and paths in another order or named more
often lead to the same files. -/
theorem discover_exact (fs : FileSystem) (filter : FileFilter) (paths : List Path) :
    (∀ e, (discover fs filter paths).result = .error e ↔ FirstFailure fs filter paths e) ∧
    ((∃ files, (discover fs filter paths).result = .ok files) ↔
      ∀ p ∈ paths, ∀ e, ¬Fails fs filter p e) ∧
    ∀ files, (discover fs filter paths).result = .ok files →
      (files.Pairwise fun p q => p.cmp q = .lt) ∧
      (∀ p ∈ files, Named fs filter paths p) ∧
      (∀ p, Named fs filter paths p → ∃ q ∈ files, q.same p = true) ∧
      ∀ others, (∀ p, p ∈ others ↔ p ∈ paths) →
        ∃ again, (discover fs filter others).result = .ok again ∧
          List.Forall₂ (fun p q => p.same q = true) again files :=
  ⟨fun _ => discover_eq_error_iff, exists_discover_eq_ok_iff, fun _ h =>
    ⟨pairwise_discover h, named_of_mem_discover h, exists_same_of_named h,
      fun _ same => exists_discover_of_mem_iff h same⟩⟩

end Search

end Discovery

end Linting
