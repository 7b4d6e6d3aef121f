import Linting.Files.Discovery

/-! Which files a walk comes to: those that are not ignored, in directories none of which is, and
which the filter takes. -/

namespace Linting

namespace Walk

/-- From an entry a walk reaches another: itself, or one below it, where no entry on the way is
ignored by the directories above it. -/
inductive Reached (fs : FileSystem) :
    List IgnoreLevel → Path → List FileName → Node → Path → Node → Prop
  | self (levels : List IgnoreLevel) (path : Path) (names : List FileName) (node : Node) :
      Reached fs levels path names node path node
  | inside {levels : List IgnoreLevel} {path : Path} {names : List FileName}
      {entries : List (FileName × Node)} {name : FileName} {child : Node} {p : Path} {n : Node}
      (entry : (name, child) ∈ entries)
      (kept : IgnoreLevel.isIgnored ((IgnoreLevel.ofDirectory fs names).1 :: levels)
        (names ++ [name]) child.isDir = false)
      (further : Reached fs ((IgnoreLevel.ofDirectory fs names).1 :: levels) (path.join ⟨name⟩)
        (names ++ [name]) child p n) :
      Reached fs levels path names (.dir entries) p n

/-- A walk of the directory `root` comes to the file `p`. -/
def Yields (fs : FileSystem) (root p : Path) : Prop :=
  ∃ names node bytes, fs.find true root = .ok (names, node) ∧
    Reached fs (parentLevels fs names).1 root names node p (.file bytes)

variable {c : Context} {levels : List IgnoreLevel} {path : Path} {names : List FileName}

/-- What is said of an entry. -/
def Context.visitOf (c : Context) (path : Path) : Node → Visit
  | .file _ => c.visitFile path
  | _ => ⟨path, some .notAFile⟩

theorem mem_visitEntries_iff {entries : List (FileName × Node)} {v : Visit} :
    v ∈ visitEntries c levels path names entries ↔
      ∃ name child, (name, child) ∈ entries ∧
        IgnoreLevel.isIgnored levels (names ++ [name]) child.isDir = false ∧
        v ∈ visit c levels (path.join ⟨name⟩) (names ++ [name]) child := by
  induction entries with
  | nil => simp [visitEntries]
  | cons entry rest ih =>
    obtain ⟨name, child⟩ := entry
    rw [visitEntries, List.mem_append, ih]
    constructor
    · rintro (first | ⟨other, node, hentry, kept, hv⟩)
      · split at first
        · cases first
        · rename_i kept
          exact ⟨name, child, List.mem_cons_self, by simpa using kept, first⟩
      · exact ⟨other, node, List.mem_cons_of_mem _ hentry, kept, hv⟩
    · rintro ⟨other, node, hentry, kept, hv⟩
      rcases List.mem_cons.mp hentry with same | later
      · cases same
        exact .inl (by simpa [kept] using hv)
      · exact .inr ⟨other, node, later, kept, hv⟩

theorem mem_visit_of_reached {fs : FileSystem} {node n : Node} {p : Path}
    (h : Reached fs levels path names node p n) (hc : c.fs = fs) :
    c.visitOf p n ∈ visit c levels path names node := by
  induction h with
  | self levels path names node => cases node <;> simp [visit, Context.visitOf]
  | inside entry kept _ ih =>
    rw [visit]
    refine List.mem_cons_of_mem _ (mem_visitEntries_iff.mpr ⟨_, _, entry, ?_, ?_⟩)
    · rw [Context.enter, hc]
      exact kept
    · rw [Context.enter, hc]
      exact ih

theorem reached_of_mem_visit {levels : List IgnoreLevel} {path : Path} {names : List FileName}
    {node : Node} {v : Visit} (h : v ∈ visit c levels path names node) :
    ∃ p n, Reached c.fs levels path names node p n ∧ v = c.visitOf p n := by
  cases node with
  | file bytes =>
    rw [visit, List.mem_singleton] at h
    exact ⟨path, .file bytes, .self .., h⟩
  | link target =>
    rw [visit, List.mem_singleton] at h
    exact ⟨path, .link target, .self .., h⟩
  | dir entries =>
    rw [visit] at h
    rcases List.mem_cons.mp h with first | later
    · exact ⟨path, .dir entries, .self .., first⟩
    · obtain ⟨name, child, entry, kept, hv⟩ := mem_visitEntries_iff.mp later
      have smaller := List.sizeOf_lt_of_mem entry
      obtain ⟨p, n, further, same⟩ := reached_of_mem_visit hv
      exact ⟨p, n, .inside entry kept further, same⟩
termination_by sizeOf node
decreasing_by
  simp_all
  omega

theorem mem_visit_iff {node : Node} {v : Visit} :
    v ∈ visit c levels path names node ↔
      ∃ p n, Reached c.fs levels path names node p n ∧ v = c.visitOf p n := by
  constructor
  · exact reached_of_mem_visit
  · rintro ⟨p, n, reached, rfl⟩
    exact mem_visit_of_reached reached rfl

/-- Why a file is passed over is told by its path behind the root. -/
theorem mem_walkFiles_visit_iff {node : Node} {p : Path} :
    p ∈ Discovery.walkFiles (visit c levels path names node) ↔
      (∃ bytes, Reached c.fs levels path names node p (.file bytes)) ∧
        c.filter.check ((p.stripPrefix? c.root).getD p) = none := by
  simp only [Discovery.walkFiles, List.mem_map, List.mem_filter, mem_visit_iff]
  constructor
  · rintro ⟨v, ⟨⟨q, n, reached, rfl⟩, kept⟩, rfl⟩
    cases n with
    | file bytes => exact ⟨⟨bytes, reached⟩, by simpa [Context.visitOf, Context.visitFile] using kept⟩
    | dir entries => simp [Context.visitOf] at kept
    | link target => simp [Context.visitOf] at kept
  · rintro ⟨⟨bytes, reached⟩, kept⟩
    exact ⟨_, ⟨⟨p, _, reached, rfl⟩, by simp [Context.visitOf, Context.visitFile, kept]⟩, rfl⟩

theorem mem_walkFiles_iff {fs : FileSystem} {filter : FileFilter} {root : Path}
    (dir : fs.isDir root = true) {found : List Visit} (h : visits fs filter root = .ok found)
    (p : Path) :
    p ∈ Discovery.walkFiles found ↔
      Yields fs root p ∧ filter.check ((p.stripPrefix? root).getD p) = none := by
  unfold visits at h
  split at h
  · cases h
  · cases h
  · rename_i entry names node _ located
    have isDir : node.isDir = true := by
      simpa [FileSystem.isDir, FileSystem.node?, located, Except.toOption] using dir
    simp only [isDir, if_true] at h
    split at h
    · rename_i levels parents
      cases h
      rw [mem_walkFiles_visit_iff]
      refine and_congr_left fun _ => ⟨?_, ?_⟩
      · rintro ⟨bytes, reached⟩
        exact ⟨names, node, bytes, located, by rw [parents]; exact reached⟩
      · rintro ⟨names', node', bytes, located', reached⟩
        rw [located] at located'
        cases located'
        rw [parents] at reached
        exact ⟨bytes, reached⟩
    · cases h

end Walk

end Linting
