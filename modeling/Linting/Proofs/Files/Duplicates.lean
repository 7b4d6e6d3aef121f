import Linting.Proofs.Files.Discovery
import Linting.Proofs.Files.Lookup
import Linting.Proofs.Files.Spelling
import Mathlib

/-! When a search finds no file twice. Files are told apart by their components, so one that is
found under two kinds of spelling stays twice; a search whose paths are all spelled alike does not
come to that. -/

namespace Linting

namespace FileFilter

variable {cwd p q r : Path}

theorem sameFile_symm (h : SameFile cwd p q) : SameFile cwd q p :=
  sameFile_iff.mpr (sameFile_iff.mp h).symm

theorem sameFile_trans (h : SameFile cwd p q) (h' : SameFile cwd q r) : SameFile cwd p r :=
  sameFile_iff.mpr ((sameFile_iff.mp h).trans (sameFile_iff.mp h'))

end FileFilter

namespace Discovery

open FileFilter

variable {fs : FileSystem} {filter : FileFilter} {paths files : List Path}

/-- No two paths of a list name the same file. -/
def NamesNoneTwice (fs : FileSystem) (files : List Path) : Prop :=
  files.Pairwise fun p q => ¬SameFile (FileSystem.absolute fs.cwd) p q

/-- A file is found under one kind of spelling only. -/
def SpelledAlike (fs : FileSystem) (filter : FileFilter) (paths : List Path) : Prop :=
  ∀ p q, Named fs filter paths p → Named fs filter paths q →
    SameFile (FileSystem.absolute fs.cwd) p q → p.spelling = q.spelling

theorem NamesNoneTwice.spelledAlike (h : (discover fs filter paths).result = .ok files)
    (distinct : NamesNoneTwice fs files) : SpelledAlike fs filter paths := by
  intro p q hp hq same
  -- what stays of `p` and of `q` is one path, or else the file would be there twice
  obtain ⟨p', hp', spelledP⟩ := exists_same_of_named h p hp
  obtain ⟨q', hq', spelledQ⟩ := exists_same_of_named h q hq
  have both : SameFile (FileSystem.absolute fs.cwd) p' q' :=
    sameFile_trans (sameFile_of_same spelledP)
      (sameFile_trans same (sameFile_symm (sameFile_of_same spelledQ)))
  have one : p' = q' := by
    by_contra two
    have : Std.Symm fun p q => ¬SameFile (FileSystem.absolute fs.cwd) p q :=
      ⟨fun _ _ no yes => no (sameFile_symm yes)⟩
    exact distinct.forall hp' hq' two both
  rw [← (Path.same_iff.mp spelledP).1, one, (Path.same_iff.mp spelledQ).1]

theorem SpelledAlike.namesNoneTwice (h : (discover fs filter paths).result = .ok files)
    (alike : SpelledAlike fs filter paths) : NamesNoneTwice fs files := by
  refine (pairwise_discover h).imp_of_mem fun {p q} hp hq less same => ?_
  have spelled := alike p q (named_of_mem_discover h p hp) (named_of_mem_discover h q hq) same
  have equal := Path.cmp_eq_eq_iff.mpr (same_iff_sameFile.mpr ⟨spelled, same⟩)
  rw [less] at equal
  cases equal

end Discovery

/-- No name in the tree has a slash in it. -/
inductive Node.Proper : Node → Prop
  | file (bytes : List UInt8) : Proper (.file bytes)
  | link (target : Path) : Proper (.link target)
  | dir {entries : List (FileName × Node)} (names : ∀ entry ∈ entries, Path.slash ∉ entry.1)
      (below : ∀ entry ∈ entries, Proper entry.2) : Proper (.dir entries)

theorem Node.Proper.descend? {n node : Node} (h : n.Proper) {names : List FileName}
    (descended : n.descend? names = some node) : node.Proper := by
  refine Node.descend?_induction (fun entries proper => ?_) h descended
  cases proper with
  | dir _ below => exact below

/-- Below a directory files are spelled as it is. -/
theorem Walk.Reached.spelling_eq {fs : FileSystem} {levels : List IgnoreLevel} {path p : Path}
    {names : List FileName} {node n : Node} (h : Reached fs levels path names node p n)
    (proper : node.Proper) (nonempty : path.bytes ≠ []) : p.spelling = path.spelling := by
  induction h with
  | self => rfl
  | @inside levels path names entries name child p n entry _ _ ih =>
    cases proper with
    | dir plain below =>
      have relative := Path.isAbsolute_of_slash_not_mem (plain (name, child) entry)
      obtain ⟨more, bytes⟩ := Path.bytes_join path relative
      rw [ih (below (name, child) entry) (by simp [bytes, nonempty]),
        Path.spelling_join nonempty relative]

namespace Discovery

open FileFilter

variable {fs : FileSystem} {filter : FileFilter} {paths files : List Path}

theorem bytes_ne_nil_of_find {follow : Bool} {p : Path} {found : List FileName × Node}
    (h : fs.find follow p = .ok found) : p.bytes ≠ [] := by
  intro empty
  simp [FileSystem.find, FileSystem.resolve, empty] at h

theorem Named.exists_spelling_eq (proper : fs.root.Proper) {p : Path}
    (h : Named fs filter paths p) : ∃ q ∈ paths, p.spelling = q.spelling := by
  cases h with
  | file hp => exact ⟨p, hp, rfl⟩
  | @walked root p hroot _ yields =>
    obtain ⟨names, node, bytes, located, reached⟩ := yields
    have below := proper.descend? (FileSystem.descend?_of_find located)
    exact ⟨root, hroot, reached.spelling_eq below (bytes_ne_nil_of_find located)⟩

theorem spelledAlike_of_paths (proper : fs.root.Proper)
    (alike : ∀ p ∈ paths, ∀ q ∈ paths, p.spelling = q.spelling) :
    SpelledAlike fs filter paths := by
  intro p q hp hq _
  obtain ⟨a, ha, spelledP⟩ := hp.exists_spelling_eq proper
  obtain ⟨b, hb, spelledQ⟩ := hq.exists_spelling_eq proper
  rw [spelledP, spelledQ, alike a ha b hb]

/-- A search finds no file twice exactly when it comes to none under two kinds of spelling. So it is
if all paths start from the root, or all from `.`, or none from either. -/
theorem namesNoneTwice_iff_spelledAlike (h : (discover fs filter paths).result = .ok files) :
    (NamesNoneTwice fs files ↔ SpelledAlike fs filter paths) ∧
    (fs.root.Proper → (∀ p ∈ paths, ∀ q ∈ paths, p.spelling = q.spelling) →
      NamesNoneTwice fs files) :=
  ⟨⟨NamesNoneTwice.spelledAlike h, SpelledAlike.namesNoneTwice h⟩,
    fun proper alike => (spelledAlike_of_paths proper alike).namesNoneTwice h⟩

/-- A directory, and a file in it that is named behind it and once more with a `.` on the way. -/
theorem discover_finds_bare_file_once :
    let fs : FileSystem := ⟨[[0x77]], .dir [([0x77], .dir [([0x64], .dir [([0x62], .file [])])])]⟩
    let dir : Path := ⟨[0x64]⟩
    let bare : Path := ⟨[0x64, 0x2F, 0x62]⟩
    let detour : Path := ⟨[0x64, 0x2F, 0x2E, 0x2F, 0x62]⟩
    (discover fs ⟨none, []⟩ [dir, bare, detour]).result = .ok [bare] ∧
      fs.root.Proper ∧ (∀ p ∈ [dir, bare, detour], ∀ q ∈ [dir, bare, detour],
        p.spelling = q.spelling) ∧ SpelledAlike fs ⟨none, []⟩ [dir, bare, detour] := by
  intro fs dir bare detour
  have found : (discover fs ⟨none, []⟩ [dir, bare, detour]).result = .ok [bare] := by cbv
  have proper : fs.root.Proper := by
    refine .dir (by simp [Path.slash]) fun entry hentry => ?_
    obtain rfl := List.mem_singleton.mp hentry
    refine .dir (by simp [Path.slash]) fun entry hentry => ?_
    obtain rfl := List.mem_singleton.mp hentry
    refine .dir (by simp [Path.slash]) fun entry hentry => ?_
    obtain rfl := List.mem_singleton.mp hentry
    exact .file []
  have alike : ∀ p ∈ [dir, bare, detour], ∀ q ∈ [dir, bare, detour], p.spelling = q.spelling := by
    decide
  have told := namesNoneTwice_iff_spelledAlike found
  exact ⟨found, proper, alike, told.1.mp (told.2 proper alike)⟩

/-- A directory and a file in it that is named from `.`: the file is found twice. -/
theorem discover_finds_dotted_file_twice :
    let fs : FileSystem := ⟨[[0x77]], .dir [([0x77], .dir [([0x64], .dir [([0x62], .file [])])])]⟩
    let dir : Path := ⟨[0x64]⟩
    let bare : Path := ⟨[0x64, 0x2F, 0x62]⟩
    let dotted : Path := ⟨[0x2E, 0x2F, 0x64, 0x2F, 0x62]⟩
    (discover fs ⟨none, []⟩ [dir, dotted]).result = .ok [dotted, bare] ∧
      SameFile (FileSystem.absolute fs.cwd) dotted bare ∧ ¬NamesNoneTwice fs [dotted, bare] := by
  intro fs dir bare dotted
  have found : (discover fs ⟨none, []⟩ [dir, dotted]).result = .ok [dotted, bare] := by cbv
  have same : SameFile (FileSystem.absolute fs.cwd) dotted bare := by
    unfold SameFile
    decide
  refine ⟨found, same, fun distinct => ?_⟩
  exact (List.pairwise_cons.mp distinct).1 bare List.mem_cons_self same

end Discovery

end Linting
