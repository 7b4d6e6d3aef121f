import Linting.Proofs.Files.Descent
import Linting.Proofs.Files.Lookup
import Linting.Proofs.Files.Spelling
import Linting.Proofs.Files.Walk
import Mathlib

/-! A file that is named is excluded under all of its spellings or under none, and a walk of the
working directory decides as if the file were named. Either way patterns are matched against the
components of the file behind the working directory. -/

namespace Linting

open Linting.Path

namespace Path

variable {p q : Path}

/-- Puts something into a path that does not count: another slash, or `.` with a slash. -/
inductive Pads : Path → Path → Prop
  | inside (front back : List UInt8) {blank : List UInt8} (h : blank = [] ∨ blank = [dot]) :
      Pads ⟨front ++ slash :: back⟩ ⟨front ++ slash :: (blank ++ slash :: back)⟩
  | start {p : Path} (relative : p.isAbsolute = false) : Pads p ⟨dot :: slash :: p.bytes⟩
  | stop {p : Path} (nonempty : p.bytes ≠ []) {blank : List UInt8}
      (h : blank = [] ∨ blank = [dot]) : Pads p ⟨p.bytes ++ slash :: blank⟩

/-- Two paths that differ in nothing but slashes and `.` that do not count. -/
def Respells : Path → Path → Prop := Relation.EqvGen Pads

theorem filterMap_pieces_of_blank {blank : List UInt8} (h : blank = [] ∨ blank = [dot]) :
    (pieces blank).filterMap component? = [] := by
  rcases h with rfl | rfl <;> rfl

theorem Pads.keeps (h : Pads p q) : p.isAbsolute = q.isAbsolute ∧ p.body = q.body := by
  cases h with
  | inside front back h =>
    refine ⟨?_, ?_⟩
    · cases front <;> rfl
    · simp only [body, pieces_append_slash, List.filterMap_append, filterMap_pieces_of_blank h,
        List.nil_append]
  | start relative =>
    refine ⟨relative.trans rfl, ?_⟩
    have behind := pieces_append_slash [dot] p.bytes
    simp only [List.singleton_append] at behind
    rw [body, body, behind, List.filterMap_append, filterMap_pieces_of_blank (.inr rfl),
      List.nil_append]
  | stop nonempty h =>
    refine ⟨?_, ?_⟩
    · rw [isAbsolute, isAbsolute, List.head?_append_of_ne_nil _ nonempty]
    · rw [body, body, pieces_append_slash, List.filterMap_append, filterMap_pieces_of_blank h,
        List.append_nil]

theorem Respells.keeps (h : Respells p q) : p.isAbsolute = q.isAbsolute ∧ p.body = q.body := by
  induction h with
  | rel p q padded => exact padded.keeps
  | refl p => exact ⟨rfl, rfl⟩
  | symm p q _ ih => exact ⟨ih.1.symm, ih.2.symm⟩
  | trans p q r _ _ first second => exact ⟨first.1.trans second.1, first.2.trans second.2⟩

end Path

theorem FileSystem.isAbsolute_absolute (names : List FileName) :
    (absolute names).isAbsolute = true := by
  have behind : absolute names = descend ⟨[slash]⟩ (names.map .normal) := rfl
  rw [behind]
  exact isAbsolute_descend rfl _

namespace FileFilter

variable {cwd p q : Path}

theorem matchablePath_eq (cwd p : Path) :
    matchablePath cwd p = ofComponents (matchablePath cwd p).components := by
  unfold matchablePath
  simp only [components_ofComponents]

theorem matchablePath_congr
    (h : (matchablePath cwd p).components = (matchablePath cwd q).components) :
    matchablePath cwd p = matchablePath cwd q := by
  rw [matchablePath_eq, h, ← matchablePath_eq]

theorem isExcluded_congr_path (filter : FileFilter)
    (h : (matchablePath cwd p).components = (matchablePath cwd q).components) :
    filter.isExcluded cwd p = filter.isExcluded cwd q := by
  rw [isExcluded, isExcluded, matchablePath_congr h]

theorem isBelow_of_components {more : List Component} (h : cwd.isAbsolute = true)
    (absolute : p.isAbsolute = true) (body : p.body = cwd.body ++ more) : IsBelow cwd p := by
  have components := components_of_isAbsolute h
  refine ⟨isAbsolute_iff.mp absolute, by simp [components], more, ?_⟩
  rw [components, components_of_isAbsolute absolute, body]
  rfl

/-- Behind the working directory nothing is left but what was appended to it. -/
theorem components_matchablePath_below {more : List Component} (h : cwd.isAbsolute = true)
    (absolute : p.isAbsolute = true) (body : p.body = cwd.body ++ more) :
    (matchablePath cwd p).components = more := by
  rw [components_matchablePath, if_pos (isBelow_of_components h absolute body), body,
    List.drop_left]

section Spellings

variable (filter : FileFilter)

theorem isExcluded_eq_of_respells (cwd : Path) (relative : p.isAbsolute = false) (h : Respells p q) :
    filter.isExcluded cwd q = filter.isExcluded cwd p := by
  obtain ⟨kind, body⟩ := h.keeps
  apply isExcluded_congr_path
  rw [components_matchablePath_of_relative cwd relative,
    components_matchablePath_of_relative cwd (kind ▸ relative), body]

theorem isExcluded_join (absolute : cwd.isAbsolute = true) (relative : q.isAbsolute = false) :
    filter.isExcluded cwd (cwd.join q) = filter.isExcluded cwd q := by
  apply isExcluded_congr_path
  rw [components_matchablePath_below absolute (isAbsolute_join absolute q) (body_join cwd relative),
    components_matchablePath_of_relative cwd relative]

/-- What patterns are matched against is not below the working directory once more. -/
theorem not_isBelow_matchablePath (cwd p : Path) : ¬IsBelow cwd (matchablePath cwd p) := by
  intro again
  have front := components_of_isAbsolute (isAbsolute_iff.mpr again.1)
  rw [components_matchablePath] at front
  split at front
  · have root : Component.root ∈ p.body.drop cwd.body.length := front ▸ List.mem_cons_self
    exact root_not_mem_body p (List.mem_of_mem_drop root)
  · rename_i outside
    -- an absolute path that is not made relative stays as it is
    have absolute : p.spelling = .absolute := by
      by_contra relative
      rw [filter_current, if_neg relative, List.nil_append] at front
      exact root_not_mem_body p (front ▸ List.mem_cons_self)
    have kept : (matchablePath cwd p).components = p.components := by
      rw [components_matchablePath, if_neg outside, filter_current, if_pos absolute,
        components_of_isAbsolute (isAbsolute_iff.mpr absolute)]
      rfl
    exact outside ⟨absolute, again.2.1, kept ▸ again.2.2⟩

theorem matchablePath_idempotent (cwd p : Path) :
    matchablePath cwd (matchablePath cwd p) = matchablePath cwd p := by
  obtain ⟨cs, plain⟩ : ∃ cs : List Component,
      (matchablePath cwd p).components = cs.filter (· != .current) := by
    unfold matchablePath
    exact ⟨_, components_ofComponents _⟩
  apply matchablePath_congr
  rw [components_matchablePath, if_neg (not_isBelow_matchablePath cwd p), plain, List.filter_filter]
  simp only [Bool.and_self]

end Spellings

end FileFilter

/-- No name in the tree is empty, `.` or `..`, or has a slash in it. -/
inductive Node.WellNamed : Node → Prop
  | file (bytes : List UInt8) : WellNamed (.file bytes)
  | link (target : Path) : WellNamed (.link target)
  | dir {entries : List (FileName × Node)}
      (names : ∀ entry ∈ entries, Path.Wellformed (.normal entry.1))
      (below : ∀ entry ∈ entries, WellNamed entry.2) : WellNamed (.dir entries)

theorem Node.WellNamed.descend? {n node : Node} (h : n.WellNamed) {names : List FileName}
    (descended : n.descend? names = some node) : node.WellNamed := by
  refine Node.descend?_induction (fun entries proper => ?_) h descended
  cases proper with
  | dir _ below => exact below

namespace Walk

variable {fs : FileSystem} {filter : FileFilter} {root : Path}

theorem Reached.exists_descend {levels : List IgnoreLevel} {path p : Path} {names : List FileName}
    {node n : Node} (h : Reached fs levels path names node p n) (wellNamed : node.WellNamed) :
    ∃ below, (∀ c ∈ below, Wellformed c) ∧ p = path.descend below := by
  induction h with
  | self => exact ⟨[], by simp, rfl⟩
  | @inside levels path names entries name child p n entry _ _ ih =>
    cases wellNamed with
    | dir plain inner =>
      obtain ⟨below, wellformed, rfl⟩ := ih (inner (name, child) entry)
      exact ⟨.normal name :: below,
        List.forall_mem_cons.mpr ⟨plain (name, child) entry, wellformed⟩, rfl⟩

/-- A walk says of a file that it comes to what the filter says of the path behind the root. -/
theorem exists_descend_of_mem_visits {found : List Visit} (h : visits fs filter root = .ok found)
    (wellNamed : fs.root.WellNamed) {v : Visit} (hv : v ∈ found)
    (file : v.skipped ≠ some .notAFile) :
    ∃ below, (∀ c ∈ below, Wellformed c) ∧
      v = (⟨fs, filter, root⟩ : Context).visitFile (root.descend below) := by
  unfold visits at h
  split at h
  · cases h
  · cases h
  · rename_i entry names node _ located
    simp only at h
    split at h
    · split at h
      · cases h
        obtain ⟨p, n, reached, rfl⟩ := mem_visit_iff.mp hv
        obtain ⟨below, wellformed, rfl⟩ :=
          reached.exists_descend (wellNamed.descend? (FileSystem.descend?_of_find located))
        cases n with
        | file bytes => exact ⟨below, wellformed, rfl⟩
        | dir entries => exact absurd rfl file
        | link target => exact absurd rfl file
      · cases h
    · split at h
      all_goals
        cases h
        rw [List.mem_singleton] at hv
      · exact ⟨[], by simp, hv⟩
      · rw [hv] at file
        exact absurd rfl file

/-- A path to the working directory: `.`, or its absolute path, whatever does not count. -/
def IsCwd (fs : FileSystem) (root : Path) : Prop :=
  root.components = [.current] ∨ root.components = (FileSystem.absolute fs.cwd).components

instance : Decidable (IsCwd fs root) := inferInstanceAs (Decidable (_ ∨ _))

example : IsCwd fs (.ofString "./") := .inl (by decide)

theorem IsCwd.components_ne_nil (h : IsCwd fs root) : root.components ≠ [] := by
  rcases h with h | h
  · simp [h]
  · simp [h, components_of_isAbsolute (FileSystem.isAbsolute_absolute fs.cwd)]

theorem IsCwd.components_matchablePath (h : IsCwd fs root) {below : List Component}
    (wellformed : ∀ c ∈ below, Wellformed c) :
    (FileFilter.matchablePath (FileSystem.absolute fs.cwd) (root.descend below)).components =
      below := by
  have spelled := spelling_descend wellformed (bytes_ne_nil_of_components h.components_ne_nil)
  have body := body_descend wellformed root
  rcases h with dotted | absolute
  · have relative : (root.descend below).isAbsolute = false := by
      rw [← Bool.not_eq_true, isAbsolute_iff, spelled, spelling_eq_ofHead, dotted]
      exact Spelling.noConfusion
    have none : root.body = [] := by
      rw [← filter_components, dotted]
      rfl
    rw [FileFilter.components_matchablePath_of_relative _ relative, body, none, List.nil_append]
  · obtain ⟨kind, same⟩ := same_iff.mp (same_iff_components.mpr absolute)
    have rooted := FileSystem.isAbsolute_absolute fs.cwd
    have below : (root.descend below).isAbsolute = true := by
      rw [isAbsolute_iff, spelled, kind, ← isAbsolute_iff, rooted]
    exact FileFilter.components_matchablePath_below rooted below (body.trans (by rw [same]))

/-- A walk of the working directory matches patterns against what they are matched against when the
file is named. -/
theorem IsCwd.stripPrefix?_descend (h : IsCwd fs root) {below : List Component}
    (wellformed : ∀ c ∈ below, Wellformed c) :
    (root.descend below).stripPrefix? root =
      some (FileFilter.matchablePath (FileSystem.absolute fs.cwd) (root.descend below)) := by
  rw [FileFilter.matchablePath_eq, h.components_matchablePath wellformed,
    Path.stripPrefix?_descend wellformed h.components_ne_nil]

end Walk

namespace FileFilter

/-- Whether a file that is named is excluded does not depend on how its path is spelled, and not on
whether it is named from the working directory or from the root. What a path is made into stays as
it is when that is done again. And a walk of the working directory excludes what is excluded when
it is named. -/
theorem isExcluded_agrees (filter : FileFilter) :
    (∀ {cwd p q : Path}, cwd.isAbsolute = true → p.isAbsolute = false → Respells p q →
      filter.isExcluded cwd q = filter.isExcluded cwd p ∧
      filter.isExcluded cwd (cwd.join q) = filter.isExcluded cwd p) ∧
    (∀ cwd p, matchablePath cwd (matchablePath cwd p) = matchablePath cwd p) ∧
    ∀ {fs : FileSystem} {root : Path} {found : List Visit},
      fs.root.WellNamed → Walk.IsCwd fs root → Walk.visits fs filter root = .ok found →
      ∀ v ∈ found, v.skipped ≠ some .notAFile →
        ∃ relative, v.path.stripPrefix? root = some relative ∧ v.skipped = filter.check relative ∧
          (filter.excluded.any fun glob => glob.isMatch relative.bytes) =
            filter.isExcluded (FileSystem.absolute fs.cwd) v.path := by
  refine ⟨fun {cwd p q} absolute relative spelled => ?_, matchablePath_idempotent,
    fun {fs root found} wellNamed named walked v hv file => ?_⟩
  · have same := isExcluded_eq_of_respells filter cwd relative spelled
    have stays := spelled.keeps.1.symm.trans relative
    exact ⟨same, (isExcluded_join filter absolute stays).trans same⟩
  · obtain ⟨below, wellformed, rfl⟩ := Walk.exists_descend_of_mem_visits walked wellNamed hv file
    have stripped := named.stripPrefix?_descend wellformed
    refine ⟨_, stripped, ?_, rfl⟩
    rw [Walk.Context.visitFile, stripped]
    rfl

/-- A file in a directory that is excluded, spelled in another way, named from the root, and found
by a walk; the file beside the directory is kept. -/
theorem isExcluded_agrees_in_vendor :
    let fs : FileSystem := ⟨[[0x77]], .dir [([0x77],
      .dir [([0x61], .file []), ([0x76], .dir [([0x61], .file [])])])]⟩
    let filter : FileFilter := ⟨none, (Glob.compile "v/*" .filter).toOption.toList⟩
    let cwd := FileSystem.absolute fs.cwd
    let p : Path := ⟨[0x76, slash, 0x61]⟩
    let q : Path := ⟨[dot, slash, slash, 0x76, slash, dot, slash, 0x61]⟩
    let kept : Path := ⟨[dot, slash, 0x61]⟩
    let dir : Path := ⟨[dot, slash, 0x76]⟩
    let inside : Path := ⟨[dot, slash, 0x76, slash, 0x61]⟩
    p.Respells q ∧ filter.isExcluded cwd q = true ∧ filter.isExcluded cwd (cwd.join q) = true ∧
      Walk.visits fs filter ⟨[dot]⟩ = .ok [⟨⟨[dot]⟩, some .notAFile⟩, ⟨kept, none⟩,
        ⟨dir, some .notAFile⟩, ⟨inside, some .excluded⟩] ∧
      filter.isExcluded cwd kept = false ∧ filter.isExcluded cwd inside = true := by
  intro fs filter cwd p q kept dir inside
  have respelled : p.Respells q :=
    .trans _ ⟨[dot, slash, 0x76, slash, 0x61]⟩ _ (.rel _ _ (.start rfl))
      (.trans _ ⟨[dot, slash, slash, 0x76, slash, 0x61]⟩ _
        (.rel _ _ (.inside [dot] [0x76, slash, 0x61] (.inl rfl)))
        (.rel _ _ (.inside [dot, slash, slash, 0x76] [0x61] (.inr rfl))))
  have wellNamed : fs.root.WellNamed := by
    refine .dir (by decide) fun entry hentry => ?_
    obtain rfl := List.mem_singleton.mp hentry
    refine .dir (by decide) (List.forall_mem_cons.mpr ⟨.file [], fun entry hentry => ?_⟩)
    obtain rfl := List.mem_singleton.mp hentry
    exact .dir (by decide) (List.forall_mem_singleton.mpr (.file []))
  have walked : Walk.visits fs filter ⟨[dot]⟩ = .ok [⟨⟨[dot]⟩, some .notAFile⟩, ⟨kept, none⟩,
      ⟨dir, some .notAFile⟩, ⟨inside, some .excluded⟩] := by cbv
  have rooted : cwd.isAbsolute = true := by decide
  have excluded : filter.isExcluded cwd p = true := by cbv
  obtain ⟨spellings, -, walks⟩ := isExcluded_agrees filter
  obtain ⟨first, second⟩ := spellings rooted rfl respelled
  have agrees := walks wellNamed (.inl (by decide)) walked
  obtain ⟨relative, stripped, -, decision⟩ := agrees ⟨kept, none⟩ (by simp) (by simp)
  obtain ⟨relative', stripped', -, decision'⟩ := agrees ⟨inside, some .excluded⟩ (by simp) (by simp)
  cases stripped
  cases stripped'
  exact ⟨respelled, first.trans excluded, second.trans excluded, walked,
    decision.symm.trans (by cbv), decision'.symm.trans (by cbv)⟩

end FileFilter

end Linting
