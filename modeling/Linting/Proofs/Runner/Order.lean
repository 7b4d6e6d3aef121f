import Linting.Proofs.Files.PathOrder
import Linting.Proofs.Linter.Order
import Linting.Proofs.Runner.Sequential
import Mathlib.Data.List.Pairwise

/-! The order in which a run reports. It goes from file to file, and in each file from linter to
linter; when the files ascend, and every linter reports in order, the lints of the whole run ascend
by file, linter and place. -/

namespace Linting

/-- The order of reports: by file, then by the position of the linter among `names`, then by the
place where the lint starts. -/
def Lint.Precedes (names : List LinterName) (k l : Lint) : Prop :=
  k.file.cmp l.file = .lt ∨ k.file = l.file ∧
    (names.idxOf k.linter < names.idxOf l.linter ∨
      k.linter = l.linter ∧ k.location.IsBefore l.location)

/-- Between two elements that are alike there are only elements like them. -/
def Contiguous {α : Type} (alike : α → α → Prop) (as : List α) : Prop :=
  ∀ before k between l after, as = before ++ k :: (between ++ l :: after) → alike k l →
    ∀ m ∈ between, alike k m

theorem contiguous_of_pairwise {α : Type} {R alike : α → α → Prop} {as : List α}
    (h : as.Pairwise R) (hbetween : ∀ k m l, R k m → R m l → alike k l → alike k m) :
    Contiguous alike as := by
  rintro before k between l after rfl hkl m hm
  have tail := (List.pairwise_append.mp h).2.1
  obtain ⟨hk, hrest⟩ := List.pairwise_cons.mp tail
  exact hbetween k m l (hk m (List.mem_append_left _ hm))
    ((List.pairwise_append.mp hrest).2.2 m hm l List.mem_cons_self) hkl

namespace Lint.Precedes

variable {names : List LinterName} {k l m : Lint}

theorem of_file_eq (h : k.Precedes names l) (hfile : k.file = l.file) :
    names.idxOf k.linter < names.idxOf l.linter ∨
      k.linter = l.linter ∧ k.location.IsBefore l.location := by
  refine (h.resolve_left ?_).2
  rw [hfile, Path.cmp_self]
  decide

theorem ne (h : k.Precedes names l) : k ≠ l := by
  rintro rfl
  rcases h.of_file_eq rfl with hlinter | ⟨_, hline | ⟨_, hcolumn⟩⟩
  · exact Nat.lt_irrefl _ hlinter
  · exact UInt32.lt_irrefl _ hline
  · exact UInt32.lt_irrefl _ hcolumn

theorem file_isLE (h : k.Precedes names l) : (k.file.cmp l.file).isLE = true := by
  rcases h with hfile | ⟨hfile, _⟩
  · rw [hfile]
    rfl
  · rw [hfile, Path.cmp_self]
    rfl

theorem file_eq (h : k.Precedes names l) (same : k.file.same l.file = true) :
    k.file = l.file := by
  rcases h with hfile | ⟨hfile, _⟩
  · rw [Path.cmp_eq_eq_iff.mpr same] at hfile
    cases hfile
  · exact hfile

/-- A lint between two lints of one file is of that file. -/
theorem file_between (hkm : k.Precedes names m) (hml : m.Precedes names l)
    (hkl : k.file = l.file) : k.file = m.file := by
  rcases hkm with hfile | ⟨hfile, _⟩
  · have less := Std.TransCmp.lt_of_lt_of_isLE hfile hml.file_isLE
    rw [hkl, Path.cmp_self] at less
    cases less
  · exact hfile

theorem linter_between (hkm : k.Precedes names m) (hml : m.Precedes names l)
    (hkl : k.file = l.file) (hlinter : k.linter = l.linter) : k.linter = m.linter := by
  have hfile := hkm.file_between hml hkl
  rcases hkm.of_file_eq hfile with hless | ⟨hsame, _⟩
  · rw [hlinter] at hless
    rcases hml.of_file_eq (hfile.symm.trans hkl) with hmore | ⟨hback, _⟩
    · exact absurd hless (Nat.lt_asymm hmore)
    · rw [hback] at hless
      exact absurd hless (Nat.lt_irrefl _)
  · exact hsame

end Lint.Precedes

/-- What the order of a report comes to. Its lints ascend strictly; so none is reported twice, the
lints of a file stand together under one spelling of its path, and so do those of each linter in
it. -/
structure InReportOrder (names : List LinterName) (lints : List Lint) : Prop where
  registered : ∀ l ∈ lints, l.linter ∈ names
  ascending : lints.Pairwise (Lint.Precedes names)
  nodup : lints.Nodup
  spelling : ∀ k ∈ lints, ∀ l ∈ lints, k.file.same l.file = true → k.file = l.file
  files : Contiguous (fun k l => k.file = l.file) lints
  linters : Contiguous (fun k l => k.file = l.file ∧ k.linter = l.linter) lints

theorem InReportOrder.of_ascending {names : List LinterName} {lints : List Lint}
    (registered : ∀ l ∈ lints, l.linter ∈ names)
    (ascending : lints.Pairwise (Lint.Precedes names)) : InReportOrder names lints where
  registered := registered
  ascending := ascending
  nodup := ascending.imp Lint.Precedes.ne
  spelling := by
    have distinct := ascending.imp Lint.Precedes.file_eq
    have symmetric : Std.Symm fun k l : Lint => k.file.same l.file = true → k.file = l.file := by
      refine ⟨fun k l h same => (h ?_).symm⟩
      rw [Path.same, decide_eq_true_eq] at same ⊢
      exact same.symm
    intro k hk l hl
    exact distinct.forall_of_forall (fun _ _ _ => rfl) hk hl
  files := contiguous_of_pairwise ascending fun _ _ _ => Lint.Precedes.file_between
  linters := contiguous_of_pairwise ascending fun _ _ _ hkm hml hkl =>
    ⟨hkm.file_between hml hkl.1, hkm.linter_between hml hkl.1 hkl.2⟩

namespace Runner

/-- A runner whose linters stand in the order of `names` and report in order whatever document the
engine makes. -/
structure Ascends (names : List LinterName) (r : Runner) : Prop where
  registered : ∀ active ∈ r.linters, active.name ∈ names
  ascending : r.linters.Pairwise fun a b => names.idxOf a.name < names.idxOf b.name
  inOrder : ∀ active ∈ r.linters, ∀ file d lints, r.engine file = .ok d →
    active.run d = .reported lints → ∃ cs, InOrder active.name file cs lints

variable {names : List LinterName} {r : Runner}

theorem Ascends.reports_lint (h : r.Ascends names) {active : ActiveLinter}
    (hactive : active ∈ r.linters) {file : Path} {lints : List Lint}
    (hlints : r.Reports (.lint active file) lints) :
    lints.Pairwise (Lint.Precedes names) ∧
      ∀ l ∈ lints, l.file = file ∧ l.linter = active.name := by
  cases hlints with
  | lint hd hrun =>
    obtain ⟨_, found⟩ := h.inOrder active hactive _ _ _ hd hrun
    refine ⟨found.ordered.imp_of_mem ?_, fun l hl => ⟨found.file l hl, found.linter l hl⟩⟩
    intro k l hk hl hbefore
    exact .inr ⟨(found.file k hk).trans (found.file l hl).symm,
      .inr ⟨(found.linter k hk).trans (found.linter l hl).symm, hbefore⟩⟩

/-- What a call on a file finds is in this file, under a registered name. -/
theorem Ascends.reports (h : r.Ascends names) {file : Path} {c : PlannedCall}
    (hc : c ∈ r.planFile file) {lints : List Lint} (hlints : r.Reports c lints) :
    lints.Pairwise (Lint.Precedes names) ∧ ∀ l ∈ lints, l.file = file ∧ l.linter ∈ names := by
  rcases List.mem_cons.mp hc with rfl | hc
  · cases hlints with
    | build => exact ⟨.nil, by simp⟩
  · obtain ⟨active, hactive, rfl⟩ := List.mem_map.mp hc
    obtain ⟨ordered, found⟩ := h.reports_lint hactive hlints
    exact ⟨ordered, fun l hl => ⟨(found l hl).1, (found l hl).2 ▸ h.registered active hactive⟩⟩

/-- Whatever the first call finds comes before whatever the second one finds. -/
def FindsBefore (names : List LinterName) (r : Runner) (c b : PlannedCall) : Prop :=
  ∀ found more, r.Reports c found → r.Reports b more →
    ∀ k ∈ found, ∀ l ∈ more, k.Precedes names l

theorem Ascends.planFile_pairwise (h : r.Ascends names) (file : Path) :
    (r.planFile file).Pairwise (r.FindsBefore names) := by
  rw [planFile, List.pairwise_cons, List.pairwise_map]
  constructor
  · intro b _ found more hfound _ k hk
    cases hfound with
    | build => cases hk
  · refine h.ascending.imp_of_mem ?_
    intro a b ha hb hless found more hfound hmore k hk l hl
    obtain ⟨hkfile, hklinter⟩ := (h.reports_lint ha hfound).2 k hk
    obtain ⟨hlfile, hllinter⟩ := (h.reports_lint hb hmore).2 l hl
    exact .inr ⟨hkfile.trans hlfile.symm, .inl (by rwa [hklinter, hllinter])⟩

theorem Ascends.plan_pairwise (h : r.Ascends names) {files : List Path}
    (hfiles : files.Pairwise fun p q => p.cmp q = .lt) :
    (r.plan files).Pairwise (r.FindsBefore names) := by
  rw [plan, List.pairwise_flatMap]
  refine ⟨fun file _ => h.planFile_pairwise file, hfiles.imp ?_⟩
  intro p q hless c hc b hb found more hfound hmore k hk l hl
  refine .inl ?_
  rw [((h.reports hc hfound).2 k hk).1, ((h.reports hb hmore).2 l hl).1, hless]

/-- A run that succeeds puts together what its calls find. -/
theorem Ascends.runs_pairwise (h : r.Ascends names) {calls : List PlannedCall}
    (hcalls : ∀ c ∈ calls, ∃ file, c ∈ r.planFile file)
    (hbefore : calls.Pairwise (r.FindsBefore names)) {t : Traced (List Lint)}
    (hruns : r.Runs calls t) {lints : List Lint} (ht : t.2 = .ok lints) :
    lints.Pairwise (Lint.Precedes names) ∧
      ∀ l ∈ lints, ∃ c ∈ calls, ∃ found, r.Reports c found ∧ l ∈ found := by
  -- which call found a lint is carried along, since that alone tells what it comes before
  induction hruns generalizing lints with
  | nil =>
    cases ht
    exact ⟨.nil, by simp⟩
  | stop => cases ht
  | @next c rest found more result hfound tail ih =>
    cases result with
    | error e => cases ht
    | ok behind =>
      cases ht
      obtain ⟨⟨file, hc⟩, hrest⟩ := List.forall_mem_cons.mp hcalls
      obtain ⟨hfront, hbehind⟩ := List.pairwise_cons.mp hbefore
      obtain ⟨ordered, origin⟩ := ih hrest hbehind rfl
      constructor
      · refine List.pairwise_append.mpr ⟨(h.reports hc hfound).1, ordered, ?_⟩
        intro k hk l hl
        obtain ⟨b, hb, lints, hlints, hl⟩ := origin l hl
        exact hfront b hb found lints hfound hlints k hk l hl
      · intro l hl
        rcases List.mem_append.mp hl with hl | hl
        · exact ⟨c, List.mem_cons_self, found, hfound, hl⟩
        · obtain ⟨b, hb, lints, hlints, hl⟩ := origin l hl
          exact ⟨b, List.mem_cons_of_mem c hb, lints, hlints, hl⟩

/-- The lints of ascending files ascend. -/
theorem Ascends.lintFiles_inReportOrder (h : r.Ascends names) {files : List Path}
    (hfiles : files.Pairwise fun p q => p.cmp q = .lt) {lints : List Lint}
    (hlints : (r.lintFiles files).2 = .ok lints) : InReportOrder names lints := by
  have planned : ∀ c ∈ r.plan files, ∃ file, c ∈ r.planFile file := by
    intro c hc
    obtain ⟨file, _, hc⟩ := List.mem_flatMap.mp hc
    exact ⟨file, hc⟩
  obtain ⟨ascending, origin⟩ :=
    h.runs_pairwise planned (h.plan_pairwise hfiles) (lintFiles_runs r files) hlints
  refine .of_ascending ?_ ascending
  intro l hl
  obtain ⟨c, hc, found, hfound, hl⟩ := origin l hl
  obtain ⟨file, hc⟩ := planned c hc
  exact ((h.reports hc hfound).2 l hl).2

end Runner

end Linting
