import Linting.Proofs.CommandLine.Commands
import Linting.Proofs.Files.Lookup
import Linting.Proofs.Files.Sorting
import Linting.Proofs.Registry.Histories
import Linting.Proofs.Runner.Order
import Linting.Runner.Memory
import Mathlib

/-! The order of the lints that a check reports: by file, by the linter's place in the registry,
and by the place in the file. It holds whatever linters are configured and selected. -/

namespace Linting

namespace RegistryEntry

theorem Defines.orderly_of_builtin {maxLineLength : Nat} {entry : RegistryEntry} {d : Descriptor}
    (h : entry.Defines d) (hentry : entry ∈ (Builtin.entries maxLineLength).map ofBuiltin) :
    Orderly d.make := by
  obtain ⟨e, he, rfl⟩ := List.mem_map.mp hentry
  rw [h.make_of_linter]
  exact Builtin.entries_orderly he

theorem Defines.orderly_of_pattern {p : PatternDefinition} {d : Descriptor}
    (h : (RegistryEntry.pattern p).Defines d) : Orderly d.make := by
  generalize hentry : RegistryEntry.pattern p = entry at h
  cases h with
  | linter => cases hentry
  | pattern => exact PatternLinter.orderly _ _ _

end RegistryEntry

namespace Registry
open RegistryEntry

/-- Entries that define orderly linters leave a registry orderly, whether they are all added or
not. -/
theorem orderly_apply {r : Registry} (hr : r.names.Nodup)
    (h : ∀ d ∈ r.descriptors, Orderly d.make) {call : Registration}
    (hcall : ∀ entry ∈ call.entries, ∀ d, entry.Defines d → Orderly d.make) :
    ∀ d ∈ (call.apply r).1.descriptors, Orderly d.make := by
  have extended {before rest : List RegistryEntry} {added : List Descriptor}
      (hentries : call.entries = before ++ rest) (hadded : List.Forall₂ Defines before added) :
      ∀ d ∈ (r.extend added).descriptors, Orderly d.make := by
    intro d hd
    rcases List.mem_append.mp hd with hd | hd
    · exact h d hd
    · obtain ⟨entry, hentry, defined⟩ := exists_of_forall₂ hadded.flip hd
      exact hcall entry (hentries ▸ List.mem_append_left rest hentry) d defined
  rw [Registration.apply_eq_registerAll]
  rcases registerAll_cases hr call.entries with
    ⟨added, hadded, _, hall⟩ | ⟨before, bad, rest, added, e, hsplit, hadded, _, _, hall⟩
  · rw [hall]
    exact extended (List.append_nil _).symm hadded
  · rw [hall]
    exact extended hsplit hadded

theorem orderly_of_build {maxLineLength : Nat} {patterns : List PatternDefinition} {r : Registry}
    (h : build maxLineLength patterns = .ok r) : ∀ d ∈ r.descriptors, Orderly d.make := by
  rw [← build_eq_ok h]
  refine orderly_apply (nodup_names_apply nodup_names_empty _)
    (orderly_apply nodup_names_empty (fun d hd => absurd hd List.not_mem_nil) ?_) ?_
  · exact fun entry hentry d hd => hd.orderly_of_builtin hentry
  · intro entry hentry d hd
    obtain ⟨p, _, rfl⟩ := List.mem_map.mp hentry
    exact hd.orderly_of_pattern

/-- Distinct names stand in the order of their positions. -/
theorem pairwise_idxOf {names : List LinterName} (h : names.Nodup) :
    names.Pairwise fun a b => names.idxOf a < names.idxOf b := by
  rw [List.pairwise_iff_getElem]
  intro i j hi hj hij
  rwa [h.idxOf_getElem i hi, h.idxOf_getElem j hj]

end Registry

theorem FileSystem.source_eq_ok {fs : FileSystem} {p : Path} {d : Document}
    (h : fs.source p = .ok d) : ∃ text, fs.readText p = .ok text ∧ d = .ofChars p text := by
  unfold source at h
  split at h
  · rename_i text htext
    cases h
    exact ⟨text, htext, rfl⟩
  · cases h
  · cases h

namespace Runner

/-- Whatever is selected from a registry runs in its order. -/
theorem ascends_make {registry : Registry} (nodup : registry.names.Nodup)
    (orderly : ∀ d ∈ registry.descriptors, Orderly d.make) (selection : Selection)
    {fs : FileSystem} (short : ∀ p text, fs.readText p = .ok text → text.length < 0xFFFFFFFF) :
    (make registry selection fs.source).Ascends registry.names where
  registered := by
    intro active hactive
    obtain ⟨d, hd, rfl⟩ := List.mem_map.mp hactive
    exact List.mem_map_of_mem (List.mem_of_mem_filter hd)
  ascending := by
    have descriptors := List.pairwise_map.mp (Registry.pairwise_idxOf nodup)
    exact List.pairwise_map.mpr (descriptors.sublist List.filter_sublist)
  inOrder := by
    intro active hactive file d lints hd hrun
    obtain ⟨descriptor, hdescriptor, rfl⟩ := List.mem_map.mp hactive
    obtain ⟨text, htext, rfl⟩ := FileSystem.source_eq_ok hd
    obtain ⟨found, hfound, ordered⟩ := orderly descriptor (List.mem_of_mem_filter hdescriptor)
      descriptor.name file text (short file text htext)
    cases hfound.symm.trans hrun
    exact ⟨text, ordered⟩

theorem lintFiles_of_run {r : Runner} {files : List Path} {report : Report}
    (h : r.run files = .ok report) : (r.lintFiles files).2 = .ok report.lints := by
  rcases run_cases r files with ⟨e, _, hrun⟩ | ⟨_, hrun⟩
  · cases hrun.symm.trans h
  · rw [hrun] at h
    cases hlints : (r.lintFiles files).2 with
    | error e =>
      rw [hlints] at h
      cases h
    | ok lints =>
      rw [hlints] at h
      cases h
      rfl

theorem run_inReportOrder {maxLineLength : Nat} {patterns : List PatternDefinition}
    {registry : Registry} (hbuild : Registry.build maxLineLength patterns = .ok registry)
    {fs : FileSystem} (short : ∀ p text, fs.readText p = .ok text → text.length < 0xFFFFFFFF)
    {filter : FileFilter} {paths files : List Path}
    (hfiles : (Discovery.discover fs filter paths).result = .ok files) {selection : Selection}
    {report : Report} (hrun : (make registry selection fs.source).run files = .ok report) :
    InReportOrder registry.names report.lints := by
  obtain ⟨found, _, rfl⟩ := Discovery.discover_eq_ok_iff.mp hfiles
  have nodup := (Registry.Reachable.build hbuild).nodup_names
  have ascends := ascends_make nodup (Registry.orderly_of_build hbuild) selection short
  exact ascends.lintFiles_inReportOrder (Discovery.pairwise_sortFiles found)
    (lintFiles_of_run hrun)

end Runner

namespace CommandLine
open Logged

/-- Every report of a run on discovered files is in order, whatever linters are configured and
selected, whatever paths were searched, and however the files are shared among workers. So is every
report of a check. -/
theorem check_inReportOrder {fs : FileSystem}
    (short : ∀ names bytes text, fs.root.descend? names = some (.file bytes) →
      Text.decode? bytes = some text → text.length < 0xFFFFFFFF) :
    (∀ maxLineLength patterns registry, Registry.build maxLineLength patterns = .ok registry →
      ∀ filter paths files, (Discovery.discover fs filter paths).result = .ok files →
      ∀ selection report,
        let runner := Runner.make registry selection fs.source
        (runner.run files = .ok report ∨ ∃ schedule, (runner.pool files schedule).isDone = true ∧
          runner.runScheduled files schedule = .ok report) →
        InReportOrder registry.names report.lints) ∧
    ∀ options report, (check fs options).result = .ok report →
      ∃ config registry, (loadConfig fs options.config).result = .ok config ∧
        Registry.build config.linters.maxLineLength config.patterns = .ok registry ∧
        InReportOrder registry.names report.lints := by
  have read : ∀ p text, fs.readText p = .ok text → text.length < 0xFFFFFFFF := by
    intro p text htext
    obtain ⟨names, bytes, hfile, hdecode⟩ := FileSystem.exists_file_of_readText htext
    exact short names bytes text hfile hdecode
  constructor
  · rintro _ _ registry hbuild filter paths files hfiles selection report runner
      (hrun | ⟨schedule, hdone, hrun⟩)
    · exact Runner.run_inReportOrder hbuild read hfiles hrun
    · rw [Runner.runScheduled_of_isDone hdone] at hrun
      exact Runner.run_inReportOrder hbuild read hfiles hrun
  · intro options report hcheck
    obtain ⟨p, hp, hrun⟩ := check_eq_ok_iff.mp hcheck
    obtain ⟨config, filter, hconfig, _, hbuild, _, hfiles⟩ := plan_eq_ok_iff.mp hp
    exact ⟨config, p.registry, hconfig, hbuild,
      Runner.run_inReportOrder hbuild read hfiles hrun⟩

/-- A directory of two files with faults. -/
def faultyFiles : FileSystem :=
  ⟨[], .dir [([0x61], .file (Text.encode "x ".toList)),
    ([0x62], .file (Text.encode " !important\n".toList))]⟩

theorem faultyFiles_short (names : List FileName) (bytes : List UInt8) (text : List Char)
    (hfile : faultyFiles.root.descend? names = some (.file bytes))
    (hdecode : Text.decode? bytes = some text) : text.length < 0xFFFFFFFF := by
  have first : Text.decode? (Text.encode "x ".toList) = some "x ".toList := by cbv
  have second : Text.decode? (Text.encode " !important\n".toList) =
      some " !important\n".toList := by cbv
  obtain ⟨entry, hentry, hbytes⟩ := Node.exists_entry_of_descend? (by decide) hfile
  simp only [List.mem_cons, List.not_mem_nil, or_false] at hentry
  rcases hentry with rfl | rfl
  · cases hbytes
    cases first.symm.trans hdecode
    decide
  · cases hbytes
    cases second.symm.trans hdecode
    decide

/-- The same files in memory. -/
def faultyTexts : Engine :=
  memoryEngine [("a", .contents "x "), ("b", .contents " !important\n")]

theorem run_faultyFiles (registry : Registry) (selection : Selection) :
    (Runner.make registry selection faultyFiles.source).run [.ofString "a", .ofString "b"] =
      (Runner.make registry selection faultyTexts).run [.ofString "a", .ofString "b"] := by
  have first : faultyFiles.source (.ofString "a") = faultyTexts (.ofString "a") := by cbv
  have second : faultyFiles.source (.ofString "b") = faultyTexts (.ofString "b") := by cbv
  simp only [Runner.run, Runner.runTraced, Runner.refusal?, Runner.lintFiles, Runner.lintFile,
    Runner.make, first, second]
  rfl

theorem discover_faultyFiles {filter : FileFilter}
    (ha : filter.isExcluded (FileSystem.absolute []) (.ofString "a") = false)
    (hb : filter.isExcluded (FileSystem.absolute []) (.ofString "b") = false) :
    (Discovery.discover faultyFiles filter
      [.ofString "b", .ofString "a", .ofString "b"]).result =
      .ok [.ofString "a", .ofString "b"] := by
  have first : faultyFiles.isFile (.ofString "a") = true := by cbv
  have second : faultyFiles.isFile (.ofString "b") = true := by cbv
  have root : faultyFiles.cwd = [] := rfl
  have sorted : Discovery.sortFiles [.ofString "b", .ofString "a", .ofString "b"] =
      [.ofString "a", .ofString "b"] := by cbv
  rw [Discovery.discover_eq_ok_iff]
  refine ⟨[.ofString "b", .ofString "a", .ofString "b"], ?_, sorted⟩
  simp [Discovery.filesAtAll, Discovery.filesAt, result_bind_eq_ok_iff, result_pure, first, second,
    root, ha, hb]

/-- Checking the second file, then the first, then the second again. -/
theorem check_inReportOrder_faultyFiles :
    ∃ registry report, Registry.build 80 [] = .ok registry ∧
      (check faultyFiles ⟨[.ofString "b", .ofString "a", .ofString "b"], [], [], .human, none,
        true⟩).result = .ok report ∧
      report.lints.length = 3 ∧ InReportOrder registry.names report.lints := by
  have config : (loadConfig faultyFiles none).result = .ok .default := by cbv
  have ran : (Registry.build 80 []).toOption.any (fun registry =>
      ((Runner.make registry .all faultyTexts).run [.ofString "a", .ofString "b"]).toOption.any
        fun report => report.lints.length = 3) = true := by decide +kernel
  have kept : (FileFilter.ofPatterns ["**/*.scss"] []).toOption.any (fun filter =>
      !filter.isExcluded (FileSystem.absolute []) (.ofString "a") &&
        !filter.isExcluded (FileSystem.absolute []) (.ofString "b")) = true := by decide +kernel
  obtain ⟨registry, hbuild, ran⟩ := exists_of_any_toOption ran
  rw [← run_faultyFiles] at ran
  obtain ⟨report, hrun, count⟩ := exists_of_any_toOption ran
  obtain ⟨filter, hfilter, kept⟩ := exists_of_any_toOption kept
  simp only [Bool.and_eq_true, Bool.not_eq_true'] at kept
  have checked : (check faultyFiles ⟨[.ofString "b", .ofString "a", .ofString "b"], [], [],
      .human, none, true⟩).result = .ok report := by
    refine check_eq_ok_iff.mpr ⟨⟨registry, .all, [.ofString "a", .ofString "b"]⟩, ?_, hrun⟩
    exact plan_eq_ok_iff.mpr ⟨.default, filter, config, rfl, hbuild, hfilter,
      discover_faultyFiles kept.1 kept.2⟩
  obtain ⟨loaded, built, hloaded, hbuilt, ordered⟩ :=
    (check_inReportOrder faultyFiles_short).2 _ report checked
  cases config.symm.trans hloaded
  cases hbuild.symm.trans hbuilt
  exact ⟨registry, report, hbuild, checked, of_decide_eq_true count, ordered⟩

end CommandLine

end Linting
