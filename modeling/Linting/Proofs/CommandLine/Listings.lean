import Linting.Proofs.CommandLine.Commands
import Linting.Proofs.CommandLine.Selections
import Linting.Proofs.Registry.Configured
import Linting.Proofs.Report.Records

/-! The listing of linters against a check with the same configuration. It has the entries of the
registry, marks as enabled what a check runs, tells the builtin linters from those of patterns, and
can be read back from its lines. -/

namespace Linting

def LinterOrigin.ofName? : String → Option LinterOrigin
  | "builtin" => some builtin
  | "pattern" => some pattern
  | _ => none

theorem LinterOrigin.ofName?_name (o : LinterOrigin) : ofName? o.name = some o := by
  cases o <;> rfl

namespace LinterStatus
open Json

/-- Reads an entry by the names of its fields. -/
def ofJson? (j : Json) : Option LinterStatus := do
  some ⟨← (← j.field? "name").text?, ← (← j.field? "description").text?,
    ← LinterOrigin.ofName? (← (← j.field? "source").text?), ← (← j.field? "enabled").flag?⟩

def read? (line : List Char) : Option LinterStatus := (parse? (String.ofList line)).bind ofJson?

theorem ofJson?_record (s : LinterStatus) : ofJson? (.object s.record) = some s := by
  have origin := LinterOrigin.ofName?_name s.origin
  simp [ofJson?, record, field?, text?, flag?, origin]

theorem exact_record (s : LinterStatus) : Exact (.object s.record) := by
  apply Exact.object
  simp [record, Exact.string, Exact.boolean]

end LinterStatus

namespace Registry
open RegistryEntry

theorem map_name_of_patterns {patterns : List PatternDefinition} {added : List Descriptor}
    (h : List.Forall₂ Defines (patterns.map .pattern) added) :
    added.map Descriptor.name = patterns.map PatternDefinition.name := by
  apply List.map_injective_iff.mpr LinterName.text_injective
  rw [List.map_map, List.map_map]
  have texts := map_text_of_defines h
  rw [List.map_map] at texts
  exact texts

end Registry

namespace Listing

variable (registry : Registry) (config : Config) (selection : Selection) (engine : Engine)

theorem isLinesOf_jsonl (statuses : List LinterStatus) :
    IsLinesOf LinterStatus.read? (jsonl statuses) statuses := by
  have joined : jsonl statuses =
      String.join ((statuses.map LinterStatus.record).map Json.line) := by
    rw [jsonl, List.map_map]
    rfl
  rw [joined]
  apply Json.isLinesOf_join
  · intro fields hfields
    obtain ⟨s, _, rfl⟩ := List.mem_map.mp hfields
    exact s.exact_record
  · rw [List.map_map]
    exact List.map_congr_left fun s _ => s.ofJson?_record

theorem map_name_ofRegistry : (ofRegistry registry config selection engine).map LinterStatus.name =
    registry.names.map LinterName.text := by
  rw [ofRegistry, Registry.names, List.map_map, List.map_map]
  rfl

theorem map_description_ofRegistry :
    (ofRegistry registry config selection engine).map LinterStatus.description =
      registry.descriptors.map Descriptor.description := by
  rw [ofRegistry, List.map_map]
  rfl

/-- Entries are marked by looking a name up among those of the runner, which holds the registered
names that the selection selects. -/
theorem enabled_ofRegistry :
    ((ofRegistry registry config selection engine).filter LinterStatus.enabled).map
        LinterStatus.name =
      (Runner.make registry selection engine).names.map LinterName.text := by
  have enabled : ∀ d ∈ registry.descriptors,
      (Runner.make registry selection engine).names.contains d.name =
        selection.selects d.name := by
    intro d hd
    have registered : d.name ∈ registry.names := List.mem_map_of_mem hd
    rw [Bool.eq_iff_iff, List.contains_iff_mem, Runner.names_make, List.mem_filter]
    exact and_iff_right registered
  calc
    _ = (registry.descriptors.filter fun d =>
          (Runner.make registry selection engine).names.contains d.name).map
            (LinterName.text ∘ Descriptor.name) := by
      rw [ofRegistry, List.filter_map, List.map_map]
      rfl
    _ = (registry.descriptors.filter fun d => selection.selects d.name).map
          (LinterName.text ∘ Descriptor.name) := by
      rw [List.filter_congr enabled]
    _ = (Runner.make registry selection engine).names.map LinterName.text := by
      rw [Runner.names, Runner.make, List.map_map, List.map_map]
      rfl

/-- Names are distinct, so no builtin linter has the name of a pattern. -/
theorem origin_ofRegistry {builtins added : List Descriptor}
    (hregistry : registry.descriptors = builtins ++ added)
    (hadded : added.map Descriptor.name = config.patterns.map PatternDefinition.name)
    (hnodup : registry.names.Nodup) :
    (ofRegistry registry config selection engine).map LinterStatus.origin =
      List.replicate builtins.length .builtin ++
        List.replicate config.patterns.length .pattern := by
  have lengths : added.length = config.patterns.length := by
    simpa using congrArg List.length hadded
  rw [Registry.names, hregistry, List.map_append, hadded] at hnodup
  have apart := (List.nodup_append.mp hnodup).2.2
  rw [ofRegistry, List.map_map, hregistry, List.map_append, ← lengths]
  congr 1
  · apply List.map_eq_replicate_iff.mpr
    intro d hd
    have other : d.name ∉ config.patterns.map PatternDefinition.name := fun hp =>
      apart d.name (List.mem_map_of_mem hd) d.name hp rfl
    exact if_neg (mt List.contains_iff_mem.mp other)
  · apply List.map_eq_replicate_iff.mpr
    intro d hd
    have named : d.name ∈ config.patterns.map PatternDefinition.name :=
      hadded ▸ List.mem_map_of_mem hd
    exact if_pos (List.contains_iff_mem.mpr named)

/-- What a listing tells of a registry that was built from a configuration, and of a runner. -/
structure Truthful (statuses : List LinterStatus) (registry : Registry) (config : Config)
    (runner : Runner) : Prop where
  registered : List.Forall₂ RegistryEntry.Defines
    ((Builtin.entries config.linters.maxLineLength).map .ofBuiltin ++
      config.patterns.map .pattern) registry.descriptors
  names : statuses.map LinterStatus.name = registry.names.map LinterName.text
  descriptions : statuses.map LinterStatus.description =
    registry.descriptors.map Descriptor.description
  origins : statuses.map LinterStatus.origin =
    List.replicate 4 .builtin ++ List.replicate config.patterns.length .pattern
  enabled : (statuses.filter LinterStatus.enabled).map LinterStatus.name =
    runner.names.map LinterName.text
  lines : IsLinesOf LinterStatus.read? (jsonl statuses) statuses

theorem truthful_ofRegistry {registry : Registry} {config : Config}
    (h : Registry.build config.linters.maxLineLength config.patterns = .ok registry)
    (selection : Selection) (engine : Engine) :
    Truthful (ofRegistry registry config selection engine) registry config
      (Runner.make registry selection engine) := by
  obtain ⟨builtins, added, hbuiltins, hadded, hdescriptors, hnodup⟩ :=
    Registry.exists_descriptors_of_build h
  have four : builtins.length = 4 := hbuiltins.length_eq.symm
  exact {
    registered := hdescriptors ▸ List.rel_append hbuiltins hadded
    names := map_name_ofRegistry registry config selection engine
    descriptions := map_description_ofRegistry registry config selection engine
    origins := by
      rw [← four]
      exact origin_ofRegistry registry config selection engine hdescriptors
        (Registry.map_name_of_patterns hadded) hnodup
    enabled := enabled_ofRegistry registry config selection engine
    lines := isLinesOf_jsonl (ofRegistry registry config selection engine) }

end Listing

namespace CommandLine

/-- The listing tells of every linter whether a check without names on the command line runs it, and
where it is from, in the order of the registry; and its lines are read back as its entries. So it
does whatever the files are that both commands find. -/
theorem list_truthful {config : Config} {registry : Registry}
    (h : Registry.build config.linters.maxLineLength config.patterns = .ok registry) :
    (∃ selection, selectionOf config [] [] = .ok selection ∧ ∀ engine,
      Listing.Truthful (Listing.ofRegistry registry config config.selection engine) registry config
        (Runner.make registry selection engine)) ∧
    ∀ fs options, (loadConfig fs options.config).result = .ok config →
      options.includeLinters = [] → options.excludeLinters = [] →
      ∃ statuses, (list fs options.config).result = .ok statuses ∧
        ∀ p, (plan fs options).result = .ok p →
          Listing.Truthful statuses registry config
            (Runner.make p.registry p.selection fs.source) := by
  have selection : selectionOf config [] [] = .ok config.selection := rfl
  refine ⟨⟨_, selection, Listing.truthful_ofRegistry h config.selection⟩, ?_⟩
  intro fs options hconfig hincludes hexcludes
  refine ⟨_, list_eq_ok_iff.mpr ⟨config, registry, hconfig, h, rfl⟩, fun p hp => ?_⟩
  obtain ⟨loaded, _, hloaded, hselection, hregistry, _⟩ := plan_eq_ok_iff.mp hp
  cases hconfig.symm.trans hloaded
  rw [hincludes, hexcludes, selection] at hselection
  have sameSelection : config.selection = p.selection := Except.ok.inj hselection
  have sameRegistry : registry = p.registry := Except.ok.inj (h.symm.trans hregistry)
  rw [← sameSelection, ← sameRegistry]
  exact Listing.truthful_ofRegistry h config.selection fs.source

/-- A configuration that excludes a builtin linter and a name that no linter has, and defines a
linter of its own. -/
theorem list_truthful_with_pattern :
    let config : Config := ⟨.default, ⟨none, some [⟨"LineLength", by decide⟩,
      ⟨"Unknown", by decide⟩], 80⟩,
      [⟨⟨"NoDebug", by decide⟩, "@debug", none, .warning⟩]⟩
    let engine : Engine := fun p => .ok (.ofChars p [])
    ∃ registry, Registry.build config.linters.maxLineLength config.patterns = .ok registry ∧
      let statuses := Listing.ofRegistry registry config config.selection engine
      (statuses.filter LinterStatus.enabled).map LinterStatus.name =
        ["TrailingWhitespace", "FinalNewline", "ImportantRule", "NoDebug"] ∧
      statuses.map LinterStatus.origin = [.builtin, .builtin, .builtin, .builtin, .pattern] ∧
      IsLinesOf LinterStatus.read? (Listing.jsonl statuses) statuses := by
  intro config engine
  have runs : (Registry.build config.linters.maxLineLength config.patterns).toOption.any
      (fun registry => (Runner.make registry ⟨none, config.linters.excluded⟩ engine).names.map
        LinterName.text = ["TrailingWhitespace", "FinalNewline", "ImportantRule", "NoDebug"]) =
      true := by decide +kernel
  obtain ⟨registry, hbuild, runs⟩ := exists_of_any_toOption runs
  -- the configured names are sorted, which no selection can tell
  have unsorted : Runner.make registry config.selection engine =
      Runner.make registry ⟨none, config.linters.excluded⟩ engine := by
    apply Runner.make_congr
    intro name _
    rw [Bool.eq_iff_iff, Selection.selects_iff, Selection.selects_iff]
    simp only [Config.selection, config, Option.map_some, Option.map_none, Option.getD_some,
      mem_sortedNames]
  rw [← unsorted] at runs
  obtain ⟨⟨selection, hselection, truthful⟩, _⟩ := list_truthful hbuild
  cases hselection
  have told := truthful engine
  exact ⟨registry, hbuild, told.enabled.trans (of_decide_eq_true runs), told.origins, told.lines⟩

end CommandLine

end Linting
