import Linting.Proofs.Config.Validation
import Linting.Proofs.Files.Filters
import Linting.Proofs.Registry.Registration

/-! What a checked configuration builds. Its patterns compile and have distinct names, so a registry
can refuse one of them only because its name is that of a builtin linter. -/

namespace Linting

namespace RegistryEntry

/-- The text that an entry is to be registered under. -/
def text : RegistryEntry → String
  | linter name _ _ => name
  | pattern p => p.name.text

theorem Defines.name_text {entry : RegistryEntry} {d : Descriptor} (h : entry.Defines d) :
    d.name.text = entry.text := by
  cases h <;> rfl

theorem map_text_of_defines {entries : List RegistryEntry} {added : List Descriptor}
    (h : List.Forall₂ Defines entries added) :
    added.map (fun d => d.name.text) = entries.map text := by
  induction h with
  | nil => rfl
  | cons defined _ ih => rw [List.map_cons, List.map_cons, defined.name_text, ih]

/-- An entry without a fault of its own is refused only for its name. -/
theorem RefusedBy.duplicate_of_defines {r : Registry} {entry : RegistryEntry} {d : Descriptor}
    {e : RegistryError} (h : entry.RefusedBy r e) (hd : entry.Defines d) :
    e = .duplicate d.name ∧ d.name ∈ r.names := by
  cases h with
  | invalidName invalid =>
    cases hd with
    | linter name description make => exact absurd (name.valid.symm.trans invalid) (by decide)
  | invalidPattern fault =>
    cases hd with
    | pattern compiled => cases compiled.symm.trans fault
  | duplicate defined taken =>
    obtain same := LinterName.ext (defined.name_text.trans hd.name_text.symm)
    exact ⟨by rw [same], same ▸ taken⟩

end RegistryEntry

namespace Registry
open RegistryEntry

/-- Entries that have no fault of their own and differ in their names. The first that is refused is
the first whose name the registry had before. -/
theorem registerAll_of_distinct {r : Registry} (hr : r.names.Nodup)
    {entries : List RegistryEntry} (defined : ∀ entry ∈ entries, ∃ d, entry.Defines d)
    (distinct : (entries.map text).Nodup) :
    (∃ added, List.Forall₂ Defines entries added ∧
      (∀ entry ∈ entries, entry.text ∉ r.names.map LinterName.text) ∧
      (r.extend added).names.Nodup ∧
      registerAll registerOne r entries = (r.extend added, none)) ∨
    ∃ before bad rest d next, entries = before ++ bad :: rest ∧
      (∀ entry ∈ before, entry.text ∉ r.names.map LinterName.text) ∧
      bad.Defines d ∧ d.name ∈ r.names ∧
      registerAll registerOne r entries = (next, some (.duplicate d.name)) := by
  have free {accepted : List RegistryEntry} {added : List Descriptor}
      (hadded : List.Forall₂ Defines accepted added) (hnodup : (r.extend added).names.Nodup) :
      ∀ entry ∈ accepted, entry.text ∉ r.names.map LinterName.text := by
    intro entry hentry htaken
    have new : entry.text ∈ added.map fun d => d.name.text :=
      map_text_of_defines hadded ▸ List.mem_map_of_mem hentry
    obtain ⟨d, hd, hdtext⟩ := List.mem_map.mp new
    obtain ⟨name, hname, htext⟩ := List.mem_map.mp htaken
    rw [names_extend, List.nodup_append] at hnodup
    exact hnodup.2.2 name hname d.name (List.mem_map_of_mem hd)
      (LinterName.ext (htext.trans hdtext.symm))
  rcases registerAll_cases hr entries with
    ⟨added, hadded, hnodup, hall⟩ | ⟨before, bad, rest, added, e, rfl, hadded, hnodup, hbad, hall⟩
  · exact .inl ⟨added, hadded, free hadded hnodup, hnodup, hall⟩
  · obtain ⟨d, hd⟩ := defined bad (by simp)
    obtain ⟨rfl, taken⟩ := hbad.duplicate_of_defines hd
    refine .inr ⟨before, bad, rest, d, _, rfl, free hadded hnodup, hd, ?_, hall⟩
    -- the name is taken by the registry itself, since the entries before have other names
    rw [names_extend, List.mem_append] at taken
    refine taken.resolve_right ?_
    intro hold
    obtain ⟨other, hother, hname⟩ := List.mem_map.mp hold
    have old : bad.text ∈ before.map text := by
      rw [← map_text_of_defines hadded, ← hd.name_text, ← hname]
      exact List.mem_map_of_mem hother
    rw [List.map_append, List.map_cons, List.nodup_append] at distinct
    exact distinct.2.2 _ old _ List.mem_cons_self rfl

end Registry

namespace Builtin
open RegistryEntry

/-- Names of the builtin linters, in the order in which they run. -/
def names : List String := ["TrailingWhitespace", "FinalNewline", "LineLength", "ImportantRule"]

theorem map_text_entries (maxLineLength : Nat) :
    ((entries maxLineLength).map ofBuiltin).map text = names := rfl

theorem lineLengthEntry_mem {maxLineLength : Nat} :
    ⟨"LineLength", s!"Lines must not be longer than {maxLineLength} characters",
      lineLength maxLineLength⟩ ∈ entries maxLineLength := by
  simp [entries]

theorem entry_defines {maxLineLength : Nat} {entry : RegistryEntry}
    (h : entry ∈ (entries maxLineLength).map ofBuiltin) : ∃ d, entry.Defines d := by
  have valid : names.all isLinterName = true := by decide +kernel
  obtain ⟨e, he, rfl⟩ := List.mem_map.mp h
  have named : e.name ∈ names := List.mem_map_of_mem he
  exact ⟨_, .linter ⟨e.name, List.all_eq_true.mp valid e.name named⟩ e.description e.make⟩

theorem registerBuiltins_empty (maxLineLength : Nat) :
    ∃ added, List.Forall₂ Defines ((entries maxLineLength).map ofBuiltin) added ∧
      (Registry.empty.extend added).names.Nodup ∧
      Registry.empty.registerBuiltins maxLineLength = (Registry.empty.extend added, none) := by
  have distinct : (((entries maxLineLength).map ofBuiltin).map text).Nodup := by
    rw [map_text_entries]
    decide
  rw [Registry.registerBuiltins_eq]
  rcases Registry.registerAll_of_distinct Registry.nodup_names_empty (fun _ => entry_defines)
    distinct with ⟨added, hadded, _, hnodup, hall⟩ | ⟨_, _, _, d, _, _, _, _, taken, _⟩
  · exact ⟨added, hadded, hnodup, hall⟩
  · exact absurd taken List.not_mem_nil

end Builtin

namespace Registry
open RegistryEntry

theorem exists_defines_of_compiled {patterns : List PatternDefinition}
    (compiled : ∀ p ∈ patterns, ∃ regex, Regex.compile p.pattern = .ok regex) :
    ∀ entry ∈ patterns.map RegistryEntry.pattern, ∃ d, entry.Defines d := by
  intro entry hentry
  obtain ⟨p, hp, rfl⟩ := List.mem_map.mp hentry
  obtain ⟨regex, hregex⟩ := compiled p hp
  exact ⟨_, .pattern hregex⟩

theorem nodup_texts_of_names {patterns : List PatternDefinition}
    (distinct : (patterns.map PatternDefinition.name).Nodup) :
    ((patterns.map RegistryEntry.pattern).map text).Nodup := by
  have texts : (patterns.map RegistryEntry.pattern).map text =
      (patterns.map PatternDefinition.name).map LinterName.text := by
    rw [List.map_map, List.map_map]
    rfl
  rw [texts]
  exact distinct.map fun _ _ => LinterName.ext

/-- Two ways for patterns without faults of their own: none is named like a builtin linter, and all
are registered behind these; or the first that is so named is refused. -/
theorem build_cases (maxLineLength : Nat) {patterns : List PatternDefinition}
    (compiled : ∀ p ∈ patterns, ∃ regex, Regex.compile p.pattern = .ok regex)
    (distinct : (patterns.map PatternDefinition.name).Nodup) :
    (∃ r, build maxLineLength patterns = .ok r ∧
      (∀ p ∈ patterns, p.name.text ∉ Builtin.names) ∧
      List.Forall₂ Defines
        ((Builtin.entries maxLineLength).map ofBuiltin ++ patterns.map .pattern) r.descriptors) ∨
    ∃ before p rest, patterns = before ++ p :: rest ∧
      (∀ q ∈ before, q.name.text ∉ Builtin.names) ∧ p.name.text ∈ Builtin.names ∧
      build maxLineLength patterns = .error (.duplicate p.name) := by
  obtain ⟨builtins, hbuiltins, hnodup, hfirst⟩ := Builtin.registerBuiltins_empty maxLineLength
  have names : (empty.extend builtins).names.map LinterName.text = Builtin.names := by
    rw [← Builtin.map_text_entries maxLineLength, ← map_text_of_defines hbuiltins, names_extend]
    exact List.map_map
  rcases registerAll_of_distinct hnodup (exists_defines_of_compiled compiled)
    (nodup_texts_of_names distinct) with
    ⟨added, hadded, hfree, _, hall⟩ | ⟨before, bad, rest, d, _, hsplit, hfree, hd, taken, hall⟩
  · rw [names] at hfree
    refine .inl ⟨(empty.extend builtins).extend added, ?_,
      fun p hp => hfree _ (List.mem_map_of_mem hp), List.rel_append hbuiltins hadded⟩
    unfold build
    simp only [hfirst, registerPatterns_eq, hall]
  · obtain ⟨front, tail, rfl, rfl, htail⟩ := List.map_eq_append_iff.mp hsplit
    obtain ⟨p, behind, rfl, rfl, rfl⟩ := List.map_eq_cons_iff.mp htail
    rw [names] at hfree
    have hname : d.name = p.name := LinterName.ext hd.name_text
    refine .inr ⟨front, p, behind, rfl, fun q hq => hfree _ (List.mem_map_of_mem hq), ?_, ?_⟩
    · rw [← names, ← hname]
      exact List.mem_map_of_mem taken
    · unfold build
      simp only [hfirst, registerPatterns_eq, hall, hname]

/-- Whatever the patterns are, a registry that is built holds the builtin linters and then one linter
for each pattern. -/
theorem exists_descriptors_of_build {maxLineLength : Nat} {patterns : List PatternDefinition}
    {r : Registry} (h : build maxLineLength patterns = .ok r) :
    ∃ builtins added,
      List.Forall₂ Defines ((Builtin.entries maxLineLength).map ofBuiltin) builtins ∧
      List.Forall₂ Defines (patterns.map .pattern) added ∧
      r.descriptors = builtins ++ added ∧ r.names.Nodup := by
  obtain ⟨builtins, hbuiltins, hnodup, hfirst⟩ := Builtin.registerBuiltins_empty maxLineLength
  unfold build at h
  simp only [hfirst, registerPatterns_eq] at h
  rcases registerAll_cases hnodup (patterns.map RegistryEntry.pattern) with
    ⟨added, hadded, distinct, hall⟩ | ⟨_, _, _, _, e, _, _, _, _, hall⟩
  · rw [hall] at h
    cases h
    exact ⟨builtins, added, hbuiltins, hadded, rfl, distinct⟩
  · rw [hall] at h
    cases h

/-- A configuration that is accepted builds everything that is made of it. Its registry holds the
builtin linters, with the length of lines that is configured, and then the patterns, in order; only
a pattern that is named like a builtin linter keeps it from being built, and the first one is told.
Its filter is always made. -/
theorem build_of_parsed_config {text : String} {config : Config}
    (h : Config.parse text = .ok config) :
    ((∃ r, build config.linters.maxLineLength config.patterns = .ok r) ↔
      ∀ p ∈ config.patterns, p.name.text ∉ Builtin.names) ∧
    (∀ r, build config.linters.maxLineLength config.patterns = .ok r →
      r.names.map LinterName.text =
        Builtin.names ++ config.patterns.map (fun p => p.name.text) ∧
      List.Forall₂ Defines ((Builtin.entries config.linters.maxLineLength).map ofBuiltin ++
        config.patterns.map .pattern) r.descriptors ∧
      ∃ d ∈ r.descriptors, d.name.text = "LineLength" ∧
        d.make = Builtin.lineLength config.linters.maxLineLength) ∧
    (∀ e, build config.linters.maxLineLength config.patterns = .error e →
      ∃ before p rest, config.patterns = before ++ p :: rest ∧
        (∀ q ∈ before, q.name.text ∉ Builtin.names) ∧ p.name.text ∈ Builtin.names ∧
        e = .duplicate p.name) ∧
    ∃ filter, FileFilter.ofPatterns config.files.included config.files.excluded = .ok filter := by
  obtain ⟨_, included, excluded, _, compiled, distinct⟩ :=
    Config.fault?_eq_none_iff.mp (Config.fault?_of_parse h)
  have filter := FileFilter.ofPatterns_of_forall included excluded
  rcases build_cases config.linters.maxLineLength compiled distinct with
    ⟨r, built, free, defines⟩ | ⟨before, p, rest, hsplit, hbefore, hp, built⟩
  · refine ⟨⟨fun _ => free, fun _ => ⟨r, built⟩⟩, ?_, ?_, filter⟩
    · intro r' hr'
      cases built.symm.trans hr'
      refine ⟨?_, defines, ?_⟩
      · rw [names, List.map_map]
        refine (map_text_of_defines defines).trans ?_
        rw [List.map_append, Builtin.map_text_entries, List.map_map]
        rfl
      · obtain ⟨d, hd, defined⟩ := exists_of_forall₂ defines
          (List.mem_append_left _ (List.mem_map_of_mem Builtin.lineLengthEntry_mem))
        exact ⟨d, hd, defined.name_text, Defines.make_of_linter defined⟩
    · intro e he
      cases built.symm.trans he
  · refine ⟨⟨?_, ?_⟩, ?_, ?_, filter⟩
    · rintro ⟨r, hr⟩
      cases built.symm.trans hr
    · intro free
      exact absurd hp (free p (by simp [hsplit]))
    · intro r hr
      cases built.symm.trans hr
    · intro e he
      cases built.symm.trans he
      exact ⟨before, p, rest, hsplit, hbefore, hp, rfl⟩

/-- A pattern that is named like the third builtin linter. -/
theorem build_of_clashing_config :
    ∃ config, Config.parse "[[pattern]]\nname = \"LineLength\"\npattern = \"x\"\n" = .ok config ∧
      (¬∃ r, build config.linters.maxLineLength config.patterns = .ok r) ∧
      ∃ filter, FileFilter.ofPatterns config.files.included config.files.excluded = .ok filter := by
  have clash : (Config.parse "[[pattern]]\nname = \"LineLength\"\npattern = \"x\"\n").toOption.any
      (fun c => c.patterns.any fun p => p.name.text ∈ Builtin.names) = true := by decide +kernel
  obtain ⟨config, hparse, clash⟩ := exists_of_any_toOption clash
  obtain ⟨p, hp, hname⟩ := List.any_eq_true.mp clash
  obtain ⟨built, _, _, filter⟩ := build_of_parsed_config hparse
  refine ⟨config, hparse, ?_, filter⟩
  rw [built]
  exact fun free => free p hp (of_decide_eq_true hname)

end Registry

end Linting
