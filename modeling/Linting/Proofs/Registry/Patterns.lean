import Linting.Proofs.Linter.Order
import Linting.Proofs.Registry.Configured
import Linting.Proofs.Registry.Histories
import Mathlib

/-! Patterns from their definition to what is reported of them. A registered pattern is looked up
under its own name, and the linter that is made of it reports the matches of its expression. -/

namespace Linting
open Text

/-- What the linter of a pattern says of one match in a text: where the match starts, how many
characters it has, and what the definition says. -/
structure PatternDefinition.Reports (p : PatternDefinition) (path : Path) (cs : List Char)
    (m : Regex.Match) (l : Lint) : Prop where
  placed : ∃ pre text, pre ++ text <+: cs ∧ byteLength pre = m.offset ∧
    byteLength text = m.byteLength ∧ l.location.Tells pre text
  linter : l.linter = p.name
  file : l.file = path
  severity : l.severity = p.severity
  message : l.message = p.message.getD s!"Matches forbidden pattern `{p.pattern}`"

/-- One lint for each match, in order, each placed before the next. -/
theorem PatternDefinition.exists_reports (p : PatternDefinition) (regex : Regex) (path : Path)
    {cs : List Char} (hlen : cs.length < 0xFFFFFFFF) :
    ∃ lints, (PatternLinter.mk p.name regex p.lintMessage p.severity).run (.ofChars path cs) =
        .reported lints ∧
      List.Forall₂ (p.Reports path cs) (regex.program.findAll cs) lints ∧
      lints.Pairwise fun k l => k.location.IsBefore l.location := by
  obtain ⟨found, hfound, h⟩ := Regex.exists_findAll regex.program cs
  refine ⟨_, PatternLinter.run_eq_reported _ path hlen hfound h.inside, ?_,
    (Builtin.inOrder_of_found p.name path p.severity p.lintMessage hlen h).ordered⟩
  rw [hfound, List.forall₂_map_left_iff, List.forall₂_map_right_iff, List.forall₂_same]
  intro s hs
  have tells := Location.ofStretch_tells (h.inside s hs) hlen
  exact ⟨⟨s.front, s.text, h.inside s hs, rfl, rfl, tells⟩, rfl, rfl, rfl, rfl⟩

namespace Registry
open RegistryEntry

theorem names_of_defines {patterns : List PatternDefinition} {added : List Descriptor}
    (h : List.Forall₂ Defines (patterns.map .pattern) added) :
    added.map Descriptor.name = patterns.map PatternDefinition.name := by
  have same : List.Forall₂ (fun p d => PatternDefinition.name p = d.name) patterns added := by
    rw [List.forall₂_map_left_iff] at h
    refine h.imp fun p d defined => ?_
    exact (LinterName.ext defined.name_text).symm
  rw [← List.forall₂_eq_eq_eq, List.forall₂_map_left_iff, List.forall₂_map_right_iff]
  exact same.flip.imp fun _ _ => Eq.symm

theorem exists_added_of_registerPatterns {r next : Registry} (hr : r.names.Nodup)
    {patterns : List PatternDefinition} (h : r.registerPatterns patterns = (next, none)) :
    ∃ added, List.Forall₂ Defines (patterns.map .pattern) added ∧ next = r.extend added ∧
      next.names.Nodup := by
  rw [registerPatterns_eq] at h
  rcases registerAll_cases hr (patterns.map RegistryEntry.pattern) with
    ⟨added, hadded, hnodup, hall⟩ | ⟨_, _, _, _, _, _, _, _, _, hall⟩
  · cases hall.symm.trans h
    exact ⟨added, hadded, rfl, hnodup⟩
  · cases hall.symm.trans h

/-- Patterns are registered if they compile and no name is used twice or taken. -/
theorem registerPatterns_succeeds_iff {r : Registry} (hr : r.names.Nodup)
    (patterns : List PatternDefinition) :
    (∃ next, r.registerPatterns patterns = (next, none)) ↔
      (∀ p ∈ patterns, ∃ regex, Regex.compile p.pattern = .ok regex) ∧
      (patterns.map PatternDefinition.name).Nodup ∧ ∀ p ∈ patterns, p.name ∉ r.names := by
  constructor
  · rintro ⟨next, h⟩
    obtain ⟨added, hadded, rfl, hnodup⟩ := exists_added_of_registerPatterns hr h
    rw [names_extend, names_of_defines hadded, List.nodup_append] at hnodup
    obtain ⟨-, distinct, apart⟩ := hnodup
    refine ⟨fun p hp => ?_, distinct, fun p hp taken => ?_⟩
    · obtain ⟨d, -, defined⟩ := exists_of_forall₂ hadded (List.mem_map_of_mem hp)
      cases defined with
      | pattern compiled => exact ⟨_, compiled⟩
    · exact apart _ taken _ (List.mem_map_of_mem hp) rfl
  · rintro ⟨compiled, distinct, free⟩
    rw [registerPatterns_eq]
    rcases registerAll_of_distinct hr (exists_defines_of_compiled compiled)
      (nodup_texts_of_names distinct) with
      ⟨added, -, -, -, hall⟩ | ⟨before, bad, rest, d, _, hsplit, -, hd, taken, -⟩
    · exact ⟨_, hall⟩
    · have among : bad ∈ patterns.map RegistryEntry.pattern := by simp [hsplit]
      obtain ⟨p, hp, rfl⟩ := List.mem_map.mp among
      exact absurd (LinterName.ext hd.name_text ▸ taken) (free p hp)

/-- Patterns are registered unless one does not compile or its name is used before, and then each of
them is found under its name. The linter made of it reports the matches of its expression, one by
one, from the start of the text to the end. -/
theorem registered_patterns_report_matches {r : Registry} (hr : r.Reachable)
    (patterns : List PatternDefinition) :
    ((∃ next, r.registerPatterns patterns = (next, none)) ↔
      (∀ p ∈ patterns, ∃ regex, Regex.compile p.pattern = .ok regex) ∧
      (patterns.map PatternDefinition.name).Nodup ∧ ∀ p ∈ patterns, p.name ∉ r.names) ∧
    ∀ next, r.registerPatterns patterns = (next, none) →
      ∀ p ∈ patterns, ∃ regex d, Regex.compile p.pattern = .ok regex ∧
        next.get? p.name = some d ∧
        ∀ path cs, cs.length < 0xFFFFFFFF →
          ∃ lints, d.instantiate (.ofChars path cs) = .reported lints ∧
            List.Forall₂ (p.Reports path cs) (regex.program.findAll cs) lints ∧
            lints.Pairwise fun k l => k.location.IsBefore l.location := by
  refine ⟨registerPatterns_succeeds_iff hr.nodup_names patterns, ?_⟩
  intro next h p hp
  obtain ⟨added, hadded, rfl, hnodup⟩ := exists_added_of_registerPatterns hr.nodup_names h
  obtain ⟨d, hd, defined⟩ := exists_of_forall₂ hadded (List.mem_map_of_mem hp)
  cases defined with
  | @pattern _ regex compiled =>
    refine ⟨regex, _, compiled, (get?_eq_some_iff hnodup).mpr ⟨List.mem_append_right _ hd, rfl⟩, ?_⟩
    intro path cs hlen
    exact p.exists_reports regex path hlen

/-- The matches are empty at the start, go over a line break behind a character of two bytes, and are
empty at the end. -/
theorem registered_patterns_report_matches_across_lines :
    let p : PatternDefinition := ⟨⟨"Gaps", by decide +kernel⟩, "x\nx|y*", none, .error⟩
    let cs := "éx\nxx".toList
    let path := Path.ofString "a.scss"
    let matched : List Regex.Match := [⟨0, 0⟩, ⟨2, 3⟩, ⟨6, 0⟩]
    Registry.empty.Reachable ∧ cs.length < 0xFFFFFFFF ∧
    ∃ next regex d lints, Registry.empty.registerPatterns [p] = (next, none) ∧
      Regex.compile p.pattern = .ok regex ∧ regex.program.findAll cs = matched ∧
      next.get? p.name = some d ∧ d.instantiate (.ofChars path cs) = .reported lints ∧
      List.Forall₂ (p.Reports path cs) matched lints := by
  have finds : (Regex.compile "x\nx|y*").toOption.any (fun regex =>
      regex.program.findAll "éx\nxx".toList = [⟨0, 0⟩, ⟨2, 3⟩, ⟨6, 0⟩]) = true := by cbv
  intro p cs path matched
  have short : cs.length < 0xFFFFFFFF := by decide
  obtain ⟨regex, compiled, finds⟩ := exists_of_any_toOption finds
  obtain ⟨registers, reports⟩ := registered_patterns_report_matches .empty [p]
  obtain ⟨next, registered⟩ := registers.mpr ⟨by simpa using ⟨regex, compiled⟩,
    List.nodup_singleton _, fun _ _ => List.not_mem_nil⟩
  obtain ⟨regex, d, compiledAgain, found, told⟩ :=
    reports next registered p (List.mem_singleton_self p)
  cases compiled.symm.trans compiledAgain
  obtain ⟨lints, reported, perMatch, -⟩ := told path cs short
  have places : regex.program.findAll cs = matched := of_decide_eq_true finds
  rw [places] at perMatch
  exact ⟨.empty, short, next, regex, d, lints, registered, compiled, places, found, reported,
    perMatch⟩

end Registry

end Linting
