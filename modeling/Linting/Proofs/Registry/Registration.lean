import Linting.Registry
import Mathlib.Data.List.Nodup

/-! What it takes to register a linter. An entry defines a descriptor, or has a fault of its own;
a registry refuses it for that fault, or because the descriptor's name is taken. Entries that are
registered together are added up to the first one that is refused. -/

namespace Linting

/-- Something to register: a linter under a text that may be no name, or a pattern. -/
inductive RegistryEntry
  | linter (name description : String) (make : LinterName → Linter)
  | pattern (definition : PatternDefinition)

namespace RegistryEntry

def ofBuiltin (e : Builtin.Entry) : RegistryEntry := .linter e.name e.description e.make

/-- The descriptor that an entry stands for. There is none unless the name is valid and the pattern
compiles. -/
inductive Defines : RegistryEntry → Descriptor → Prop
  | linter (name : LinterName) (description : String) (make : LinterName → Linter) :
      Defines (.linter name.text description make) ⟨name, description, make⟩
  | pattern {p : PatternDefinition} {regex : Regex} (h : Regex.compile p.pattern = .ok regex) :
      Defines (.pattern p) ⟨p.name, p.description, fun name =>
        (PatternLinter.mk name regex p.lintMessage p.severity).run⟩

/-- Why a registry does not take an entry. That a name is taken is told only of an entry that has
no fault of its own. -/
inductive RefusedBy (r : Registry) : RegistryEntry → RegistryError → Prop
  | invalidName {name description : String} {make : LinterName → Linter}
      (h : isLinterName name = false) :
      RefusedBy r (.linter name description make) (.invalidName name)
  | invalidPattern {p : PatternDefinition} {fault : Regex.Error}
      (h : Regex.compile p.pattern = .error fault) :
      RefusedBy r (.pattern p) (.invalidPattern p.name fault)
  | duplicate {entry : RegistryEntry} {d : Descriptor} (h : entry.Defines d)
      (taken : d.name ∈ r.names) : RefusedBy r entry (.duplicate d.name)

theorem Defines.make_of_linter {name description : String} {make : LinterName → Linter}
    {d : Descriptor} (h : (RegistryEntry.linter name description make).Defines d) :
    d.make = make := by
  generalize hentry : RegistryEntry.linter name description make = entry at h
  cases h with
  | linter => cases hentry; rfl
  | pattern => cases hentry

end RegistryEntry

theorem exists_of_forall₂ {α β : Type} {R : α → β → Prop} {as : List α} {bs : List β}
    (h : List.Forall₂ R as bs) {a : α} (ha : a ∈ as) : ∃ b ∈ bs, R a b := by
  induction h with
  | nil => cases ha
  | @cons a b _ _ related _ ih =>
    rcases List.mem_cons.mp ha with rfl | ha
    · exact ⟨b, List.mem_cons_self, related⟩
    · obtain ⟨c, hc, hac⟩ := ih ha
      exact ⟨c, List.mem_cons_of_mem b hc, hac⟩

theorem exists_of_any_toOption {ε α : Type} {result : Except ε α} {p : α → Bool}
    (h : result.toOption.any p = true) : ∃ a, result = .ok a ∧ p a = true := by
  cases result with
  | error e => cases h
  | ok a => exact ⟨a, rfl, h⟩

namespace Registry
open RegistryEntry

/-- The registry with more descriptors at its end. -/
def extend (r : Registry) (added : List Descriptor) : Registry := ⟨r.descriptors ++ added⟩

@[simp] theorem extend_nil (r : Registry) : r.extend [] = r := by
  rw [extend, List.append_nil]

@[simp] theorem extend_extend (r : Registry) (ds es : List Descriptor) :
    (r.extend ds).extend es = r.extend (ds ++ es) := by
  rw [extend, extend, extend, List.append_assoc]

@[simp] theorem names_extend (r : Registry) (added : List Descriptor) :
    (r.extend added).names = r.names ++ added.map Descriptor.name :=
  List.map_append

theorem nodup_names_empty : empty.names.Nodup := List.nodup_nil

theorem get?_isSome_iff {r : Registry} {name : LinterName} :
    (r.get? name).isSome = true ↔ name ∈ r.names := by
  simp [get?, names]

/-- With distinct names a lookup finds the descriptor of a name. -/
theorem get?_eq_some_iff {r : Registry} (hr : r.names.Nodup) {name : LinterName}
    {d : Descriptor} : r.get? name = some d ↔ d ∈ r.descriptors ∧ d.name = name := by
  constructor
  · intro h
    exact ⟨List.mem_of_find?_eq_some h, by simpa using List.find?_some h⟩
  · rintro ⟨hd, rfl⟩
    obtain ⟨found, hfound⟩ := Option.isSome_iff_exists.mp
      (get?_isSome_iff.mpr (List.mem_map_of_mem hd))
    have hmem : found ∈ r.descriptors := List.mem_of_find?_eq_some hfound
    have hname : found.name = d.name := by simpa using List.find?_some hfound
    rw [hfound, List.inj_on_of_nodup_map hr hmem hd hname]

def registerOne (r : Registry) : RegistryEntry → Except RegistryError Registry
  | .linter name description make => r.register name description make
  | .pattern p => r.registerPattern p

/-- A valid name is taken or it is not. -/
theorem register_name (r : Registry) (name : LinterName) (description : String)
    (make : LinterName → Linter) :
    r.register name.text description make =
      if name ∈ r.names then .error (.duplicate name)
      else .ok (r.extend [⟨name, description, make⟩]) := by
  simp only [register, LinterName.ofString?_text, get?_isSome_iff, extend]

/-- One entry is added at the end or refused. -/
theorem registerOne_cases (r : Registry) (entry : RegistryEntry) :
    (∃ d, entry.Defines d ∧ d.name ∉ r.names ∧ r.registerOne entry = .ok (r.extend [d])) ∨
    ∃ e, entry.RefusedBy r e ∧ r.registerOne entry = .error e := by
  cases entry with
  | linter text description make =>
    cases htext : LinterName.ofString? text with
    | none =>
      refine .inr ⟨_, .invalidName (LinterName.ofString?_eq_none_iff.mp htext), ?_⟩
      rw [registerOne, register, htext]
    | some name =>
      obtain rfl := LinterName.ofString?_eq_some_iff.mp htext
      have defined := Defines.linter name description make
      by_cases taken : name ∈ r.names
      · exact .inr ⟨_, .duplicate defined taken, by rw [registerOne, register_name, if_pos taken]⟩
      · exact .inl ⟨_, defined, taken, by rw [registerOne, register_name, if_neg taken]⟩
  | pattern p =>
    cases hregex : Regex.compile p.pattern with
    | error fault =>
      exact .inr ⟨_, .invalidPattern hregex, by rw [registerOne, registerPattern, hregex]⟩
    | ok regex =>
      have defined := Defines.pattern hregex
      by_cases taken : p.name ∈ r.names
      · refine .inr ⟨_, .duplicate defined taken, ?_⟩
        simp only [registerOne, registerPattern, hregex, register_name, if_pos taken]
      · refine .inl ⟨_, defined, taken, ?_⟩
        simp only [registerOne, registerPattern, hregex, register_name, if_neg taken]

theorem nodup_names_extend_one {r : Registry} (hr : r.names.Nodup) {d : Descriptor}
    (hd : d.name ∉ r.names) : (r.extend [d]).names.Nodup := by
  rw [names_extend, List.map_singleton, List.nodup_append]
  refine ⟨hr, List.nodup_singleton _, ?_⟩
  intro name hname other hother heq
  rw [List.mem_singleton.mp hother] at heq
  exact hd (heq ▸ hname)

/-- Entries are added in order. Either all are, or those before the first that is refused, whose
error is returned. -/
theorem registerAll_cases {r : Registry} (hr : r.names.Nodup) (entries : List RegistryEntry) :
    (∃ added, List.Forall₂ Defines entries added ∧ (r.extend added).names.Nodup ∧
      registerAll registerOne r entries = (r.extend added, none)) ∨
    ∃ before bad rest added e, entries = before ++ bad :: rest ∧
      List.Forall₂ Defines before added ∧ (r.extend added).names.Nodup ∧
      bad.RefusedBy (r.extend added) e ∧
      registerAll registerOne r entries = (r.extend added, some e) := by
  induction entries generalizing r with
  | nil => exact .inl ⟨[], .nil, by simpa using hr, by rw [extend_nil]; rfl⟩
  | cons entry entries ih =>
    rcases registerOne_cases r entry with ⟨d, defined, free, hone⟩ | ⟨e, refused, hone⟩
    · -- the rest is registered with a registry that is longer by one
      have step : registerAll registerOne r (entry :: entries) =
          registerAll registerOne (r.extend [d]) entries := by
        rw [registerAll, hone]
      rw [step]
      rcases ih (nodup_names_extend_one hr free) with ⟨added, hadded, hnodup, hall⟩ |
        ⟨before, bad, rest, added, e, rfl, hadded, hnodup, hbad, hall⟩
      · rw [extend_extend] at hnodup hall
        exact .inl ⟨_, .cons defined hadded, hnodup, hall⟩
      · rw [extend_extend] at hnodup hbad hall
        exact .inr ⟨_, bad, rest, _, e, rfl, .cons defined hadded, hnodup, hbad, hall⟩
    · refine .inr ⟨[], entry, entries, [], e, rfl, .nil, by simpa using hr, ?_, ?_⟩
      · rwa [extend_nil]
      · rw [registerAll, hone, extend_nil]

theorem registerAll_map {α : Type} (f : α → RegistryEntry) (r : Registry) (as : List α) :
    registerAll registerOne r (as.map f) = registerAll (fun r a => r.registerOne (f a)) r as := by
  induction as generalizing r with
  | nil => rfl
  | cons a as ih =>
    simp only [List.map_cons, registerAll]
    cases r.registerOne (f a) with
    | ok next => exact ih next
    | error e => rfl

theorem registerBuiltins_eq (r : Registry) (maxLineLength : Nat) :
    r.registerBuiltins maxLineLength =
      registerAll registerOne r ((Builtin.entries maxLineLength).map ofBuiltin) :=
  (registerAll_map ofBuiltin r _).symm

theorem registerPatterns_eq (r : Registry) (patterns : List PatternDefinition) :
    r.registerPatterns patterns = registerAll registerOne r (patterns.map .pattern) :=
  (registerAll_map .pattern r patterns).symm

end Registry

end Linting
