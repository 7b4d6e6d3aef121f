import Linting.Proofs.Registry.Registration

/-! Registries over their histories. A history starts with no linters, with the builtin ones, or
with those of a configuration, and goes on with calls that register one linter or several, whether
they succeed or not. -/

namespace Linting

/-- A call that registers linters. -/
inductive Registration
  | one (name description : String) (make : LinterName → Linter)
  | builtins (maxLineLength : Nat)
  | patterns (definitions : List PatternDefinition)

namespace Registration

/-- What a call registers, in order. -/
def entries : Registration → List RegistryEntry
  | one name description make => [.linter name description make]
  | builtins maxLineLength => (Builtin.entries maxLineLength).map .ofBuiltin
  | patterns definitions => definitions.map .pattern

/-- The registry that a call leaves, and the error it returns if it fails. -/
def apply (r : Registry) : Registration → Registry × Option RegistryError
  | one name description make =>
    match r.register name description make with
    | .ok next => (next, none)
    | .error e => (r, some e)
  | builtins maxLineLength => r.registerBuiltins maxLineLength
  | patterns definitions => r.registerPatterns definitions

theorem apply_eq_registerAll (r : Registry) (call : Registration) :
    call.apply r = Registry.registerAll Registry.registerOne r call.entries := by
  cases call with
  | one name description make =>
    rw [apply, entries, Registry.registerAll, Registry.registerOne]
    cases r.register name description make <;> rfl
  | builtins maxLineLength => exact Registry.registerBuiltins_eq r maxLineLength
  | patterns definitions => exact Registry.registerPatterns_eq r definitions

end Registration

namespace Registry
open RegistryEntry

/-- The registry after more calls. -/
def after (r : Registry) (calls : List Registration) : Registry :=
  calls.foldl (fun r call => (call.apply r).1) r

/-- The registries that some history leads to. -/
inductive Reachable : Registry → Prop
  | empty : Reachable .empty
  | withBuiltins : Reachable .withBuiltins
  | build {maxLineLength : Nat} {patterns : List PatternDefinition} {r : Registry}
      (h : Registry.build maxLineLength patterns = .ok r) : Reachable r
  | call {r : Registry} (h : Reachable r) (call : Registration) : Reachable (call.apply r).1

theorem nodup_names_apply {r : Registry} (hr : r.names.Nodup) (call : Registration) :
    (call.apply r).1.names.Nodup := by
  rw [Registration.apply_eq_registerAll]
  rcases registerAll_cases hr call.entries with
    ⟨added, _, hnodup, hall⟩ | ⟨_, _, _, added, _, _, _, hnodup, _, hall⟩
  · rwa [hall]
  · rwa [hall]

theorem prefix_apply {r : Registry} (hr : r.names.Nodup) (call : Registration) :
    r.descriptors <+: (call.apply r).1.descriptors := by
  rw [Registration.apply_eq_registerAll]
  rcases registerAll_cases hr call.entries with
    ⟨added, _, _, hall⟩ | ⟨_, _, _, added, _, _, _, _, _, hall⟩
  · exact ⟨added, by rw [hall, extend]⟩
  · exact ⟨added, by rw [hall, extend]⟩

/-- A configuration's registry is made by two calls. -/
theorem build_eq_ok {maxLineLength : Nat} {patterns : List PatternDefinition} {r : Registry}
    (h : build maxLineLength patterns = .ok r) :
    ((Registration.patterns patterns).apply
      ((Registration.builtins maxLineLength).apply .empty).1).1 = r := by
  unfold build at h
  simp only [Registration.apply]
  split at h
  · cases h
  · split at h
    · cases h
    · rename_i hbuiltins _ _ hpatterns
      cases h
      rw [hbuiltins, hpatterns]

theorem Reachable.nodup_names {r : Registry} (h : r.Reachable) : r.names.Nodup := by
  induction h with
  | empty => exact nodup_names_empty
  | withBuiltins =>
    exact nodup_names_apply nodup_names_empty (.builtins Builtin.defaultMaxLineLength)
  | build h =>
    rw [← build_eq_ok h]
    exact nodup_names_apply (nodup_names_apply nodup_names_empty _) _
  | call _ call ih => exact nodup_names_apply ih call

theorem Reachable.after {r : Registry} (h : r.Reachable) (calls : List Registration) :
    (r.after calls).Reachable := by
  induction calls generalizing r with
  | nil => exact h
  | cons call calls ih => exact ih (h.call call)

theorem prefix_after {r : Registry} (hr : r.names.Nodup) (calls : List Registration) :
    r.descriptors <+: (r.after calls).descriptors := by
  induction calls generalizing r with
  | nil => exact List.prefix_rfl
  | cons call calls ih =>
    exact (prefix_apply hr call).trans (ih (nodup_names_apply hr call))

/-- Every history leaves valid and distinct names, of which each finds its own descriptor, and no
call changes what is registered already. A call adds its entries in order: all of them, or those
before the first that is refused, and then it returns that entry's error. So a single registration
that fails leaves the registry as it was. -/
theorem reachable_invariant {r : Registry} (h : r.Reachable) :
    (∀ d ∈ r.descriptors, isLinterName d.name.text = true) ∧
    r.names.Nodup ∧
    (∀ name d, r.get? name = some d ↔ d ∈ r.descriptors ∧ d.name = name) ∧
    (∀ calls, r.descriptors <+: (r.after calls).descriptors) ∧
    (∀ call : Registration,
      (∃ added, List.Forall₂ Defines call.entries added ∧
        call.apply r = (r.extend added, none)) ∨
      ∃ before bad rest added e, call.entries = before ++ bad :: rest ∧
        List.Forall₂ Defines before added ∧ bad.RefusedBy (r.extend added) e ∧
        call.apply r = (r.extend added, some e)) ∧
    ∀ name description make e,
      ((Registration.one name description make).apply r).2 = some e →
      (RegistryEntry.linter name description make).RefusedBy r e ∧
        ((Registration.one name description make).apply r).1 = r := by
  have nodup := h.nodup_names
  refine ⟨fun d _ => d.name.valid, nodup, fun name d => get?_eq_some_iff nodup,
    prefix_after nodup, ?_, ?_⟩
  · intro call
    rw [Registration.apply_eq_registerAll]
    rcases registerAll_cases nodup call.entries with
      ⟨added, hadded, _, hall⟩ | ⟨before, bad, rest, added, e, hsplit, hadded, _, hbad, hall⟩
    · exact .inl ⟨added, hadded, hall⟩
    · exact .inr ⟨before, bad, rest, added, e, hsplit, hadded, hbad, hall⟩
  · intro name description make e he
    have applied : (Registration.one name description make).apply r =
        registerAll registerOne r [.linter name description make] :=
      Registration.apply_eq_registerAll r _
    rcases registerOne_cases r (.linter name description make) with
      ⟨d, _, _, hone⟩ | ⟨e', refused, hone⟩
    · rw [applied, registerAll, hone] at he
      cases he
    · rw [applied, registerAll, hone] at he ⊢
      cases he
      exact ⟨refused, rfl⟩

/-- The name of the third builtin linter is taken before the builtin linters are registered, which
adds the first two of them. -/
theorem reachable_invariant_after_clash :
    let r := Registry.empty.after
      [.one "LineLength" "Keeps lines short" (Builtin.lineLength 3), .builtins 80]
    r.Reachable ∧
    r.names.map LinterName.text = ["LineLength", "TrailingWhitespace", "FinalNewline"] ∧
    r.names.Nodup ∧
    ∀ calls, r.descriptors <+: (r.after calls).descriptors := by
  have reachable := Reachable.empty.after
    [.one "LineLength" "Keeps lines short" (Builtin.lineLength 3), .builtins 80]
  obtain ⟨_, nodup, _, kept, _⟩ := reachable_invariant reachable
  exact ⟨reachable, by decide +kernel, nodup, kept⟩

end Registry

end Linting
