import Linting.CommandLine.Check
import Linting.Proofs.Runner.Selection
import Mathlib.Data.List.Basic

/-! Which linters run, told by the names that are asked for. For each kind of list the names given
on the command line take the place of the configured ones, and a linter runs when the names to
include hold its own, or are none at all, and the names to exclude do not. -/

namespace Linting

theorem mem_sortedNames {name : LinterName} {names : List LinterName} :
    name ∈ sortedNames names ↔ name ∈ names := by
  rw [sortedNames, List.mem_mergeSort, List.mem_eraseDups]

theorem LinterName.text_injective : Function.Injective LinterName.text := fun _ _ => LinterName.ext

namespace CommandLine

def invalidName? (texts : List String) : Option String := texts.find? fun s => !isLinterName s

theorem parseNames_of_invalid {texts : List String} {s : String} (h : invalidName? texts = some s) :
    parseNames texts = .error (.invalid (.linterName s)) := by
  induction texts with
  | nil => cases h
  | cons t texts ih =>
    unfold invalidName? at h ih
    rw [List.find?_cons] at h
    by_cases valid : isLinterName t = true
    · have rest := ih (by simpa [valid] using h)
      simp only [parseNames, LinterName.ofString?, dif_pos valid, rest]
      rfl
    · obtain rfl : t = s := by simpa [valid] using h
      simp only [parseNames, LinterName.ofString?, dif_neg valid]

theorem parseNames_of_valid {texts : List String} (h : invalidName? texts = none) :
    ∃ names, parseNames texts = .ok names ∧ names.map LinterName.text = texts := by
  induction texts with
  | nil => exact ⟨[], rfl, rfl⟩
  | cons t texts ih =>
    unfold invalidName? at h ih
    rw [List.find?_eq_none, List.forall_mem_cons] at h
    have valid : isLinterName t = true := by simpa using h.1
    obtain ⟨names, hnames, rfl⟩ := ih (List.find?_eq_none.mpr h.2)
    refine ⟨⟨t, valid⟩ :: names, ?_, rfl⟩
    simp only [parseNames, LinterName.ofString?, dif_pos valid, hnames]
    rfl

/-- What is given on the command line for one kind of list, or else what is configured. -/
def override (flags : List String) (configured : Option (List LinterName)) :
    Except ConfigError (Option (List LinterName)) :=
  if flags.isEmpty then .ok configured else (parseNames flags).map some

theorem selectionOf_eq (config : Config) (includes excludes : List String) :
    selectionOf config includes excludes =
      (override includes config.selection.included).bind fun included =>
        (override excludes config.selection.excluded).map (Selection.mk included) := by
  unfold selectionOf override
  cases includes.isEmpty <;> cases excludes.isEmpty
  · cases parseNames includes <;> cases parseNames excludes <;> rfl
  · cases parseNames includes <;> rfl
  · cases parseNames excludes <;> rfl
  · rfl

/-- The names that count for one kind of list. A list that is not set has none. -/
def effective (flags : List String) (configured : Option (List LinterName)) : List String :=
  if flags.isEmpty then (configured.getD []).map LinterName.text else flags

/-- A set of names stands for a list of texts. -/
structure Stands (names : List LinterName) (texts : List String) : Prop where
  empty : names = [] ↔ texts = []
  mem : ∀ name, name ∈ names ↔ name.text ∈ texts

theorem Stands.of_map {names : List LinterName} : Stands names (names.map LinterName.text) where
  empty := List.map_eq_nil_iff.symm
  mem _ := (List.mem_map_of_injective LinterName.text_injective).symm

theorem Stands.sortedNames {names : List LinterName} {texts : List String}
    (h : Stands names texts) : Stands (sortedNames names) texts where
  empty := by
    rw [← h.empty]
    simp only [List.eq_nil_iff_forall_not_mem, mem_sortedNames]
  mem name := by rw [mem_sortedNames, h.mem]

theorem override_of_invalid {flags : List String} {s : String} (h : invalidName? flags = some s)
    (configured : Option (List LinterName)) :
    override flags configured = .error (.invalid (.linterName s)) := by
  have given : flags.isEmpty = false := by
    cases flags with
    | nil => cases h
    | cons => rfl
  rw [override, given, parseNames_of_invalid h]
  rfl

theorem override_of_valid {flags : List String} (h : invalidName? flags = none)
    (configured : Option (List LinterName)) :
    ∃ names, override flags (configured.map sortedNames) = .ok names ∧
      Stands (names.getD []) (effective flags configured) := by
  rw [override, effective]
  cases flags.isEmpty with
  | true =>
    refine ⟨_, rfl, ?_⟩
    cases configured with
    | none => exact Stands.of_map
    | some names => exact Stands.of_map.sortedNames
  | false =>
    obtain ⟨names, hnames, htexts⟩ := parseNames_of_valid h
    refine ⟨some names, by rw [hnames]; rfl, ?_⟩
    show Stands names flags
    exact htexts ▸ Stands.of_map

/-- The names to include are looked at before the names to exclude. -/
theorem selectionOf_of_invalid (config : Config) {includes excludes : List String} {s : String}
    (h : invalidName? (includes ++ excludes) = some s) :
    selectionOf config includes excludes = .error (.invalid (.linterName s)) := by
  rw [selectionOf_eq]
  rw [invalidName?, List.find?_append, Option.or_eq_some_iff] at h
  rcases h with h | ⟨hincludes, hexcludes⟩
  · rw [override_of_invalid h]
    rfl
  · obtain ⟨included, hincluded, _⟩ := override_of_valid hincludes config.linters.included
    rw [Config.selection, hincluded, override_of_invalid hexcludes]
    rfl

theorem selectionOf_of_valid (config : Config) {includes excludes : List String}
    (h : invalidName? (includes ++ excludes) = none) :
    ∃ selection, selectionOf config includes excludes = .ok selection ∧
      Stands (selection.included.getD []) (effective includes config.linters.included) ∧
      Stands (selection.excluded.getD []) (effective excludes config.linters.excluded) := by
  rw [invalidName?, List.find?_append, Option.or_eq_none_iff] at h
  obtain ⟨included, hincluded, standsIn⟩ := override_of_valid h.1 config.linters.included
  obtain ⟨excluded, hexcluded, standsOut⟩ := override_of_valid h.2 config.linters.excluded
  refine ⟨⟨included, excluded⟩, ?_, standsIn, standsOut⟩
  rw [selectionOf_eq, Config.selection, hincluded, hexcluded]
  rfl

/-- Whether a linter is asked for by the names to include and those to exclude. -/
def IsAskedFor (included excluded : List String) (name : LinterName) : Prop :=
  (included = [] ∨ name.text ∈ included) ∧ name.text ∉ excluded

instance (included excluded : List String) (name : LinterName) :
    Decidable (IsAskedFor included excluded name) :=
  inferInstanceAs (Decidable (_ ∧ _))

theorem selects_iff_isAskedFor {selection : Selection} {included excluded : List String}
    (hincluded : Stands (selection.included.getD []) included)
    (hexcluded : Stands (selection.excluded.getD []) excluded) (name : LinterName) :
    selection.selects name = true ↔ IsAskedFor included excluded name := by
  rw [Selection.selects_iff, hincluded.empty, hincluded.mem, hexcluded.mem, IsAskedFor]

/-- The same linters of a registry are asked for: the lists may differ in order, in repetitions and
in names that no linter has. -/
theorem isAskedFor_congr {registry : Registry} {as bs cs ds : List String}
    (hempty : as = [] ↔ bs = []) (hin : ∀ name ∈ registry.names, name.text ∈ as ↔ name.text ∈ bs)
    (hout : ∀ name ∈ registry.names, name.text ∈ cs ↔ name.text ∈ ds) :
    ∀ name ∈ registry.names, IsAskedFor as cs name ↔ IsAskedFor bs ds name := by
  intro name hname
  rw [IsAskedFor, IsAskedFor, hempty, hin name hname, hout name hname]

/-- An invalid name on the command line is an error, and the first one is told, the names to include
coming first. Otherwise the linters that run are those of the registry that the effective names ask
for, in its order. So whatever is excluded does not run, and two requests whose effective names are
the same among the registered ones make the same runner. -/
theorem make_of_effective_names (config : Config) (includes excludes : List String) :
    (∀ s, invalidName? (includes ++ excludes) = some s →
      selectionOf config includes excludes = .error (.invalid (.linterName s)) ∧
      (ConfigError.invalid (.linterName s)).message =
        s!"Invalid configuration: Invalid linter name '{s}'") ∧
    (invalidName? (includes ++ excludes) = none →
      ∃ selection, selectionOf config includes excludes = .ok selection ∧
        ∀ registry engine,
          let included := effective includes config.linters.included
          let excluded := effective excludes config.linters.excluded
          let runner := Runner.make registry selection engine
          runner.linters = (registry.descriptors.filter fun d =>
            IsAskedFor included excluded d.name).map (fun d => ⟨d.name, d.instantiate⟩) ∧
          runner.names = registry.names.filter (IsAskedFor included excluded ·) ∧
          ∀ name, name.text ∈ excluded → name ∉ runner.names) ∧
    ∀ other includes' excludes' selection selection' registry engine,
      selectionOf config includes excludes = .ok selection →
      selectionOf other includes' excludes' = .ok selection' →
      (effective includes config.linters.included = [] ↔
        effective includes' other.linters.included = []) →
      (∀ name ∈ registry.names, name.text ∈ effective includes config.linters.included ↔
        name.text ∈ effective includes' other.linters.included) →
      (∀ name ∈ registry.names, name.text ∈ effective excludes config.linters.excluded ↔
        name.text ∈ effective excludes' other.linters.excluded) →
      Runner.make registry selection engine = Runner.make registry selection' engine := by
  -- an accepted selection is one of valid names, so it says what the effective names ask for
  have accepted {config : Config} {includes excludes : List String} {selection : Selection}
      (h : selectionOf config includes excludes = .ok selection) :
      ∀ name, selection.selects name = true ↔ IsAskedFor
        (effective includes config.linters.included)
        (effective excludes config.linters.excluded) name := by
    cases hinvalid : invalidName? (includes ++ excludes) with
    | some s => cases h.symm.trans (selectionOf_of_invalid config hinvalid)
    | none =>
      obtain ⟨_, hselection, hin, hout⟩ := selectionOf_of_valid config hinvalid
      cases h.symm.trans hselection
      exact selects_iff_isAskedFor hin hout
  refine ⟨fun s hs => ⟨selectionOf_of_invalid config hs, rfl⟩, ?_, ?_⟩
  · intro hvalid
    obtain ⟨selection, hselection, _⟩ := selectionOf_of_valid config hvalid
    have asked := accepted hselection
    have selects : selection.selects = fun name => decide (IsAskedFor
        (effective includes config.linters.included)
        (effective excludes config.linters.excluded) name) := by
      funext name
      rw [Bool.eq_iff_iff, asked, decide_eq_true_iff]
    refine ⟨selection, hselection, fun registry engine => ⟨?_, ?_, ?_⟩⟩
    · rw [Runner.make, selects]
    · rw [Runner.names_make, selects]
    · intro name hexcluded hname
      rw [Runner.names_make, List.mem_filter, asked] at hname
      exact hname.2.2 hexcluded
  · intro other includes' excludes' selection selection' registry engine h h' hempty hin hout
    apply Runner.make_congr
    intro name hname
    rw [Bool.eq_iff_iff, accepted h, accepted h']
    exact isAskedFor_congr hempty hin hout name hname

end CommandLine
end Linting
