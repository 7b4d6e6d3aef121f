import Linting.Config.Encode
import Linting.Proofs.Config.Validation
import Linting.Proofs.Toml.Documents

/-! A configuration comes back from the text that it is written as: the values by their readers, the
tables by their fields, the document by the reader of its lines. -/

namespace Linting

open Toml (Value Writable Flat Sectional)
open Toml.Value (format)

section Values

theorem mapM_map_eq_ok {α β ε : Type} {write : α → β} {read : β → Except ε α} {xs : List α}
    (h : ∀ a ∈ xs, read (write a) = .ok a) : (xs.map write).mapM read = .ok xs := by
  induction xs with
  | nil => rfl
  | cons a xs ih =>
    have first := h a List.mem_cons_self
    have rest := ih fun b hb => h b (List.mem_cons_of_mem a hb)
    rw [List.map_cons, List.mapM_cons, first, rest]
    rfl

@[simp] theorem string_value (s : String) : format.string (.string s) = .ok s := rfl

@[simp] theorem name_value (name : LinterName) : format.name (.string name.text) = .ok name := by
  have text := string_value name.text
  have read := LinterName.ofString?_text name
  simp only [Format.name, text, bind, Except.bind, read]

@[simp] theorem severity_value (s : Severity) : format.severity (.string s.name) = .ok s := by
  cases s <;> rfl

theorem natural_value {limit n : Nat} (h : n ≤ limit) (kind : String) :
    format.natural limit kind (.integer n) = .ok n := by
  have range : (0 : Int) ≤ n ∧ (n : Int) ≤ limit := by omega
  have view : format.view (.integer n) = .scalar (.integer n) := rfl
  unfold Format.natural
  simp only [view]
  rw [if_pos range, Int.toNat_natCast]

@[simp] theorem list_stringValues (texts : List String) :
    format.list format.string (stringValues texts) = .ok texts :=
  mapM_map_eq_ok fun s _ => string_value s

@[simp] theorem list_nameValues (names : List LinterName) :
    format.list format.name (nameValues names) = .ok names := by
  have items : (names.map fun name => Value.string name.text).mapM format.name = .ok names :=
    mapM_map_eq_ok fun name _ => name_value name
  have values : nameValues names = .array false (names.map fun name => .string name.text) := by
    simp [nameValues, stringValues]
  rw [values]
  exact items

@[simp] theorem optional_string_value (s : String) :
    format.optional format.string (.string s) = .ok (some s) := rfl

@[simp] theorem optional_nameValues (names : List LinterName) :
    format.optional (format.list format.name) (nameValues names) = .ok (some names) := by
  have items := list_nameValues names
  have some : format.optional (format.list format.name) (nameValues names) =
      (format.list format.name (nameValues names)).map some := rfl
  rw [some, items]
  rfl

end Values

section Tables

variable {ρ : Type}

theorem record_table {r : Format.Record Value ρ} {entries : List (String × Value)} {part : ρ}
    (h : Format.readEntries r entries = .ok part) (complete : r.missing? part = none) :
    format.record r (.table entries) = .ok part := by
  simp only [Format.record, format, Toml.Value.view, h, bind, Except.bind, complete]

/-- An entry that was left out leaves the part read so far as it is. -/
theorem foldlM_optionalEntry (read : ρ → String × Value → Except ShapeError ρ) (key : String)
    (value : Option Value) (part : ρ) :
    (optionalEntry key value).foldlM read part =
      match value with
      | none => .ok part
      | some v => read part (key, v) := by
  cases value with
  | none => rfl
  | some v => simp [optionalEntry]

theorem record_fileSection (s : FileSection) :
    format.record (fileSectionRecord format) s.toValue = .ok s := by
  refine record_table ?_ rfl
  simp [Format.readEntries, fileSectionRecord, bind, Except.bind, pure, Except.pure]

theorem record_linterSection {s : LinterSection} (h : s.maxLineLength ≤ maxWord64) :
    format.record (linterSectionRecord format) s.toValue = .ok s := by
  obtain ⟨included, excluded, maxLineLength⟩ := s
  have number := natural_value h "usize"
  refine record_table ?_ rfl
  cases included <;> cases excluded <;>
    simp [Format.readEntries, linterSectionRecord, LinterSection.default, foldlM_optionalEntry,
      number, bind, Except.bind, pure, Except.pure]

theorem read_patternDefinition (p : PatternDefinition) :
    PatternDefinition.read format p.toValue = .ok p := by
  obtain ⟨name, pattern, message, severity⟩ := p
  have fields : format.record (patternRecord format)
      (PatternDefinition.toValue ⟨name, pattern, message, severity⟩) =
        .ok ⟨some name, some pattern, message, severity⟩ := by
    refine record_table ?_ rfl
    cases message <;>
      simp [Format.readEntries, patternRecord, foldlM_optionalEntry, bind, Except.bind, pure,
        Except.pure]
  simp only [PatternDefinition.read, fields, bind, Except.bind]

theorem list_patterns (patterns : List PatternDefinition) :
    format.list (PatternDefinition.read format)
      (.array true (patterns.map PatternDefinition.toValue)) = .ok patterns :=
  mapM_map_eq_ok fun p _ => read_patternDefinition p

/-- The readers of the tables put back what was taken apart, and what was left out as well. -/
theorem Config.ofValue_toValue {c : Config} (h : c.linters.maxLineLength ≤ maxWord64) :
    Config.ofValue c.toValue = .ok c := by
  obtain ⟨files, linters, patterns⟩ := c
  have first := record_fileSection files
  have second := record_linterSection h
  refine record_table ?_ rfl
  cases patterns with
  | nil =>
    simp [Format.readEntries, configRecord, Config.default, first, second, bind, Except.bind, pure,
      Except.pure]
  | cons p rest =>
    have third := list_patterns (p :: rest)
    rw [List.map_cons] at third
    simp [Format.readEntries, configRecord, Config.default, first, second, third, bind, Except.bind,
      pure, Except.pure]

end Tables

section Written

theorem writable_stringValues (texts : List String) :
    Writable Toml.depthLimit (stringValues texts) := by
  refine .array fun item hitem => ?_
  obtain ⟨s, -, rfl⟩ := List.mem_map.mp hitem
  exact .string s

theorem flat_optionalEntry (key : String) (bare : Toml.isBareKey key = true)
    {value : Option Value} (h : ∀ v, value = some v → Writable Toml.depthLimit v)
    {entries : List (String × Value)} (distinct : key ∉ entries.map Prod.fst)
    (rest : Flat entries) : Flat (optionalEntry key value ++ entries) := by
  cases value with
  | none => exact rest
  | some v => exact .cons bare (h v rfl) distinct rest

theorem writable_optionalNames (names : Option (List LinterName)) :
    ∀ v, names.map nameValues = some v → Writable Toml.depthLimit v := by
  intro v hv
  obtain ⟨names, -, rfl⟩ := Option.map_eq_some_iff.mp hv
  exact writable_stringValues _

theorem sectional_fileSection (s : FileSection) : Sectional s.toValue := by
  have excluded : Flat [("exclude", stringValues s.excluded)] :=
    .cons rfl (writable_stringValues s.excluded) (by simp) .nil
  have included : Flat [("include", stringValues s.included), ("exclude", stringValues s.excluded)] :=
    .cons rfl (writable_stringValues s.included) (by simp) excluded
  exact .table (.cons rfl (.string s.version) (by simp) included)

theorem sectional_linterSection {s : LinterSection} (h : s.maxLineLength ≤ Builtin.maxWord32) :
    Sectional s.toValue := by
  have word : Builtin.maxWord32 = 0xFFFFFFFF := rfl
  have number : Flat [("max_line_length", .integer s.maxLineLength)] :=
    .cons rfl (.integer (by omega) (by omega)) (by simp) .nil
  have excluded := flat_optionalEntry "exclude" rfl (writable_optionalNames s.excluded) (by simp)
    number
  have included := flat_optionalEntry "include" rfl (writable_optionalNames s.included)
    (by cases s.excluded <;> simp [optionalEntry]) excluded
  rw [LinterSection.toValue, List.append_assoc]
  exact .table included

theorem flat_patternDefinition (p : PatternDefinition) :
    ∃ entries, p.toValue = .table entries ∧ Flat entries := by
  have severity : Flat [("severity", .string p.severity.name)] :=
    .cons rfl (.string _) (by simp) .nil
  have text : ∀ v, p.message.map Value.string = some v → Writable Toml.depthLimit v := by
    intro v hv
    obtain ⟨s, -, rfl⟩ := Option.map_eq_some_iff.mp hv
    exact .string s
  have message := flat_optionalEntry "message" rfl text (by simp) severity
  refine ⟨_, rfl, ?_⟩
  rw [List.append_assoc]
  refine .cons rfl (.string _) ?_ (.cons rfl (.string _) ?_ message)
  all_goals cases p.message <;> simp [optionalEntry]

theorem sectional_patterns {patterns : List PatternDefinition} (h : patterns ≠ []) :
    Sectional (.array true (patterns.map PatternDefinition.toValue)) := by
  choose entries written flat using flat_patternDefinition
  have tables : patterns.map PatternDefinition.toValue =
      (patterns.map entries).map Value.table := by
    rw [List.map_map]
    exact List.map_congr_left fun p _ => written p
  rw [tables]
  refine .tables (by simpa using h) fun table htable => ?_
  obtain ⟨p, -, rfl⟩ := List.mem_map.mp htable
  exact flat p

theorem headed_config {c : Config} (h : c.linters.maxLineLength ≤ Builtin.maxWord32) :
    ∃ entries, c.toValue = .table entries ∧ Toml.Headed entries := by
  refine ⟨_, rfl, ?_⟩
  have files := sectional_fileSection c.files
  have linters := sectional_linterSection h
  by_cases none : c.patterns = []
  · simp only [none, List.isEmpty_nil, if_true, List.append_nil]
    exact .cons rfl files (by simp) (.cons rfl linters (by simp) .nil)
  · have patterns := sectional_patterns none
    simp only [List.isEmpty_iff, none, if_false]
    exact .cons rfl files (by simp) (.cons rfl linters (by simp) (.cons rfl patterns (by simp) .nil))

end Written

/-- A configuration that is valid is read back from the document that it is written as. Lists that
are not set stay apart from empty ones, and patterns that were left out come back as none. -/
theorem Config.parse_render {c : Config} (h : c.validate = .ok c) :
    ∃ entries, c.toValue = .table entries ∧ Config.parse (Toml.render entries) = .ok c := by
  have valid : c.fault? = none := by
    cases fault : c.fault? with
    | none => rfl
    | some f => simp [Config.validate, fault] at h
  obtain ⟨-, -, -, ⟨-, word⟩, -⟩ := Config.fault?_eq_none_iff.mp valid
  have words : Builtin.maxWord32 ≤ maxWord64 := by decide
  obtain ⟨entries, value, headed⟩ := headed_config word
  have read := Config.ofValue_toValue (word.trans words)
  rw [value] at read
  refine ⟨entries, value, ?_⟩
  simp only [Config.parse, Toml.readDocument_render headed, read, h]

theorem Config.parse_render_empty_lists :
    let name : LinterName := ⟨"NoTabs", by decide⟩
    let c : Config := ⟨⟨"1", [], ["a'b\"*\\?"]⟩, ⟨some [], none, 4294967295⟩,
      [⟨name, "\t+", some "tabs\r\n'''and\"\"\"\x07", .error⟩]⟩
    c.validate = .ok c ∧
      ∃ entries, c.toValue = .table entries ∧ Config.parse (Toml.render entries) = .ok c :=
  ⟨by decide +kernel, Config.parse_render (by decide +kernel)⟩

end Linting
