import Linting.Proofs.Config.Validation

/-! Every fault of a configuration, in the order in which a reader is told of them. A text is
accepted when its configuration has none, and refused for the first otherwise. -/

namespace Linting.Config

/-- A configuration that can be used. -/
structure IsValid (c : Config) : Prop where
  version : c.files.version = "1"
  included : ∀ p ∈ c.files.included, ∃ glob, Glob.compile p .filter = .ok glob
  excluded : ∀ p ∈ c.files.excluded, ∃ glob, Glob.compile p .filter = .ok glob
  lineLength : 0 < c.linters.maxLineLength ∧ c.linters.maxLineLength ≤ Builtin.maxWord32
  names : (c.patterns.map PatternDefinition.name).Nodup
  regexes : ∀ p ∈ c.patterns, ∃ regex, Regex.compile p.pattern = .ok regex

def versionFaults (s : FileSection) : List ConfigFault :=
  if s.version = "1" then [] else [.version s.version]

def globFaults (fault : String → Glob.Error → ConfigFault) (patterns : List String) :
    List ConfigFault :=
  patterns.filterMap fun pattern =>
    match Glob.compile pattern .filter with
    | .error e => some (fault pattern e)
    | .ok _ => none

def lineLengthFaults (s : LinterSection) : List ConfigFault :=
  (if s.maxLineLength = 0 then [.zeroLineLength] else []) ++
    if Builtin.maxWord32 < s.maxLineLength then [.hugeLineLength] else []

/-- What is wrong with a pattern behind others: its name is taken, or its regex cannot be read. -/
def ownFaults (before : List PatternDefinition) (p : PatternDefinition) : List ConfigFault :=
  (if p.name ∈ before.map PatternDefinition.name then [.duplicatePattern p.name] else []) ++
    match Regex.compile p.pattern with
    | .error e => [.regex p.name e]
    | .ok _ => []

/-- `before` are patterns in front of these. -/
def patternFaultsBehind (before patterns : List PatternDefinition) : List ConfigFault :=
  (patterns.zipIdx before.length).flatMap fun (p, i) => ownFaults ((before ++ patterns).take i) p

/-- All faults, in the order of the sections and of the lists in them. -/
def faults (c : Config) : List ConfigFault :=
  versionFaults c.files ++ globFaults .includeGlob c.files.included ++
    globFaults .excludeGlob c.files.excluded ++ lineLengthFaults c.linters ++
    patternFaultsBehind [] c.patterns

theorem badGlob?_map (fault : String → Glob.Error → ConfigFault) (patterns : List String) :
    ((badGlob? patterns).map fun (pattern, e) => fault pattern e) =
      (globFaults fault patterns).head? := by
  induction patterns with
  | nil => rfl
  | cons pattern rest ih =>
    rw [badGlob?, globFaults, List.filterMap_cons]
    cases Glob.compile pattern .filter with
    | error e => rfl
    | ok glob => exact ih

theorem patternFaultsBehind_cons (before : List PatternDefinition) (p : PatternDefinition)
    (rest : List PatternDefinition) :
    patternFaultsBehind before (p :: rest) =
      ownFaults before p ++ patternFaultsBehind (before ++ [p]) rest := by
  simp [patternFaultsBehind]

theorem patternFault?_eq_head? (seen : List LinterName) (before patterns : List PatternDefinition)
    (h : ∀ name, name ∈ seen ↔ name ∈ before.map PatternDefinition.name) :
    patternFault? seen patterns = (patternFaultsBehind before patterns).head? := by
  induction patterns generalizing seen before with
  | nil => rfl
  | cons p rest ih =>
    -- `seen` holds the names in front, so `p` joins both of them for the rest
    rw [patternFault?, patternFaultsBehind_cons, ownFaults]
    by_cases taken : p.name ∈ before.map PatternDefinition.name
    · rw [if_pos (by simpa [h] using taken), if_pos taken]
      rfl
    · rw [if_neg (by simpa [h] using taken), if_neg taken]
      cases Regex.compile p.pattern with
      | error e => rfl
      | ok regex => exact ih _ (before ++ [p]) (by simp [h, or_comm])

theorem fault?_eq_head? (c : Config) : c.fault? = c.faults.head? := by
  have included := badGlob?_map .includeGlob c.files.included
  have excluded := badGlob?_map .excludeGlob c.files.excluded
  have patterns := patternFault?_eq_head? [] [] c.patterns (by simp)
  simp only [faults, List.head?_append, ← included, ← excluded, ← patterns, Option.or_assoc]
  unfold fault? versionFaults lineLengthFaults
  by_cases version : c.files.version = "1"
  · rw [if_neg (by simpa using version), if_pos version, List.head?_nil, Option.none_or]
    cases badGlob? c.files.included with
    | some bad => rfl
    | none =>
      cases badGlob? c.files.excluded with
      | some bad => rfl
      | none =>
        by_cases zero : c.linters.maxLineLength = 0
        · simp [zero]
        · by_cases huge : Builtin.maxWord32 < c.linters.maxLineLength <;> simp [zero, huge]
  · rw [if_pos (by simpa using version), if_neg version]
    rfl

theorem isValid_iff {c : Config} : c.IsValid ↔ c.fault? = none := by
  rw [fault?_eq_none_iff]
  constructor
  · rintro ⟨version, included, excluded, lineLength, names, regexes⟩
    exact ⟨version, included, excluded, lineLength, regexes, names⟩
  · rintro ⟨version, included, excluded, lineLength, regexes, names⟩
    exact ⟨version, included, excluded, lineLength, names, regexes⟩

/-- The configuration that a text holds, checked or not. -/
def Holds (text : String) (c : Config) : Prop :=
  ∃ entries, Toml.readDocument text = some entries ∧ ofValue (.table entries) = .ok c

theorem Holds.parse_eq {text : String} {c : Config} (h : Holds text c) :
    parse text = c.validate := by
  obtain ⟨entries, read, shaped⟩ := h
  rw [parse, read]
  simp only [shaped]

/-- A text with a configuration in it is accepted exactly when this is valid, and then stands for it
as it is. It is refused exactly when there are faults, for the first of them. -/
theorem parse_reports_first_fault {text : String} {c : Config} (h : Holds text c) :
    (∀ accepted, parse text = .ok accepted ↔ c.IsValid ∧ accepted = c) ∧
    ∀ e, parse text = .error e ↔ ∃ fault, c.faults.head? = some fault ∧ e = .invalid fault := by
  rw [h.parse_eq, validate, isValid_iff, ← fault?_eq_head?]
  cases c.fault? with
  | none => simp [eq_comm]
  | some fault => simp [eq_comm]

/-- The second pattern takes the name of the first and cannot be read: two faults, and the first of
them is told. -/
theorem parse_reports_taken_name :
    let text := "[[pattern]]\nname = 'A'\npattern = 'x'\n[[pattern]]\nname = 'A'\npattern = '('"
    ∃ c name, Holds text c ∧
      c.faults = [.duplicatePattern name, .regex name .groupUnclosed] ∧
      parse text = .error (.invalid (.duplicatePattern name)) := by
  intro text
  have read : ((Toml.readDocument text).any fun entries =>
      match ofValue (.table entries) with
      | .ok c => c.patterns.any fun p =>
        c.faults = [.duplicatePattern p.name, .regex p.name .groupUnclosed]
      | .error _ => false) = true := by decide +kernel
  obtain ⟨entries, document, found⟩ := (Option.any_eq_true _ _).mp read
  split at found
  · rename_i c shaped
    obtain ⟨p, -, told⟩ := List.any_eq_true.mp found
    have faults := of_decide_eq_true told
    have holds : Holds text c := ⟨entries, document, shaped⟩
    refine ⟨c, p.name, holds, faults, ((parse_reports_first_fault holds).2 _).mpr ⟨_, ?_, rfl⟩⟩
    rw [faults]
    rfl
  · cases found

end Linting.Config
