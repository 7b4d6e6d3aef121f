import Linting.Proofs.Linter.Spans

/-! The order in which a linter reports. Every kind of linter that can be registered goes through
its text from the start to the end, so each of its lints is placed before the next. -/

namespace Linting
open Text

/-- What a linter reports of a text: lints under its name and for its file, on lines of the text,
each placed before the next. -/
structure InOrder (name : LinterName) (path : Path) (cs : List Char) (lints : List Lint) :
    Prop where
  linter : ∀ l ∈ lints, l.linter = name
  file : ∀ l ∈ lints, l.file = path
  line : ∀ l ∈ lints, l.location.line.toNat ≤ cs.count '\n' + 1
  ordered : lints.Pairwise fun k l => k.location.IsBefore l.location

/-- A kind of linter that reports in order, whatever the text. -/
def Orderly (make : LinterName → Linter) : Prop :=
  ∀ name path cs, cs.length < 0xFFFFFFFF →
    ∃ lints, make name (.ofChars path cs) = .reported lints ∧ InOrder name path cs lints

namespace Document

theorem lines_ofChars (path : Path) (cs : List Char) :
    (ofChars path cs).lines =
      (splitLines [] cs).zipIdx.map fun (line, i) => (i.toUInt32 + 1, line) := rfl

theorem number_of_mem_zipIdx {cs line : List Char} {i : Nat} (hlen : cs.length < 0xFFFFFFFF)
    (h : (line, i) ∈ (splitLines [] cs).zipIdx) :
    (i.toUInt32 + 1).toNat = i + 1 ∧ i ≤ cs.count '\n' := by
  have bound := (List.mem_zipIdx h).2.1
  have lines := length_splitLines_le [] cs
  have newlines : cs.count '\n' ≤ cs.length := List.count_le_length
  exact ⟨toNat_toUInt32_add_one (by omega), by omega⟩

theorem lines_pairwise (path : Path) {cs : List Char} (hlen : cs.length < 0xFFFFFFFF) :
    (ofChars path cs).lines.Pairwise fun k l => k.1 < l.1 := by
  have ascending : (splitLines [] cs).zipIdx.Pairwise fun k l => k.2 < l.2 := by
    rw [← List.pairwise_map (f := Prod.snd), List.zipIdx_map_snd]
    exact List.pairwise_lt_range'
  rw [lines_ofChars, List.pairwise_map]
  refine ascending.imp_of_mem ?_
  rintro ⟨k, i⟩ ⟨l, j⟩ hk hl hij
  rw [UInt32.lt_iff_toNat_lt, (number_of_mem_zipIdx hlen hk).1, (number_of_mem_zipIdx hlen hl).1]
  exact Nat.succ_lt_succ hij

theorem line_le_of_mem_lines (path : Path) {cs line : List Char} {number : UInt32}
    (hlen : cs.length < 0xFFFFFFFF) (h : (number, line) ∈ (ofChars path cs).lines) :
    number.toNat ≤ cs.count '\n' + 1 := by
  obtain ⟨⟨l, i⟩, hmem, heq⟩ := List.mem_map.mp (lines_ofChars path cs ▸ h)
  cases heq
  obtain ⟨number, bound⟩ := number_of_mem_zipIdx hlen hmem
  omega

end Document

namespace Builtin

/-- The lints of a linter that looks at each line by itself; what it finds in one is a column, a
length and a message. -/
def lintLines (d : Document) (name : LinterName)
    (find : List Char → Option (UInt32 × UInt32 × String)) : List Lint :=
  d.lines.filterMap fun (number, line) => (find line).map fun (column, length, message) =>
    d.lint name ⟨number, column, length⟩ .warning message

/-- The blanks at the end of a line. -/
def findBlanks (line : List Char) : Option (UInt32 × UInt32 × String) :=
  let trimmed := trimEnd line
  if byteLength trimmed = byteLength line then none
  else some (saturate (trimmed.length + 1), saturate (byteLength line - byteLength trimmed),
    "Line contains trailing whitespace")

/-- What exceeds the length of lines that is allowed. -/
def findExcess (max : Nat) (line : List Char) : Option (UInt32 × UInt32 × String) :=
  if line.length ≤ max then none
  else some (saturate (max + 1), saturate (line.length - max), tooLongMessage max line.length)

theorem trailingWhitespace_eq_lintLines (name : LinterName) (d : Document) :
    trailingWhitespace name d = .reported (lintLines d name findBlanks) := by
  unfold trailingWhitespace lintLines findBlanks
  congr 2
  funext ⟨number, line⟩
  dsimp only
  split <;> rfl

theorem lineLength_eq_lintLines (max : Nat) (name : LinterName) (d : Document) :
    lineLength max name d = .reported (lintLines d name (findExcess max)) := by
  unfold lineLength lintLines findExcess
  congr 2
  funext ⟨number, line⟩
  dsimp only
  split <;> rfl

theorem mem_lintLines {d : Document} {name : LinterName}
    {find : List Char → Option (UInt32 × UInt32 × String)} {l : Lint} :
    l ∈ lintLines d name find ↔
      ∃ number line, (number, line) ∈ d.lines ∧ ∃ column length message,
        find line = some (column, length, message) ∧
        d.lint name ⟨number, column, length⟩ .warning message = l := by
  simp [lintLines]

theorem lintLines_ascending (name : LinterName) (path : Path) {cs : List Char}
    (hlen : cs.length < 0xFFFFFFFF) (find : List Char → Option (UInt32 × UInt32 × String)) :
    (lintLines (.ofChars path cs) name find).Pairwise
      fun k l => k.location.line < l.location.line := by
  refine (Document.lines_pairwise path hlen).filterMap _ ?_
  rintro ⟨i, line⟩ ⟨j, other⟩ hij k hk l hl
  obtain ⟨_, _, rfl⟩ := Option.map_eq_some_iff.mp hk
  obtain ⟨_, _, rfl⟩ := Option.map_eq_some_iff.mp hl
  exact hij

theorem lintLines_inOrder (name : LinterName) (path : Path) {cs : List Char}
    (hlen : cs.length < 0xFFFFFFFF) (find : List Char → Option (UInt32 × UInt32 × String)) :
    InOrder name path cs (lintLines (.ofChars path cs) name find) where
  linter l hl := by
    obtain ⟨_, _, _, _, _, _, _, rfl⟩ := mem_lintLines.mp hl
    rfl
  file l hl := by
    obtain ⟨_, _, _, _, _, _, _, rfl⟩ := mem_lintLines.mp hl
    rfl
  line l hl := by
    obtain ⟨_, _, hline, _, _, _, _, rfl⟩ := mem_lintLines.mp hl
    exact Document.line_le_of_mem_lines path hlen hline
  ordered := (lintLines_ascending name path hlen find).imp .inl

theorem trailingWhitespace_orderly : Orderly trailingWhitespace := fun name path _ hlen =>
  ⟨_, trailingWhitespace_eq_lintLines name _, lintLines_inOrder name path hlen findBlanks⟩

theorem lineLength_orderly (max : Nat) : Orderly (lineLength max) := fun name path _ hlen =>
  ⟨_, lineLength_eq_lintLines max name _, lintLines_inOrder name path hlen (findExcess max)⟩

theorem inOrder_of_found (name : LinterName) (path : Path) (severity : Severity)
    (message : String) {cs : List Char} (hlen : cs.length < 0xFFFFFFFF) {found : List Stretch}
    (h : Stretch.Found [] cs found) :
    InOrder name path cs (found.map fun s => ⟨name, path, s.location, severity, message⟩) := by
  have short : ∀ s ∈ found, s.front <+: cs := fun s hs =>
    (List.prefix_append _ _).trans (h.inside s hs)
  have lengths : ∀ s ∈ found, s.front.length < 0xFFFFFFFF := fun s hs =>
    Nat.lt_of_le_of_lt (short s hs).length_le hlen
  refine ⟨by simp, by simp, ?_, ?_⟩
  · intro l hl
    obtain ⟨s, hs, rfl⟩ := List.mem_map.mp hl
    have lines : s.front.count '\n' ≤ cs.count '\n' := (short s hs).sublist.count_le _
    have line := Location.ofStretch_line (lengths s hs) s.text
    exact Nat.le_trans (Nat.le_of_eq line) (Nat.succ_le_succ lines)
  · rw [List.pairwise_map]
    refine h.ordered.imp_of_mem ?_
    intro s t _ ht hst
    exact Location.ofStretch_isBefore hst.1 hst.2 (lengths t ht) _ _

theorem lintSpans_inOrder (name : LinterName) (path : Path) (severity : Severity)
    (message : String) {cs : List Char} (hlen : cs.length < 0xFFFFFFFF) {found : List Stretch}
    (h : Stretch.Found [] cs found) :
    ∃ lints, lintSpans (.ofChars path cs) name severity message (found.map Stretch.span) =
      .reported lints ∧ InOrder name path cs lints :=
  ⟨_, lintSpans_eq_reported path name severity message hlen h.inside,
    inOrder_of_found name path severity message hlen h⟩

theorem finalNewline_of_endsLine (name : LinterName) (path : Path) {cs : List Char}
    (h : EndsLine cs) : finalNewline name (.ofChars path cs) = .reported [] := by
  have ended : cs.isEmpty || cs.getLast? = some '\n' := by
    rcases h with rfl | h
    · rfl
    · simp [h]
  exact if_pos ended

theorem finalNewline_of_not_endsLine (name : LinterName) (path : Path) {cs : List Char}
    (hlen : cs.length < 0xFFFFFFFF) (h : ¬EndsLine cs) :
    finalNewline name (.ofChars path cs) = .reported [⟨name, path, .ofStretch cs [], .warning,
      "Files should end with a trailing newline"⟩] := by
  have unended : ¬(cs.isEmpty || cs.getLast? = some '\n') := by
    simpa [EndsLine] using h
  have whole : cs ++ [] <+: cs := by simp
  have located := Document.locationOf_stretch path whole hlen
  refine (if_neg unended).trans ?_
  rw [Document.size_ofChars, ← byteLength_nil, located]
  rfl

theorem finalNewline_orderly : Orderly finalNewline := by
  intro name path cs hlen
  by_cases h : EndsLine cs
  · exact ⟨_, finalNewline_of_endsLine name path h,
      inOrder_of_found name path .warning "" hlen (.nil _ _)⟩
  · have whole : cs ++ [] <+: cs := by simp
    exact ⟨_, finalNewline_of_not_endsLine name path hlen h,
      inOrder_of_found name path _ _ hlen (.single List.nil_prefix whole)⟩

theorem exists_occurrence_spans (word cs : List Char) :
    ∃ found, (occurrences word 0 0 cs).map (fun offset => (offset, byteLength word)) =
        found.map Stretch.span ∧
      (∀ s ∈ found, s.text = word) ∧ Stretch.Found [] cs found := by
  obtain ⟨found, hfound, hword, h⟩ := exists_occurrences word [] cs 0
  refine ⟨found, ?_, hword, h⟩
  rw [byteLength_nil] at hfound
  rw [hfound, List.map_map]
  refine List.map_congr_left fun s hs => ?_
  rw [Function.comp_apply, Stretch.span, hword s hs]

theorem importantRule_orderly : Orderly importantRule := by
  intro name path cs hlen
  obtain ⟨found, hfound, _, h⟩ := exists_occurrence_spans important cs
  rw [importantRule, Document.contents_ofChars, hfound]
  exact lintSpans_inOrder name path _ _ hlen h

theorem entries_orderly {maxLineLength : Nat} {e : Entry} (he : e ∈ entries maxLineLength) :
    Orderly e.make := by
  simp only [entries, List.mem_cons, List.not_mem_nil, or_false] at he
  rcases he with rfl | rfl | rfl | rfl
  · exact trailingWhitespace_orderly
  · exact finalNewline_orderly
  · exact lineLength_orderly maxLineLength
  · exact importantRule_orderly

end Builtin

theorem PatternLinter.orderly (regex : Regex) (message : String) (severity : Severity) :
    Orderly fun name => (PatternLinter.mk name regex message severity).run := by
  intro name path cs hlen
  obtain ⟨found, hfound, h⟩ := Regex.exists_findAll regex.program cs
  exact ⟨_, (PatternLinter.mk name regex message severity).run_eq_reported path hlen hfound h.inside,
    Builtin.inOrder_of_found name path severity message hlen h⟩

end Linting
