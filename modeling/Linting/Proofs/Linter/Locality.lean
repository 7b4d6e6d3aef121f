import Linting.Proofs.Linter.Order

/-! Linting a text in parts. Behind a whole number of lines a builtin linter reports of the rest of
a text what it reports of that rest alone, that many lines further down. -/

namespace Linting
open Text

/-- The lint on a line further down. -/
def Lint.moveDown (lines : Nat) (l : Lint) : Lint :=
  { l with location := { l.location with line := l.location.line + lines.toUInt32 } }

theorem Lint.moveDown_line {l : Lint} {lines : Nat}
    (h : l.location.line.toNat + lines ≤ 0xFFFFFFFF) :
    (l.moveDown lines).location.line.toNat = l.location.line.toNat + lines := by
  rw [moveDown, UInt32.toNat_add, toNat_toUInt32 (by omega)]
  exact Nat.mod_eq_of_lt (Nat.lt_succ_of_le h)

/-- Numbers of lines wrap around together, so they may be added up as words. -/
theorem toUInt32_add_add_one (m n : Nat) :
    (m + n).toUInt32 + 1 = n.toUInt32 + 1 + m.toUInt32 := by
  have sum : (m + n).toUInt32 = m.toUInt32 + n.toUInt32 := UInt32.ofNat_add m n
  rw [sum, UInt32.add_comm m.toUInt32, UInt32.add_assoc, UInt32.add_assoc, UInt32.add_comm 1]

theorem Location.ofStretch_append {as : List Char} (h : EndsLine as) (pre mid : List Char) :
    ofStretch (as ++ pre) mid =
      { ofStretch pre mid with
        line := (ofStretch pre mid).line + (as.count '\n').toUInt32 } := by
  rw [ofStretch, List.count_append, toUInt32_add_add_one, h.lastLine_append]
  rfl

namespace Stretch

/-- The stretch in a text that more stands in front of. -/
def behind (as : List Char) (s : Stretch) : Stretch := ⟨as ++ s.front, s.text⟩

theorem span_behind (as : List Char) (s : Stretch) :
    (s.behind as).span = Prod.map (byteLength as + ·) id s.span := by
  rw [span, behind, byteLength_append]
  rfl

theorem IsIn.behind {s : Stretch} {cs : List Char} (h : s.IsIn cs) (as : List Char) :
    (s.behind as).IsIn (as ++ cs) := by
  rw [IsIn, Stretch.behind, List.append_assoc]
  exact (List.prefix_append_right_inj as).mpr h

theorem location_behind {as : List Char} (h : EndsLine as) (s : Stretch) :
    (s.behind as).location =
      { s.location with line := s.location.line + (as.count '\n').toUInt32 } :=
  Location.ofStretch_append h s.front s.text

end Stretch

theorem Document.lines_append (path : Path) {as : List Char} (h : EndsLine as) (bs : List Char) :
    (ofChars path (as ++ bs)).lines = (ofChars path as).lines ++
      (ofChars path bs).lines.map (Prod.map (· + (as.count '\n').toUInt32) id) := by
  have later := List.zipIdx_eq_map_add (l := splitLines [] bs) (i := as.count '\n')
  rw [lines_ofChars, lines_ofChars, lines_ofChars, h.splitLines_append, List.zipIdx_append,
    List.map_append, Nat.zero_add, h.length_splitLines, later, List.map_map, List.map_map]
  congr 2
  funext entry
  exact congrArg (·, entry.1) (toUInt32_add_add_one _ _)

namespace Builtin

theorem lintLines_append (name : LinterName) (path : Path) {as : List Char} (h : EndsLine as)
    (bs : List Char) (find : List Char → Option (UInt32 × UInt32 × String)) :
    lintLines (.ofChars path (as ++ bs)) name find =
      lintLines (.ofChars path as) name find ++
        (lintLines (.ofChars path bs) name find).map (Lint.moveDown (as.count '\n')) := by
  rw [lintLines, Document.lines_append path h, List.filterMap_append, List.filterMap_map]
  refine congrArg (lintLines (.ofChars path as) name find ++ ·) ?_
  rw [lintLines, List.map_filterMap]
  refine congrArg (List.filterMap · _) ?_
  funext entry
  cases entry
  rw [Option.map_map]
  rfl

/-- A word without a newline that starts in whole lines also ends in them. -/
theorem isPrefixOf_append {word as : List Char} (hword : '\n' ∉ word) (h : EndsLine as)
    (hne : as ≠ []) (bs : List Char) : word.isPrefixOf (as ++ bs) = word.isPrefixOf as := by
  rw [Bool.eq_iff_iff, List.isPrefixOf_iff_prefix, List.isPrefixOf_iff_prefix]
  constructor
  · intro hprefix
    rcases List.prefix_or_prefix_of_prefix hprefix (List.prefix_append as bs) with inside | beyond
    · exact inside
    · exact absurd (beyond.subset (h.newline_mem hne)) hword
  · exact fun hprefix => hprefix.trans (List.prefix_append as bs)

theorem occurrences_append {word as : List Char} (hword : '\n' ∉ word) (h : EndsLine as)
    (offset : Nat) {skip : Nat} (hskip : skip ≤ as.length) (bs : List Char) :
    occurrences word offset skip (as ++ bs) =
      occurrences word offset skip as ++ occurrences word (offset + byteLength as) 0 bs := by
  induction as generalizing offset skip with
  | nil =>
    obtain rfl := Nat.le_zero.mp hskip
    rfl
  | cons c as ih =>
    have next : offset + byteLength (c :: as) = offset + c.utf8Size + byteLength as := by
      rw [byteLength_cons, Nat.add_assoc]
    rw [next, List.cons_append]
    cases skip with
    | succ n => exact ih h.tail _ (Nat.le_of_succ_le_succ hskip)
    | zero =>
      have same := isPrefixOf_append hword h (List.cons_ne_nil c as) bs
      rw [List.cons_append] at same
      simp only [occurrences, same]
      split
      · rename_i hprefix
        -- what is skipped is the rest of the word, which lies in the whole lines
        have inside := (List.isPrefixOf_iff_prefix.mp hprefix).length_le
        rw [List.length_cons] at inside
        rw [ih h.tail _ (by omega), List.cons_append]
      · exact ih h.tail _ (Nat.zero_le _)

theorem occurrences_add (word : List Char) (front offset skip : Nat) (cs : List Char) :
    occurrences word (front + offset) skip cs =
      (occurrences word offset skip cs).map (front + ·) := by
  induction cs generalizing offset skip with
  | nil => rfl
  | cons c cs ih =>
    cases skip with
    | succ n => simp only [occurrences, Nat.add_assoc, ih]
    | zero =>
      simp only [occurrences, Nat.add_assoc, ih]
      split <;> rfl

end Builtin

/-- A linter that reports of a text behind whole lines what it reports of that text alone, further
down. -/
def LineLocal (linter : Linter) : Prop :=
  ∀ path as bs, EndsLine as → (as ++ bs).length < 0xFFFFFFFF →
    ∃ front rest, linter (.ofChars path as) = .reported front ∧
      linter (.ofChars path bs) = .reported rest ∧
      linter (.ofChars path (as ++ bs)) =
        .reported (front ++ rest.map (Lint.moveDown (as.count '\n')))

namespace Builtin

theorem trailingWhitespace_lineLocal (name : LinterName) :
    LineLocal (trailingWhitespace name) := by
  intro path as bs h _
  refine ⟨_, _, trailingWhitespace_eq_lintLines name _, trailingWhitespace_eq_lintLines name _, ?_⟩
  rw [trailingWhitespace_eq_lintLines, lintLines_append name path h]

theorem lineLength_lineLocal (max : Nat) (name : LinterName) :
    LineLocal (lineLength max name) := by
  intro path as bs h _
  refine ⟨_, _, lineLength_eq_lintLines max name _, lineLength_eq_lintLines max name _, ?_⟩
  rw [lineLength_eq_lintLines, lintLines_append name path h]

theorem finalNewline_lineLocal (name : LinterName) : LineLocal (finalNewline name) := by
  intro path as bs h hlen
  have hbs : bs.length < 0xFFFFFFFF := by
    rw [List.length_append] at hlen
    omega
  refine ⟨[], ?_⟩
  by_cases ended : EndsLine bs
  · exact ⟨[], finalNewline_of_endsLine name path h, finalNewline_of_endsLine name path ended,
      finalNewline_of_endsLine name path ((h.append_iff bs).mpr ended)⟩
  · refine ⟨_, finalNewline_of_endsLine name path h,
      finalNewline_of_not_endsLine name path hbs ended, ?_⟩
    rw [finalNewline_of_not_endsLine name path hlen (fun he => ended ((h.append_iff bs).mp he)),
      Location.ofStretch_append h]
    rfl

theorem importantRule_eq_reported (name : LinterName) (path : Path) {cs : List Char}
    (hlen : cs.length < 0xFFFFFFFF) {found : List Stretch}
    (hfound : (occurrences important 0 0 cs).map (fun offset => (offset, byteLength important)) =
      found.map Stretch.span) (h : ∀ s ∈ found, s.IsIn cs) :
    importantRule name (.ofChars path cs) = .reported (found.map fun s =>
      ⟨name, path, s.location, .warning, "!important should not be used"⟩) := by
  rw [importantRule, Document.contents_ofChars, hfound, lintSpans_eq_reported path name _ _ hlen h]

theorem occurrence_spans_append {as bs : List Char} (h : EndsLine as)
    {front rest : List Stretch}
    (hfront : (occurrences important 0 0 as).map (fun offset => (offset, byteLength important)) =
      front.map Stretch.span)
    (hrest : (occurrences important 0 0 bs).map (fun offset => (offset, byteLength important)) =
      rest.map Stretch.span) :
    (occurrences important 0 0 (as ++ bs)).map (fun offset => (offset, byteLength important)) =
      (front ++ rest.map (Stretch.behind as)).map Stretch.span := by
  have later : (occurrences important (byteLength as + 0) 0 bs).map
      (fun offset => (offset, byteLength important)) =
        (rest.map (Stretch.behind as)).map Stretch.span := by
    calc
      _ = ((occurrences important 0 0 bs).map (fun offset => (offset, byteLength important))).map
          (Prod.map (byteLength as + ·) id) := by
        rw [occurrences_add, List.map_map, List.map_map]
        rfl
      _ = (rest.map Stretch.span).map (Prod.map (byteLength as + ·) id) := by rw [hrest]
      _ = (rest.map (Stretch.behind as)).map Stretch.span := by
        rw [List.map_map, List.map_map]
        exact List.map_congr_left fun s _ => (Stretch.span_behind as s).symm
  rw [occurrences_append (by decide) h 0 (Nat.zero_le _), Nat.zero_add, List.map_append, hfront,
    List.map_append]
  exact congrArg (front.map Stretch.span ++ ·) later

theorem importantRule_lineLocal (name : LinterName) : LineLocal (importantRule name) := by
  intro path as bs h hlen
  have lengths := hlen
  rw [List.length_append] at lengths
  obtain ⟨front, hfront, _, first⟩ := exists_occurrence_spans important as
  obtain ⟨rest, hrest, _, second⟩ := exists_occurrence_spans important bs
  have inside : ∀ s ∈ front ++ rest.map (Stretch.behind as), s.IsIn (as ++ bs) := by
    intro s hs
    rcases List.mem_append.mp hs with hs | hs
    · exact (first.inside s hs).trans (List.prefix_append as bs)
    · obtain ⟨t, ht, rfl⟩ := List.mem_map.mp hs
      exact (second.inside t ht).behind as
  refine ⟨_, _, importantRule_eq_reported name path (by omega) hfront first.inside,
    importantRule_eq_reported name path (by omega) hrest second.inside, ?_⟩
  rw [importantRule_eq_reported name path hlen (occurrence_spans_append h hfront hrest) inside,
    List.map_append, List.map_map, List.map_map]
  congr 2
  refine List.map_congr_left fun s _ => ?_
  simp only [Function.comp_apply, Lint.moveDown, Stretch.location_behind h]

/-- A builtin linter reports of whole lines and a text behind them what it reports of both parts,
the lints of the second being as many lines further down as there are in the first. -/
theorem entries_lint_append (name : LinterName) (path : Path) {maxLineLength : Nat} {e : Entry}
    (he : e ∈ entries maxLineLength) {as bs : List Char} (h : EndsLine as)
    (hlen : (as ++ bs).length < 0xFFFFFFFF) :
    ∃ front rest, e.make name (.ofChars path as) = .reported front ∧
      e.make name (.ofChars path bs) = .reported rest ∧
      e.make name (.ofChars path (as ++ bs)) =
        .reported (front ++ rest.map (Lint.moveDown (as.count '\n'))) ∧
      ∀ l ∈ rest, (l.moveDown (as.count '\n')).location.line.toNat =
        l.location.line.toNat + as.count '\n' := by
  have lineLocal : LineLocal (e.make name) := by
    simp only [entries, List.mem_cons, List.not_mem_nil, or_false] at he
    rcases he with rfl | rfl | rfl | rfl
    · exact trailingWhitespace_lineLocal name
    · exact finalNewline_lineLocal name
    · exact lineLength_lineLocal maxLineLength name
    · exact importantRule_lineLocal name
  have lengths := hlen
  rw [List.length_append] at lengths
  obtain ⟨front, rest, hfront, hrest, hall⟩ := lineLocal path as bs h hlen
  obtain ⟨lints, hlints, inOrder⟩ := entries_orderly he name path bs (by omega)
  cases hrest.symm.trans hlints
  refine ⟨front, rest, hfront, hrest, hall, ?_⟩
  intro l hl
  have lines : as.count '\n' ≤ as.length := List.count_le_length
  have linesBehind : bs.count '\n' ≤ bs.length := List.count_le_length
  have placed := inOrder.line l hl
  exact Lint.moveDown_line (by omega)

/-- A line that is ended by two characters, in front of one that is too long and not ended. -/
theorem entries_lint_append_long_line :
    let linter := lineLength 3 ⟨"LineLength", by decide +kernel⟩
    let path := Path.ofString "a.scss"
    EndsLine "é\r\n".toList ∧ ("é\r\n".toList ++ "abcd".toList).length < 0xFFFFFFFF ∧
    ∃ front l, linter (.ofChars path "é\r\n".toList) = .reported front ∧
      linter (.ofChars path "abcd".toList) = .reported [l] ∧
      linter (.ofChars path ("é\r\n".toList ++ "abcd".toList)) =
        .reported (front ++ [l.moveDown 1]) ∧
      l.location = ⟨1, 4, 1⟩ ∧ (l.moveDown 1).location.line.toNat = 2 := by
  have entry : ⟨"LineLength", _, lineLength 3⟩ ∈ entries 3 :=
    List.mem_of_getElem? (i := 2) rfl
  have ended : EndsLine "é\r\n".toList := .inr (by decide)
  have short : ("é\r\n".toList ++ "abcd".toList).length < 0xFFFFFFFF := by decide
  obtain ⟨front, rest, hfront, hrest, hall, hlines⟩ := entries_lint_append
    ⟨"LineLength", by decide +kernel⟩ (Path.ofString "a.scss") entry ended short
  cases hrest
  exact ⟨ended, short, front, _, hfront, rfl, hall, rfl, hlines _ (List.mem_singleton.mpr rfl)⟩

end Builtin

end Linting
