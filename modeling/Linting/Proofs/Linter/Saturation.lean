import Linting.Proofs.Document.Boundaries
import Linting.Proofs.Linter.LineEnds

/-! Numbers of lines, columns and characters as words of 32 bits. A document lets them wrap around,
while linters of lines saturate the numbers that they count themselves. The two come to the same in
texts that are short enough for such words, and in no other. -/

namespace Linting
open Text

theorem toUInt32_add_one (n : Nat) : n.toUInt32 + 1 = (n + 1).toUInt32 :=
  (UInt32.ofNat_add n 1).symm

/-- The first number that does not fit wraps around to zero. -/
theorem Builtin.toUInt32_ne_saturate : (0x100000000).toUInt32 ≠ saturate 0x100000000 := by
  decide

/-- A text whose lines, columns and characters can all be counted in words of 32 bits. The longest
ones must not be made of newlines only, nor without one. -/
def FitsWords (cs : List Char) : Prop :=
  cs.length < 0xFFFFFFFF ∨ cs.length = 0xFFFFFFFF ∧ '\n' ∈ cs ∧ ∃ c ∈ cs, c ≠ '\n'

theorem count_newline_lt_of_mem {cs : List Char} {c : Char} (hc : c ∈ cs) (hne : c ≠ '\n') :
    cs.count '\n' < cs.length := by
  refine Nat.lt_of_le_of_ne List.count_le_length fun all => hne ?_
  exact (List.count_eq_length.mp all c hc).symm

theorem lastLine_of_not_mem {cs : List Char} (h : '\n' ∉ cs) : lastLine cs = cs :=
  lastLine_append_of_not_mem [] h

theorem length_lastLine_lt_of_mem {cs : List Char} (h : '\n' ∈ cs) :
    (lastLine cs).length < cs.length := by
  obtain ⟨as, bs, rfl⟩ := List.append_of_mem h
  have newline : '\n' ∈ '\n' :: bs := List.mem_cons_self
  have behind : lastLine ('\n' :: bs) = lastLine bs :=
    (show EndsLine ['\n'] from .inr rfl).lastLine_append bs
  have bound := length_lastLine_le bs
  rw [lastLine_append_of_mem as newline, behind]
  simp only [List.length_append, List.length_cons]
  omega

theorem FitsWords.count_newline_lt {cs pre : List Char} (h : FitsWords cs) (hpre : pre <+: cs) :
    pre.count '\n' < 0xFFFFFFFF := by
  have newlines : pre.count '\n' ≤ cs.count '\n' := hpre.sublist.count_le '\n'
  rcases h with short | ⟨length, -, c, hc, hne⟩
  · have bound : cs.count '\n' ≤ cs.length := List.count_le_length
    omega
  · have bound := count_newline_lt_of_mem hc hne
    omega

theorem FitsWords.length_lastLine_lt {cs pre : List Char} (h : FitsWords cs) (hpre : pre <+: cs) :
    (lastLine pre).length < 0xFFFFFFFF := by
  have column := length_lastLine_le pre
  have inside := hpre.length_le
  rcases h with short | ⟨length, newline, -⟩
  · omega
  · by_cases broken : '\n' ∈ pre
    · have bound := length_lastLine_lt_of_mem broken
      omega
    · -- what stands in front of a newline is not the whole text
      have apart : pre ≠ cs := fun same => broken (same ▸ newline)
      have shorter := Nat.lt_of_le_of_ne inside fun same => apart (hpre.eq_of_length same)
      omega

namespace Document

/-- How a document tells lines, columns and lengths: as the words that `word` makes of them. -/
structure CountsWith (d : Document) (word : Nat → UInt32) : Prop where
  located : ∀ {offset byteLen : Nat} {pre mid post : List Char}, d.contents = pre ++ mid ++ post →
    byteLength pre = min offset d.size →
    byteLength (pre ++ mid) = min (min offset d.size + byteLen) d.size →
    min offset d.size + byteLen < wordLimit →
    d.locationOf offset byteLen = some ⟨word (pre.count '\n' + 1),
      word ((lastLine pre).length + 1), word mid.length⟩
  numbered : ∀ {i : Nat} {n : UInt32} {line : List Char}, d.lines[i]? = some (n, line) →
    n = word (i + 1)

variable {cs pre mid : List Char}

/-- Numbers wrap around, however long the text is. -/
theorem countsWith_toUInt32 (path : Path) (cs : List Char) :
    (ofChars path cs).CountsWith Nat.toUInt32 where
  located {offset byteLen pre mid post} text start stop word := by
    rw [contents_ofChars] at text
    rw [size_ofChars] at start stop word
    rw [locationOf_ofChars path text word start stop, toUInt32_add_one]
  numbered {i n line} h := by
    rw [getElem?_lines, Option.map_eq_some_iff] at h
    obtain ⟨_, -, same⟩ := h
    cases same
    exact toUInt32_add_one i

theorem countsWith_saturate (path : Path) (h : FitsWords cs) :
    (ofChars path cs).CountsWith Builtin.saturate where
  located {offset byteLen pre mid post} text start stop word := by
    have wrapped := (countsWith_toUInt32 path cs).located text start stop word
    rw [contents_ofChars] at text
    have front : pre <+: cs := ⟨mid ++ post, by rw [text, List.append_assoc]⟩
    have newlines := h.count_newline_lt front
    have column := h.length_lastLine_lt front
    have length : mid.length ≤ 0xFFFFFFFF := by
      have parts := congrArg List.length text
      simp only [List.length_append] at parts
      rcases h with short | ⟨long, -⟩ <;> omega
    rw [wrapped, Builtin.saturate_eq newlines, Builtin.saturate_eq column,
      Builtin.saturate_eq length]
  numbered {i n line} hline := by
    rw [(countsWith_toUInt32 path cs).numbered hline, Builtin.saturate_eq]
    have newlines := h.count_newline_lt List.prefix_rfl
    have lines := length_splitLines_le [] cs
    rw [getElem?_lines, Option.map_eq_some_iff] at hline
    obtain ⟨_, entry, -⟩ := hline
    obtain ⟨inside, -⟩ := List.getElem?_eq_some_iff.mp entry
    omega

/-- If numbers are told in two ways, these agree on the numbers of every stretch. -/
theorem CountsWith.words_eq {path : Path} {word other : Nat → UInt32}
    (h : (ofChars path cs).CountsWith word) (h' : (ofChars path cs).CountsWith other)
    (inside : pre ++ mid <+: cs) (fits : byteLength (pre ++ mid) < wordLimit) :
    word (pre.count '\n' + 1) = other (pre.count '\n' + 1) ∧
      word ((lastLine pre).length + 1) = other ((lastLine pre).length + 1) ∧
      word mid.length = other mid.length := by
  obtain ⟨post, rfl⟩ := inside
  rw [byteLength_append] at fits
  have start : byteLength pre = min (byteLength pre) (byteLength (pre ++ mid ++ post)) := by
    simp only [byteLength_append]
    omega
  have stop : byteLength (pre ++ mid) =
      min (min (byteLength pre) (byteLength (pre ++ mid ++ post)) + byteLength mid)
        (byteLength (pre ++ mid ++ post)) := by
    simp only [byteLength_append]
    omega
  have sum : min (byteLength pre) (byteLength (pre ++ mid ++ post)) + byteLength mid <
      wordLimit := by omega
  have same := (h.located rfl start stop sum).symm.trans (h'.located rfl start stop sum)
  simpa using same

/-- The first number that does not fit would be told as zero. -/
theorem fitsWords_of_countsWith_saturate {path : Path}
    (h : (ofChars path cs).CountsWith Builtin.saturate) : FitsWords cs := by
  have agree (pre mid : List Char) (inside : pre ++ mid <+: cs)
      (fits : byteLength (pre ++ mid) < wordLimit) :=
    (countsWith_toUInt32 path cs).words_eq h inside fits
  have length : cs.length ≤ 0xFFFFFFFF := by
    by_contra long
    have stretch : (cs.take 0x100000000).length = 0x100000000 := by
      rw [List.length_take]
      omega
    have bytes := byteLength_le (cs.take 0x100000000)
    have words := (agree [] (cs.take 0x100000000) (List.take_prefix _ _)
      (by rw [List.nil_append, wordLimit]; omega)).2.2
    rw [stretch] at words
    exact Builtin.toUInt32_ne_saturate words
  have bytes := byteLength_le cs
  obtain ⟨line, column, -⟩ := agree cs [] (by rw [List.append_nil])
    (by rw [List.append_nil, wordLimit]; omega)
  have newlines : cs.count '\n' ≠ 0xFFFFFFFF := fun count =>
    Builtin.toUInt32_ne_saturate (by rwa [count] at line)
  have characters : (lastLine cs).length ≠ 0xFFFFFFFF := fun count =>
    Builtin.toUInt32_ne_saturate (by rwa [count] at column)
  rcases Nat.lt_or_eq_of_le length with short | long
  · exact .inl short
  · refine .inr ⟨long, ?_, ?_⟩
    · by_contra unbroken
      exact characters ((congrArg List.length (lastLine_of_not_mem unbroken)).trans long)
    · by_contra none
      refine newlines ((List.count_eq_length.mpr fun c hc => ?_).trans long)
      by_contra other
      exact none ⟨c, hc, Ne.symm other⟩

/-- Lines, columns and lengths are told modulo the number of words. They are told as the exact
numbers, or as the greatest word beyond it, for all places of a text exactly when the text fits. -/
theorem countsWith_saturate_iff (path : Path) (cs : List Char) :
    let d := ofChars path cs
    d.CountsWith Nat.toUInt32 ∧ (d.CountsWith Builtin.saturate ↔ FitsWords cs) :=
  ⟨countsWith_toUInt32 path cs, fitsWords_of_countsWith_saturate, countsWith_saturate path⟩

theorem locationOf_end (path : Path) (h : byteLength cs < wordLimit) :
    (ofChars path cs).locationOf (byteLength cs) 0 =
      some ⟨(cs.count '\n' + 1).toUInt32, ((lastLine cs).length + 1).toUInt32, 0⟩ := by
  have text : cs = cs ++ [] ++ [] := by simp
  exact (countsWith_toUInt32 path cs).located text (by simp) (by simp) (by simpa using h)

theorem byteLength_replicate (n : Nat) (c : Char) :
    byteLength (List.replicate n c) = n * c.utf8Size := by
  induction n with
  | zero => rw [List.replicate_zero, byteLength_nil, Nat.zero_mul]
  | succ n ih => rw [List.replicate_succ, byteLength_cons, ih, Nat.succ_mul, Nat.add_comm]

theorem locationOf_behind_newlines (path : Path) {n : Nat} (h : n < wordLimit) :
    (ofChars path (List.replicate n '\n')).locationOf n 0 = some ⟨(n + 1).toUInt32, 1, 0⟩ := by
  have bytes : byteLength (List.replicate n '\n') = n := by
    rw [byteLength_replicate]
    exact Nat.mul_one n
  have ended : EndsLine (List.replicate n '\n') := by
    rw [EndsLine, List.getLast?_replicate, List.replicate_eq_nil_iff]
    exact (Nat.eq_zero_or_pos n).imp_right fun positive => if_neg (Nat.ne_of_gt positive)
  have nothing : lastLine (List.replicate n '\n') = [] := by
    have behind := ended.lastLine_append []
    rwa [List.append_nil] at behind
  have located := locationOf_end path (bytes.symm ▸ h)
  rw [bytes, nothing, List.count_replicate_self] at located
  exact located

theorem locationOf_behind_letters (path : Path) {n : Nat} (h : n < wordLimit) :
    (ofChars path (List.replicate n 'a')).locationOf n 0 = some ⟨1, (n + 1).toUInt32, 0⟩ := by
  have bytes : byteLength (List.replicate n 'a') = n := by
    rw [byteLength_replicate]
    exact Nat.mul_one n
  have unbroken : '\n' ∉ List.replicate n 'a' := fun newline =>
    absurd (List.eq_of_mem_replicate newline) (by decide)
  have located := locationOf_end path (bytes.symm ▸ h)
  rw [bytes, lastLine_of_not_mem unbroken, List.count_eq_zero.mpr unbroken,
    List.length_replicate] at located
  exact located

/-- Behind so many newlines the line is told as zero, and behind so many letters the column. Where
the far end of a stretch is no word, there is no location to tell. -/
theorem locationOf_outgrows_words :
    let path := Path.ofString "a.scss"
    (ofChars path (List.replicate 0xFFFFFFFF '\n')).locationOf 0xFFFFFFFF 0 = some ⟨0, 1, 0⟩ ∧
    (ofChars path (List.replicate 0xFFFFFFFF 'a')).locationOf 0xFFFFFFFF 0 = some ⟨1, 0, 0⟩ ∧
    (ofChars path "a\nbé".toList).locationOf 2 0xFFFFFFFFFFFFFFFF = none := by
  intro path
  have wraps : (0xFFFFFFFF + 1).toUInt32 = 0 := by decide
  have word : 0xFFFFFFFF < wordLimit := by decide
  refine ⟨?_, ?_, Option.eq_none_iff_forall_ne_some.mpr ?_⟩
  · rw [locationOf_behind_newlines path word, wraps]
  · rw [locationOf_behind_letters path word, wraps]
  · exact fun _ located => absurd (lt_wordLimit_of_locationOf located) (by decide)

end Document

end Linting
