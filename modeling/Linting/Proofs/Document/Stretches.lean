import Linting.Proofs.Document.Lines

/-! Stretches of a text, each given by what stands in front of it. As long as the text is short
enough for words of 32 bits, one that starts further on is located further on. -/

namespace Linting
open Text

theorem byteLength_le (cs : List Char) : byteLength cs ≤ 4 * cs.length := by
  induction cs with
  | nil => exact Nat.le_refl _
  | cons c cs ih =>
    have width := c.utf8Size_le_four
    rw [byteLength_cons, List.length_cons]
    omega

theorem byteLength_lt_wordLimit {cs : List Char} (h : cs.length < 0xFFFFFFFF) :
    byteLength cs < wordLimit := by
  have bound := byteLength_le cs
  rw [wordLimit]
  omega

namespace Location

/-- Whether a place comes before another: on an earlier line, or further left on the same one. -/
def IsBefore (a b : Location) : Prop := a.line < b.line ∨ a.line = b.line ∧ a.column < b.column

/-- The location of a stretch that `pre` stands in front of. -/
def ofStretch (pre mid : List Char) : Location :=
  ⟨(pre.count '\n').toUInt32 + 1, ((lastLine pre).length + 1).toUInt32, mid.length.toUInt32⟩

theorem ofStretch_line {pre : List Char} (h : pre.length < 0xFFFFFFFF) (mid : List Char) :
    (ofStretch pre mid).line.toNat = pre.count '\n' + 1 := by
  have lines : pre.count '\n' ≤ pre.length := List.count_le_length
  exact toNat_toUInt32_add_one (by omega)

theorem ofStretch_column {pre : List Char} (h : pre.length < 0xFFFFFFFF) (mid : List Char) :
    (ofStretch pre mid).column.toNat = (lastLine pre).length + 1 := by
  have column : (lastLine pre).length ≤ pre.length := length_lastLine_le pre
  exact toNat_toUInt32 (by omega)

/-- A location tells where a stretch starts and how many characters it has, in plain numbers. -/
structure Tells (loc : Location) (pre mid : List Char) : Prop where
  line : loc.line.toNat = pre.count '\n' + 1
  column : loc.column.toNat = (lastLine pre).length + 1
  length : loc.length.toNat = mid.length

theorem ofStretch_tells {cs pre mid : List Char} (h : pre ++ mid <+: cs)
    (hlen : cs.length < 0xFFFFFFFF) : (ofStretch pre mid).Tells pre mid := by
  have lengths := h.length_le
  rw [List.length_append] at lengths
  exact ⟨ofStretch_line (by omega) mid, ofStretch_column (by omega) mid,
    toNat_toUInt32 (by omega)⟩

/-- Two cases: what stands between the starts of two stretches holds a newline, or it lengthens the
line that the first one starts on. -/
theorem ofStretch_isBefore {p q : List Char} (h : p <+: q) (hlt : p.length < q.length)
    (hq : q.length < 0xFFFFFFFF) (m n : List Char) :
    (ofStretch p m).IsBefore (ofStretch q n) := by
  have hp : p.length < 0xFFFFFFFF := Nat.lt_trans hlt hq
  obtain ⟨more, rfl⟩ := h
  have lines : (p ++ more).count '\n' = p.count '\n' + more.count '\n' := List.count_append
  by_cases hmore : '\n' ∈ more
  · refine .inl (UInt32.lt_iff_toNat_lt.mpr ?_)
    have positive := List.count_pos_iff.mpr hmore
    rw [ofStretch_line hp, ofStretch_line hq]
    omega
  · refine .inr ⟨UInt32.toNat_inj.mp ?_, UInt32.lt_iff_toNat_lt.mpr ?_⟩
    · rw [ofStretch_line hp, ofStretch_line hq, lines, List.count_eq_zero.mpr hmore, Nat.add_zero]
    · rw [ofStretch_column hp, ofStretch_column hq, lastLine_append_of_not_mem p hmore]
      simp only [List.length_append] at hlt ⊢
      omega

end Location

theorem Document.locationOf_stretch (path : Path) {cs pre mid : List Char}
    (h : pre ++ mid <+: cs) (hlen : cs.length < 0xFFFFFFFF) :
    (ofChars path cs).locationOf (byteLength pre) (byteLength mid) =
      some (.ofStretch pre mid) := by
  obtain ⟨post, rfl⟩ := h
  have word := byteLength_lt_wordLimit hlen
  simp only [byteLength_append] at word
  refine locationOf_ofChars path rfl (by omega) ?_ ?_ <;>
    simp only [byteLength_append] <;> omega

/-- Whatever has a location is a stretch of the text. -/
theorem Document.exists_stretch_of_locationOf {path : Path} {cs : List Char}
    {offset byteLen : Nat} {loc : Location}
    (h : (ofChars path cs).locationOf offset byteLen = some loc) :
    ∃ pre mid post, cs = pre ++ mid ++ post ∧ byteLength pre = min offset (byteLength cs) ∧
      byteLength (pre ++ mid) = min (min offset (byteLength cs) + byteLen) (byteLength cs) ∧
      loc = .ofStretch pre mid := by
  have opened := h
  rw [locationOf, size_ofChars, contents_ofChars] at opened
  simp only [Option.bind_eq_bind, Option.bind_eq_some_iff] at opened
  obtain ⟨_, _, _, _, opened⟩ := opened
  split at opened
  · rename_i word
    obtain ⟨mid, hmid, -⟩ := Option.bind_eq_some_iff.mp opened
    obtain ⟨pre, post, hcs, hpre, hend⟩ := sliceBytes_eq_some_iff.mp hmid
    have located := locationOf_ofChars path hcs word hpre hend
    exact ⟨pre, mid, post, hcs, hpre, hend, Option.some.inj (h.symm.trans located)⟩
  · cases opened

/-- What is located behind a part of the text is a stretch that this part stands in front of. -/
theorem Document.exists_mid_of_locationOf {path : Path} {pre rest : List Char} {byteLen : Nat}
    {loc : Location}
    (h : (ofChars path (pre ++ rest)).locationOf (byteLength pre) byteLen = some loc) :
    ∃ mid, loc = .ofStretch pre mid := by
  obtain ⟨front, mid, post, hcs, hfront, -, rfl⟩ := exists_stretch_of_locationOf h
  have within : byteLength pre ≤ byteLength (pre ++ rest) := by simp
  rw [Nat.min_eq_left within] at hfront
  have same : some front = some pre := by
    rw [← takeBytes_append front (mid ++ post), ← takeBytes_append pre rest, hfront, hcs,
      List.append_assoc]
  exact ⟨mid, by rw [Option.some.inj same]⟩

end Linting
