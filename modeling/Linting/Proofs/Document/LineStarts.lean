import Linting.Proofs.Document.Boundaries
import Mathlib.Order.Bounds.Defs

/-! Where lines start, told by the bytes of a text. The index holds zero and the places behind
newlines, in ascending order, so a search in it ends at the last of them that is not beyond the
offset. -/

namespace Linting.Text

/-- The byte of a newline. -/
def newlineByte : UInt8 := 0x0A

theorem length_encode (cs : List Char) : (encode cs).length = byteLength cs := by
  induction cs with
  | nil => rfl
  | cons c cs ih =>
    rw [encode, List.flatMap_cons, List.length_append, String.length_utf8EncodeChar, ← encode, ih,
      byteLength_cons]

/-- The bytes of a character of several bytes are beyond those of characters of one byte. -/
theorem toNat_of_mem_utf8EncodeChar {b : UInt8} {c : Char} (h : b ∈ String.utf8EncodeChar c) :
    b.toNat = c.val.toNat ∨ 0x80 ≤ b.toNat := by
  have beyond {n : Nat} (low : 0x80 ≤ n) (high : n < 256) : 0x80 ≤ (UInt8.ofNat n).toNat := by
    rwa [UInt8.toNat_ofNat_of_lt' high]
  have bound := c.val.toNat_lt
  unfold String.utf8EncodeChar at h
  dsimp only at h
  split at h
  · obtain rfl := List.mem_singleton.mp h
    exact .inl (UInt8.toNat_ofNat_of_lt' (Nat.lt_of_le_of_lt ‹_› (by decide)))
  · refine .inr ?_
    split at h
    · rcases List.mem_pair.mp h with rfl | rfl <;> exact beyond (by omega) (by omega)
    · split at h <;> simp only [List.mem_cons, List.not_mem_nil, or_false] at h
      · rcases h with rfl | rfl | rfl <;> exact beyond (by omega) (by omega)
      · rcases h with rfl | rfl | rfl | rfl <;> exact beyond (by omega) (by omega)

theorem newlineByte_mem_utf8EncodeChar_iff {c : Char} :
    newlineByte ∈ String.utf8EncodeChar c ↔ c = '\n' := by
  constructor
  · intro h
    rcases toNat_of_mem_utf8EncodeChar h with code | beyond
    · exact Char.ext (UInt32.toNat_inj.mp code.symm)
    · exact absurd beyond (by decide)
  · rintro rfl
    decide

/-- The bytes of newlines stand where newlines do. -/
theorem getElem?_encode_eq_newlineByte_iff {cs : List Char} {i : Nat} :
    (encode cs)[i]? = some newlineByte ↔
      ∃ pre rest, cs = pre ++ '\n' :: rest ∧ byteLength pre = i := by
  constructor
  · intro h
    induction cs generalizing i with
    | nil => cases h
    | cons c cs ih =>
      rw [encode, List.flatMap_cons, List.getElem?_append, String.length_utf8EncodeChar] at h
      split at h
      · obtain rfl := newlineByte_mem_utf8EncodeChar_iff.mp (List.mem_of_getElem? h)
        obtain rfl : i = 0 := Nat.lt_one_iff.mp ‹_›
        exact ⟨[], cs, rfl, rfl⟩
      · obtain ⟨pre, rest, rfl, hpre⟩ := ih h
        refine ⟨c :: pre, rest, rfl, ?_⟩
        rw [byteLength_cons]
        omega
  · rintro ⟨pre, rest, rfl, rfl⟩
    rw [encode, List.flatMap_append, ← encode, List.getElem?_append_right (Nat.le_of_eq _),
      length_encode, Nat.sub_self]
    · rfl
    · exact length_encode pre

end Linting.Text

namespace Linting
open Text

theorem mem_offsetsAfterNewlines_iff {offset o : Nat} {cs : List Char} :
    o ∈ offsetsAfterNewlines offset cs ↔
      ∃ pre rest, cs = pre ++ '\n' :: rest ∧ o = offset + byteLength pre + 1 := by
  constructor
  · intro h
    induction cs generalizing offset with
    | nil => cases h
    | cons c cs ih =>
      simp only [offsetsAfterNewlines] at h
      have later : o ∈ offsetsAfterNewlines (offset + c.utf8Size) cs →
          ∃ pre rest, c :: cs = pre ++ '\n' :: rest ∧ o = offset + byteLength pre + 1 := by
        intro h
        obtain ⟨pre, rest, rfl, rfl⟩ := ih h
        exact ⟨c :: pre, rest, rfl, by rw [byteLength_cons, Nat.add_assoc offset]⟩
      split at h
      · rename_i newline
        subst newline
        rcases List.mem_cons.mp h with rfl | h
        · exact ⟨[], cs, rfl, rfl⟩
        · exact later h
      · exact later h
  · rintro ⟨pre, rest, rfl, rfl⟩
    rw [offsetsAfterNewlines_append]
    exact List.mem_append_right _ List.mem_cons_self

theorem lineOffsets_ascending (cs : List Char) : (lineOffsets cs).Pairwise (· < ·) := by
  have behind (offset : Nat) : (offsetsAfterNewlines offset cs).Pairwise (· < ·) := by
    induction cs generalizing offset with
    | nil => exact List.Pairwise.nil
    | cons c cs ih =>
      simp only [offsetsAfterNewlines]
      split
      · exact List.pairwise_cons.mpr ⟨fun o ho => (mem_offsetsAfterNewlines_bounds ho).1, ih _⟩
      · exact ih _
  exact List.pairwise_cons.mpr ⟨fun o ho => (mem_offsetsAfterNewlines_bounds ho).1, behind 0⟩

theorem isBoundary_of_mem_lineOffsets {cs : List Char} {o : Nat} (h : o ∈ lineOffsets cs) :
    IsBoundary cs o := by
  rcases List.mem_cons.mp h with rfl | h
  · exact ⟨[], List.nil_prefix, rfl⟩
  · obtain ⟨pre, rest, rfl, rfl⟩ := mem_offsetsAfterNewlines_iff.mp h
    refine ⟨pre ++ ['\n'], ⟨rest, by simp⟩, ?_⟩
    rw [byteLength_append, Nat.zero_add]
    rfl

/-- Ascending numbers fall into those that are not beyond a bound and those that are. -/
theorem exists_parts_of_ascending {offsets : List Nat} (h : offsets.Pairwise (· < ·))
    (bound : Nat) :
    ∃ low high, offsets = low ++ high ∧ (∀ o ∈ low, o ≤ bound) ∧ ∀ o ∈ high, bound < o := by
  induction offsets with
  | nil => exact ⟨[], [], rfl, by simp, by simp⟩
  | cons first offsets ih =>
    obtain ⟨above, rest⟩ := List.pairwise_cons.mp h
    by_cases within : first ≤ bound
    · obtain ⟨low, high, rfl, hlow, hhigh⟩ := ih rest
      exact ⟨first :: low, high, rfl, List.forall_mem_cons.mpr ⟨within, hlow⟩, hhigh⟩
    · have beyond : bound < first := Nat.not_le.mp within
      refine ⟨[], first :: offsets, rfl, by simp, List.forall_mem_cons.mpr ⟨beyond, ?_⟩⟩
      exact fun o ho => Nat.lt_trans beyond (above o ho)

/-- An index of the lines of a text: the places, in ascending order, where lines start. -/
structure IsLineIndex (cs : List Char) (offsets : List Nat) : Prop where
  ascending : offsets.Pairwise (· < ·)
  first : offsets.head? = some 0
  others : ∀ o, o ∈ offsets.tail ↔ ∃ i, (encode cs)[i]? = some newlineByte ∧ o = i + 1
  boundaries : ∀ o ∈ offsets, IsBoundary cs o ∧ o ≤ byteLength cs

theorem isLineIndex_lineOffsets (cs : List Char) : IsLineIndex cs (lineOffsets cs) where
  ascending := lineOffsets_ascending cs
  first := rfl
  others o := by
    simp only [lineOffsets, List.tail_cons, mem_offsetsAfterNewlines_iff,
      getElem?_encode_eq_newlineByte_iff, Nat.zero_add]
    constructor
    · rintro ⟨pre, rest, text, rfl⟩
      exact ⟨_, ⟨pre, rest, text, rfl⟩, rfl⟩
    · rintro ⟨_, ⟨pre, rest, text, rfl⟩, rfl⟩
      exact ⟨pre, rest, text, rfl⟩
  boundaries _ ho := ⟨isBoundary_of_mem_lineOffsets ho, le_byteLength_of_mem_lineOffsets ho⟩

/-- Behind the last start of a line that is not beyond an offset no newline stands in front of the
offset. -/
theorem IsLineIndex.newlineByte_not_between {cs : List Char} {offsets : List Nat}
    (h : IsLineIndex cs offsets) {offset start : Nat}
    (greatest : IsGreatest {o | o ∈ offsets ∧ o ≤ offset} start) {i : Nat} (hi : start ≤ i)
    (hoffset : i < offset) : (encode cs)[i]? ≠ some newlineByte := by
  intro newline
  have entry : i + 1 ∈ offsets := List.mem_of_mem_tail ((h.others (i + 1)).mpr ⟨i, newline, rfl⟩)
  have before : i + 1 ≤ start := greatest.2 ⟨entry, hoffset⟩
  omega

/-- The search ends behind the last entry that is not beyond the offset. Zero is one of them, so
there is a last. -/
theorem IsLineIndex.partitionPoint_isGreatest {cs : List Char} {offsets : List Nat}
    (h : IsLineIndex cs offsets) (offset : Nat) :
    ∃ k start, partitionPoint offsets.toArray offset 0 offsets.toArray.size = k + 1 ∧
      offsets[k]? = some start ∧ IsGreatest {o | o ∈ offsets ∧ o ≤ offset} start := by
  obtain ⟨low, high, rfl, hlow, hhigh⟩ := exists_parts_of_ascending h.ascending offset
  have point := partitionPoint_append hlow hhigh
  rcases List.eq_nil_or_concat' low with rfl | ⟨front, start, rfl⟩
  · have zero : 0 ∈ high := List.mem_of_mem_head? h.first
    exact absurd (hhigh 0 zero) (Nat.not_lt_zero offset)
  · have last : start ∈ front ++ [start] := List.mem_concat_self
    have ascending := (List.pairwise_append.mp (List.pairwise_append.mp h.ascending).1).2.2
    refine ⟨front.length, start, point.trans (by simp), by simp, ?_, ?_⟩
    · exact ⟨List.mem_append_left high last, hlow start last⟩
    · rintro o ⟨entry, within⟩
      rcases List.mem_append.mp entry with ho | ho
      · rcases List.mem_append.mp ho with ho | ho
        · exact Nat.le_of_lt (ascending o ho start (List.mem_singleton_self start))
        · exact Nat.le_of_eq (List.mem_singleton.mp ho)
      · exact absurd (hhigh o ho) (Nat.not_lt.mpr within)

/-- A document's index holds zero and the places behind newline bytes, in ascending order; these
are boundaries of the text. The search for the line of an offset finds the last entry that is not
beyond the offset, and between the two there is no newline. -/
theorem Document.lineIndex_isGreatest (path : Path) (cs : List Char) :
    let d := ofChars path cs
    IsLineIndex cs d.offsets.toList ∧
    ∀ offset, ∃ start,
      partitionPoint d.offsets offset 0 d.offsets.size = d.lineIndex offset + 1 ∧
      d.offsets[d.lineIndex offset]? = some start ∧
      IsGreatest {o | o ∈ d.offsets.toList ∧ o ≤ offset} start ∧
      ∀ i, start ≤ i → i < offset → (encode cs)[i]? ≠ some newlineByte := by
  intro d
  have isIndex : IsLineIndex cs d.offsets.toList := isLineIndex_lineOffsets cs
  refine ⟨isIndex, fun offset => ?_⟩
  obtain ⟨k, start, point, entry, greatest⟩ := isIndex.partitionPoint_isGreatest offset
  have index : d.lineIndex offset = k := by
    rw [lineIndex, point, Nat.add_sub_cancel]
  rw [Array.getElem?_toList] at entry
  rw [index]
  exact ⟨start, point, entry, greatest, fun i => isIndex.newlineByte_not_between greatest⟩

/-- An offset that is itself the start of a line is on this line. -/
example :
    let d := Document.ofString (Path.ofString "a.scss") "é\n\r\nb"
    d.offsets = #[0, 3, 5] ∧ [0, 2, 3, 4, 5, 6].map d.lineIndex = [0, 0, 1, 1, 2, 2] := by
  decide +kernel

end Linting
