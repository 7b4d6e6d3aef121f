import Linting.Proofs.Linter.Order
import Mathlib.Data.List.DropRight

/-! The numbers that linters compute with. In a text that is short enough for words of 32 bits no
number of a line or a column wraps around, no offset exceeds a word of 64 bits, and nothing is
subtracted from less. -/

namespace Linting
open Text

theorem length_le_of_sliceBytes {a b : Nat} {cs piece : List Char}
    (h : sliceBytes a b cs = some piece) : piece.length ≤ cs.length := by
  obtain ⟨pre, post, rfl, -, -⟩ := sliceBytes_eq_some_iff.mp h
  rw [List.append_assoc, List.length_append, List.length_append]
  omega

theorem partitionPoint_le (offsets : Array Nat) (offset : Nat) {lo hi : Nat} (h : lo ≤ hi) :
    partitionPoint offsets offset lo hi ≤ hi := by
  fun_induction partitionPoint offsets offset lo hi with
  | case1 lo hi _ _ ih => exact ih (by omega)
  | case2 lo hi _ _ ih =>
    have inner := ih (by omega)
    omega
  | case3 lo hi _ => exact h

theorem Document.lineIndex_le (path : Path) (cs : List Char) (offset : Nat) :
    (ofChars path cs).lineIndex offset ≤ cs.count '\n' := by
  have size := size_offsets path cs
  have point := partitionPoint_le (ofChars path cs).offsets offset
    (Nat.zero_le (ofChars path cs).offsets.size)
  unfold lineIndex
  omega

theorem Builtin.trimEnd_prefix (line : List Char) : trimEnd line <+: line :=
  List.rdropWhile_prefix isBlank line

theorem byteLength_le_of_prefix {as bs : List Char} (h : as <+: bs) :
    byteLength as ≤ byteLength bs := by
  obtain ⟨more, rfl⟩ := h
  rw [byteLength_append]
  exact Nat.le_add_right _ _

/-- The sums and differences that linters form of a document are what they would be without bounds
on numbers. The far end of a span is not among them, since `Document.locationOf` checks it. -/
structure Document.ArithmeticFits (d : Document) : Prop where
  /-- The offsets in the index of lines. -/
  starts : ∀ offset ∈ d.offsets, offset < wordLimit
  /-- The numbers of lines that are counted. -/
  numbers : ∀ i < (splitLines [] d.contents).length, (i.toUInt32 + 1).toNat = i + 1
  /-- The numbers of lines that are looked up in the index. -/
  indices : ∀ offset, ((d.lineIndex offset).toUInt32 + 1).toNat = d.lineIndex offset + 1
  /-- Columns, which count the characters of a slice and one more. -/
  columns : ∀ a b piece, sliceBytes a b d.contents = some piece →
    (piece.length + 1).toUInt32.toNat = piece.length + 1
  /-- The number of blanks at the end of a line. -/
  blanks : ∀ line ∈ splitLines [] d.contents,
    byteLength (Builtin.trimEnd line) ≤ byteLength line
  /-- The number of characters beyond a limit, which is taken of longer lines only. -/
  excess : ∀ max line found, Builtin.findExcess max line = some found → max < line.length

theorem Document.arithmeticFits_ofChars (path : Path) {cs : List Char}
    (hlen : cs.length < 0xFFFFFFFF) : (ofChars path cs).ArithmeticFits where
  starts offset hoffset := by
    have within := le_byteLength_of_mem_lineOffsets (List.mem_toArray.mp hoffset)
    exact Nat.lt_of_le_of_lt within (byteLength_lt_wordLimit hlen)
  numbers i hi := by
    have lines := length_splitLines_le [] cs
    have newlines : cs.count '\n' ≤ cs.length := List.count_le_length
    have bound : i < (splitLines [] cs).length := hi
    exact toNat_toUInt32_add_one (by omega)
  indices offset := by
    have index := lineIndex_le path cs offset
    have newlines : cs.count '\n' ≤ cs.length := List.count_le_length
    exact toNat_toUInt32_add_one (by omega)
  columns a b piece hpiece := by
    have inside : piece.length ≤ cs.length := length_le_of_sliceBytes hpiece
    exact toNat_toUInt32 (by omega)
  blanks line _ := byteLength_le_of_prefix (Builtin.trimEnd_prefix line)
  excess max line found hfound := by
    by_contra short
    rw [Builtin.findExcess, if_pos (Nat.not_lt.mp short)] at hfound
    cases hfound

end Linting
