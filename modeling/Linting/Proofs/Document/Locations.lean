import Linting.Proofs.Document.LineIndex
import Mathlib.Data.List.Induction

/-! Locations against a plain reading of the text. The line counts the newlines in front of the
offset, the column the characters behind the last of them, and the length the characters covered. -/

namespace Linting
open Text

/-- The characters behind the last newline, or all of them without one. -/
def lastLine (cs : List Char) : List Char := (cs.reverse.takeWhile (· ≠ '\n')).reverse

theorem lastLine_concat_newline (cs : List Char) : lastLine (cs ++ ['\n']) = [] := by
  simp [lastLine]

theorem lastLine_concat_of_ne (cs : List Char) {c : Char} (hc : c ≠ '\n') :
    lastLine (cs ++ [c]) = lastLine cs ++ [c] := by
  simp [lastLine, hc]

theorem length_lastLine_le (cs : List Char) : (lastLine cs).length ≤ cs.length := by
  calc
    (lastLine cs).length = (cs.reverse.takeWhile (· ≠ '\n')).length := List.length_reverse
    _ ≤ cs.reverse.length := (List.takeWhile_prefix _).length_le
    _ = cs.length := List.length_reverse

/-- The line that a text ends in starts at the last entry of the index. -/
theorem lineOffsets_lastLine (cs : List Char) :
    ∃ front, cs = front ++ lastLine cs ∧
      (lineOffsets cs)[cs.count '\n']? = some (byteLength front) := by
  induction cs using List.reverseRecOn with
  | nil => exact ⟨[], rfl, rfl⟩
  | append_singleton cs c ih =>
    obtain ⟨front, hcs, hstart⟩ := ih
    by_cases hc : c = '\n'
    · subst hc
      refine ⟨cs ++ ['\n'], by rw [lastLine_concat_newline, List.append_nil], ?_⟩
      have count : (cs ++ ['\n']).count '\n' = (lineOffsets cs).length := by
        rw [length_lineOffsets, List.count_append, List.count_singleton_self]
      rw [count, lineOffsets_append, List.getElem?_append_right (Nat.le_refl _), Nat.sub_self]
      simp [offsetsAfterNewlines]
    · refine ⟨front, ?_, ?_⟩
      · rw [lastLine_concat_of_ne cs hc, ← List.append_assoc, ← hcs]
      · have count : (cs ++ [c]).count '\n' = cs.count '\n' := by
          rw [List.count_append, List.count_singleton, if_neg (by simpa using hc), Nat.add_zero]
        have none : offsetsAfterNewlines (byteLength cs) [c] = [] := by
          simp [offsetsAfterNewlines, hc]
        rw [count, lineOffsets_append, none, List.append_nil, hstart]

theorem toNat_toUInt32 {n : Nat} (h : n ≤ 0xFFFFFFFF) : n.toUInt32.toNat = n :=
  UInt32.toNat_ofNat_of_lt' (Nat.lt_succ_of_le h)

theorem toNat_toUInt32_add_one {n : Nat} (h : n < 0xFFFFFFFF) :
    (n.toUInt32 + 1).toNat = n + 1 := by
  have one : (1 : UInt32).toNat = 1 := rfl
  rw [UInt32.toNat_add, toNat_toUInt32 (Nat.le_of_lt h), one]
  exact Nat.mod_eq_of_lt (Nat.succ_lt_succ h)

namespace Document

/-- The location of `mid`, in machine words. The offset may lie beyond the end, and so may the
length reach beyond it. -/
theorem locationOf_ofChars (path : Path) {cs pre mid post : List Char} {offset byteLen : Nat}
    (hcs : cs = pre ++ mid ++ post) (hword : min offset (byteLength cs) + byteLen < wordLimit)
    (hstart : byteLength pre = min offset (byteLength cs))
    (hend : byteLength (pre ++ mid) =
      min (min offset (byteLength cs) + byteLen) (byteLength cs)) :
    (ofChars path cs).locationOf offset byteLen =
      some ⟨(pre.count '\n').toUInt32 + 1, ((lastLine pre).length + 1).toUInt32,
        mid.length.toUInt32⟩ := by
  obtain ⟨front, hpre, hfront⟩ := lineOffsets_lastLine pre
  have index : (ofChars path cs).lineIndex (byteLength pre) = pre.count '\n' := by
    rw [hcs, List.append_assoc]
    exact lineIndex_ofChars path pre (mid ++ post)
  have lineStart : (ofChars path cs).offsets[pre.count '\n']? = some (byteLength front) := by
    have entry : pre.count '\n' < (lineOffsets pre).length := by
      rw [length_lineOffsets]
      exact Nat.lt_succ_self _
    rw [ofChars, List.getElem?_toArray, hcs, List.append_assoc, lineOffsets_append,
      List.getElem?_append_left entry, hfront]
  have before : sliceBytes (byteLength front) (byteLength pre) cs = some (lastLine pre) := by
    have slice := sliceBytes_append front (lastLine pre) (mid ++ post)
    rwa [← hpre, ← List.append_assoc, ← hcs] at slice
  have covered : sliceBytes (byteLength pre) (byteLength (pre ++ mid)) cs = some mid := by
    rw [hcs]
    exact sliceBytes_append pre mid post
  rw [locationOf, size_ofChars, contents_ofChars, ← hstart, index, lineStart]
  rw [← hstart] at hword hend
  simp only [Option.bind_eq_bind, Option.bind_some, before, if_pos hword, ← hend, covered]

/-- The location of a stretch of text is what a plain reading finds. -/
theorem locationOf_eq_scan (path : Path) {cs pre mid post : List Char} {offset byteLen : Nat}
    (hcs : cs = pre ++ mid ++ post) (hlen : cs.length < 0xFFFFFFFF)
    (hword : offset + byteLen < wordLimit)
    (hstart : byteLength pre = min offset (byteLength cs))
    (hend : byteLength (pre ++ mid) =
      min (min offset (byteLength cs) + byteLen) (byteLength cs)) :
    ∃ loc, (ofChars path cs).locationOf offset byteLen = some loc ∧
      loc.line.toNat = 1 + pre.count '\n' ∧
      loc.column.toNat = 1 + (lastLine pre).length ∧
      loc.length.toNat = mid.length := by
  have parts : pre.length + mid.length ≤ cs.length := by
    rw [hcs, List.length_append, List.length_append]
    exact Nat.le_add_right _ _
  have lines : pre.count '\n' ≤ pre.length := List.count_le_length
  have column : (lastLine pre).length ≤ pre.length := length_lastLine_le pre
  refine ⟨_, locationOf_ofChars path hcs (by omega) hstart hend, ?_, ?_, ?_⟩
  · rw [toNat_toUInt32_add_one (by omega), Nat.add_comm]
  · rw [toNat_toUInt32 (by omega), Nat.add_comm]
  · exact toNat_toUInt32 (by omega)

/-- The offset is behind a two-byte character and a newline, and the length beyond the end. -/
theorem locationOf_behind_accent :
    ∃ loc, (ofString (Path.ofString "a.scss") "é\r\nab\nc").locationOf 5 100 = some loc ∧
      loc.line.toNat = 2 ∧ loc.column.toNat = 2 ∧ loc.length.toNat = 3 :=
  have pieces : "é\r\nab\nc".toList = "é\r\na".toList ++ "b\nc".toList ++ [] := by decide
  locationOf_eq_scan (Path.ofString "a.scss") pieces (by decide) (by decide) (by decide)
    (by decide)

end Document

end Linting
