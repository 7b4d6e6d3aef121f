import Linting.Proofs.Document.Slices

/-! The index of line starts and the search in it. The entries not beyond an offset are those made
by the text in front of it, so the search finds the line that this text ends in. -/

namespace Linting
open Text

theorem offsetsAfterNewlines_append (offset : Nat) (as bs : List Char) :
    offsetsAfterNewlines offset (as ++ bs) =
      offsetsAfterNewlines offset as ++ offsetsAfterNewlines (offset + byteLength as) bs := by
  induction as generalizing offset with
  | nil => rfl
  | cons c as ih =>
    simp only [List.cons_append, offsetsAfterNewlines, ih, byteLength_cons, Nat.add_assoc]
    split <;> rfl

theorem length_offsetsAfterNewlines (offset : Nat) (cs : List Char) :
    (offsetsAfterNewlines offset cs).length = cs.count '\n' := by
  induction cs generalizing offset with
  | nil => rfl
  | cons c cs ih =>
    by_cases hc : c = '\n' <;> simp [offsetsAfterNewlines, hc, ih]

theorem mem_offsetsAfterNewlines_bounds {offset o : Nat} {cs : List Char}
    (h : o ∈ offsetsAfterNewlines offset cs) : offset < o ∧ o ≤ offset + byteLength cs := by
  induction cs generalizing offset with
  | nil => cases h
  | cons c cs ih =>
    have pos := c.utf8Size_pos
    have step : o = offset + c.utf8Size ∨ o ∈ offsetsAfterNewlines (offset + c.utf8Size) cs := by
      simp only [offsetsAfterNewlines] at h
      split at h
      · exact List.mem_cons.mp h
      · exact .inr h
    rw [byteLength_cons]
    rcases step with rfl | hmem
    · omega
    · have bounds := ih hmem
      omega

theorem lineOffsets_append (as bs : List Char) :
    lineOffsets (as ++ bs) = lineOffsets as ++ offsetsAfterNewlines (byteLength as) bs := by
  rw [lineOffsets, lineOffsets, offsetsAfterNewlines_append, Nat.zero_add, List.cons_append]

theorem length_lineOffsets (cs : List Char) : (lineOffsets cs).length = cs.count '\n' + 1 := by
  rw [lineOffsets, List.length_cons, length_offsetsAfterNewlines]

theorem le_byteLength_of_mem_lineOffsets {o : Nat} {cs : List Char} (h : o ∈ lineOffsets cs) :
    o ≤ byteLength cs := by
  rcases List.mem_cons.mp h with rfl | hmem
  · exact Nat.zero_le _
  · have bounds := (mem_offsetsAfterNewlines_bounds hmem).2
    omega

/-- The search finds the place where the offsets go beyond the one looked for. -/
theorem partitionPoint_eq {offsets : Array Nat} {offset k : Nat}
    (below : ∀ (i o : Nat), offsets[i]? = some o → i < k → o ≤ offset)
    (above : ∀ (i o : Nat), offsets[i]? = some o → k ≤ i → offset < o) (lo hi : Nat)
    (hlo : lo ≤ k) (hhi : k ≤ hi) (hsize : hi ≤ offsets.size) :
    partitionPoint offsets offset lo hi = k := by
  fun_induction partitionPoint offsets offset lo hi with
  | case1 lo hi hlt hle ih =>
    have hmid := Array.getElem?_eq_getElem (show (lo + hi) / 2 < offsets.size by omega)
    rw [hmid, Option.any_some, decide_eq_true_iff] at hle
    have hk : (lo + hi) / 2 < k := by
      by_contra hge
      have beyond := above _ _ hmid (Nat.not_lt.mp hge)
      omega
    exact ih hk hhi hsize
  | case2 lo hi hlt hgt ih =>
    have hmid := Array.getElem?_eq_getElem (show (lo + hi) / 2 < offsets.size by omega)
    rw [hmid, Option.any_some, decide_eq_true_iff] at hgt
    have hk : k ≤ (lo + hi) / 2 := by
      by_contra hlt'
      have within := below _ _ hmid (Nat.not_le.mp hlt')
      omega
    exact ih hlo hk (by omega)
  | case3 lo hi hge => omega

/-- Where numbers that are not beyond an offset are followed by those that are, the search finds
the first of the latter. -/
theorem partitionPoint_append {low high : List Nat} {offset : Nat} (hlow : ∀ o ∈ low, o ≤ offset)
    (hhigh : ∀ o ∈ high, offset < o) :
    partitionPoint (low ++ high).toArray offset 0 (low ++ high).toArray.size = low.length := by
  have inside : low.length ≤ (low ++ high).toArray.size := by simp
  refine partitionPoint_eq ?_ ?_ 0 _ (Nat.zero_le _) inside (Nat.le_refl _)
  · intro i o ho hi
    rw [List.getElem?_toArray, List.getElem?_append_left hi] at ho
    exact hlow o (List.mem_of_getElem? ho)
  · intro i o ho hi
    rw [List.getElem?_toArray, List.getElem?_append_right hi] at ho
    exact hhigh o (List.mem_of_getElem? ho)

namespace Document

@[simp] theorem contents_ofChars (path : Path) (cs : List Char) :
    (ofChars path cs).contents = cs := rfl

@[simp] theorem size_ofChars (path : Path) (cs : List Char) :
    (ofChars path cs).size = byteLength cs := rfl

theorem size_offsets (path : Path) (cs : List Char) :
    (ofChars path cs).offsets.size = cs.count '\n' + 1 := by
  rw [← Array.length_toList]
  exact length_lineOffsets cs

/-- The line of an offset counts the newlines in the text in front of it. -/
theorem lineIndex_ofChars (path : Path) (pre rest : List Char) :
    (ofChars path (pre ++ rest)).lineIndex (byteLength pre) = pre.count '\n' := by
  have behind : ∀ o ∈ offsetsAfterNewlines (byteLength pre) rest, byteLength pre < o :=
    fun o ho => (mem_offsetsAfterNewlines_bounds ho).1
  rw [lineIndex, ofChars, lineOffsets_append,
    partitionPoint_append (fun o => le_byteLength_of_mem_lineOffsets) behind, length_lineOffsets,
    Nat.add_sub_cancel]

end Document

end Linting
