import Linting.Document
import Mathlib.Data.List.Basic

/-! Byte offsets of a text that is split in pieces: the byte length of what stands in front is where
a piece starts, and slicing there gives the piece back. -/

namespace Linting.Text

@[simp] theorem byteLength_nil : byteLength [] = 0 := rfl

@[simp] theorem byteLength_cons (c : Char) (cs : List Char) :
    byteLength (c :: cs) = c.utf8Size + byteLength cs := rfl

@[simp] theorem byteLength_append (as bs : List Char) :
    byteLength (as ++ bs) = byteLength as + byteLength bs := by
  induction as with
  | nil => simp
  | cons c as ih => simp [ih, Nat.add_assoc]

theorem byteLength_eq_zero_iff {cs : List Char} : byteLength cs = 0 ↔ cs = [] := by
  cases cs with
  | nil => simp
  | cons c cs =>
    have positive := c.utf8Size_pos
    simp only [byteLength_cons, reduceCtorEq, iff_false]
    omega

end Linting.Text

namespace Linting
open Text

theorem dropBytes_cons {n : Nat} {c : Char} (h : c.utf8Size ≤ n) (cs : List Char) :
    dropBytes n (c :: cs) = dropBytes (n - c.utf8Size) cs := by
  have pos := c.utf8Size_pos
  obtain ⟨m, rfl⟩ : ∃ m, n = m + 1 := ⟨n - 1, by omega⟩
  rw [dropBytes, if_pos h]

theorem takeBytes_cons {n : Nat} {c : Char} (h : c.utf8Size ≤ n) (cs : List Char) :
    takeBytes n (c :: cs) = (takeBytes (n - c.utf8Size) cs).map (c :: ·) := by
  have pos := c.utf8Size_pos
  obtain ⟨m, rfl⟩ : ∃ m, n = m + 1 := ⟨n - 1, by omega⟩
  rw [takeBytes, if_pos h]

theorem dropBytes_append (pre rest : List Char) :
    dropBytes (byteLength pre) (pre ++ rest) = some rest := by
  induction pre with
  | nil => cases rest <;> rfl
  | cons c pre ih =>
    rw [List.cons_append, byteLength_cons, dropBytes_cons (Nat.le_add_right _ _),
      Nat.add_sub_cancel_left, ih]

theorem takeBytes_append (pre rest : List Char) :
    takeBytes (byteLength pre) (pre ++ rest) = some pre := by
  induction pre with
  | nil => cases rest <;> rfl
  | cons c pre ih =>
    rw [List.cons_append, byteLength_cons, takeBytes_cons (Nat.le_add_right _ _),
      Nat.add_sub_cancel_left, ih, Option.map_some]

theorem sliceBytes_append (pre mid rest : List Char) :
    sliceBytes (byteLength pre) (byteLength (pre ++ mid)) (pre ++ mid ++ rest) = some mid := by
  have ordered : byteLength pre ≤ byteLength (pre ++ mid) := by simp
  have span : byteLength (pre ++ mid) - byteLength pre = byteLength mid := by simp
  rw [sliceBytes, if_pos ordered, List.append_assoc, dropBytes_append, Option.bind_some, span,
    takeBytes_append]

theorem dropBytes_eq_some_iff {n : Nat} {cs rest : List Char} :
    dropBytes n cs = some rest ↔ ∃ pre, cs = pre ++ rest ∧ byteLength pre = n := by
  constructor
  · intro h
    fun_induction dropBytes n cs with
    | case1 cs =>
      cases h
      exact ⟨[], rfl, rfl⟩
    | case2 => cases h
    | case3 n c cs hc ih =>
      obtain ⟨pre, rfl, hpre⟩ := ih h
      refine ⟨c :: pre, rfl, ?_⟩
      rw [byteLength_cons]
      omega
    | case4 => cases h
  · rintro ⟨pre, rfl, rfl⟩
    exact dropBytes_append pre rest

theorem takeBytes_eq_some_iff {n : Nat} {cs pre : List Char} :
    takeBytes n cs = some pre ↔ ∃ rest, cs = pre ++ rest ∧ byteLength pre = n := by
  constructor
  · intro h
    fun_induction takeBytes n cs generalizing pre with
    | case1 cs =>
      cases h
      exact ⟨cs, rfl, rfl⟩
    | case2 => cases h
    | case3 n c cs hc ih =>
      obtain ⟨front, hfront, rfl⟩ := Option.map_eq_some_iff.mp h
      obtain ⟨rest, rfl, hlength⟩ := ih hfront
      refine ⟨rest, rfl, ?_⟩
      rw [byteLength_cons]
      omega
    | case4 => cases h
  · rintro ⟨rest, rfl, rfl⟩
    exact takeBytes_append pre rest

theorem sliceBytes_eq_some_iff {a b : Nat} {cs mid : List Char} :
    sliceBytes a b cs = some mid ↔
      ∃ pre post, cs = pre ++ mid ++ post ∧ byteLength pre = a ∧ byteLength (pre ++ mid) = b := by
  constructor
  · intro h
    unfold sliceBytes at h
    split at h
    · obtain ⟨rest, hrest, hmid⟩ := Option.bind_eq_some_iff.mp h
      obtain ⟨pre, rfl, hpre⟩ := dropBytes_eq_some_iff.mp hrest
      obtain ⟨post, rfl, hlength⟩ := takeBytes_eq_some_iff.mp hmid
      refine ⟨pre, post, (List.append_assoc ..).symm, hpre, ?_⟩
      rw [byteLength_append]
      omega
    · cases h
  · rintro ⟨pre, post, rfl, rfl, rfl⟩
    exact sliceBytes_append pre mid post

end Linting
