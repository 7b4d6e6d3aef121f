import Mathlib.Data.List.Basic

/-! Runs of characters of one kind, and numbers in decimal digits, as they are written and read
back. -/

namespace Linting.Text

/-- A run ends where a character of another kind stands. -/
theorem takeWhile_append_of_stop {kind : Char → Bool} {run rest : List Char}
    (h : ∀ c ∈ run, kind c = true) (stop : ∀ c ∈ rest.head?, kind c = false) :
    (run ++ rest).takeWhile kind = run ∧ (run ++ rest).dropWhile kind = rest := by
  have ended : rest.takeWhile kind = [] ∧ rest.dropWhile kind = rest := by
    cases rest with
    | nil => exact ⟨rfl, rfl⟩
    | cons c rest =>
      have other := stop c rfl
      simp [other]
  rw [List.takeWhile_append_of_pos h, List.dropWhile_append_of_pos h, ended.1, ended.2,
    List.append_nil]
  exact ⟨rfl, rfl⟩

theorem toList_toString (n : Nat) : (toString n).toList = Nat.toDigits 10 n := by
  rw [Nat.toString_eq_ofList_toDigits, String.toList_ofList]

/-- The sign of a number as it is written. -/
def signText (negative : Bool) : List Char := if negative then ['-'] else []

theorem toList_toString_int (n : Int) :
    (toString n).toList = signText (n < 0) ++ Nat.toDigits 10 n.natAbs := by
  cases n with
  | ofNat m => exact toList_toString m
  | negSucc m =>
    have sign : toString (Int.negSucc m) = "-" ++ toString (m + 1) := rfl
    rw [sign, String.toList_append, toList_toString, signText, if_pos (by simp)]
    rfl

theorem isDigit_of_mem_toDigits {n : Nat} {c : Char} (h : c ∈ Nat.toDigits 10 n) :
    c.isDigit = true :=
  Nat.isDigit_of_mem_toDigits (by decide) (by decide) h

theorem digitChar_ne_zero {d : Nat} (hd : d < 10) (hne : d ≠ 0) : d.digitChar ≠ '0' := by
  decide +revert

/-- A number has no leading zero. -/
theorem head?_toDigits {n : Nat} (h : n ≠ 0) : (Nat.toDigits 10 n).head? ≠ some '0' := by
  induction n using Nat.strongRecOn with
  | _ n ih =>
    rw [Nat.toDigits_eq_if (by decide)]
    split
    · rename_i small
      simpa using digitChar_ne_zero small h
    · have rest := ih (n / 10) (by omega) (by omega)
      rwa [List.head?_append_of_ne_nil _ Nat.toDigits_ne_nil]

/-- Zero, or digits of which the first is not zero. -/
theorem toDigits_cases (n : Nat) :
    (n = 0 ∧ Nat.toDigits 10 n = ['0']) ∨
    ∃ c cs, Nat.toDigits 10 n = c :: cs ∧ c ≠ '0' ∧ ∀ d ∈ c :: cs, d.isDigit = true := by
  by_cases zero : n = 0
  · exact .inl ⟨zero, by rw [zero, Nat.toDigits_zero]⟩
  · have digits := fun d => isDigit_of_mem_toDigits (n := n) (c := d)
    have head := head?_toDigits zero
    cases h : Nat.toDigits 10 n with
    | nil => exact absurd h Nat.toDigits_ne_nil
    | cons c cs =>
      rw [h] at digits head
      exact .inr ⟨c, cs, rfl, by simpa using head, digits⟩

theorem foldl_toDigits (n : Nat) :
    (Nat.toDigits 10 n).foldl (fun value c => 10 * value + (c.toNat - '0'.toNat)) 0 = n :=
  Nat.ofDigitChars_ten_toDigits

theorem ne_of_startsInteger {c d : Char} (h : c.isDigit = true ∨ c = '-')
    (hd : d.isDigit = false ∧ d ≠ '-') : c ≠ d := by
  rintro rfl
  rcases h with digit | sign
  · exact absurd digit (by simp [hd.1])
  · exact hd.2 sign

theorem head_toString_int (n : Int) :
    ∃ c cs, (toString n).toList = c :: cs ∧ (c.isDigit = true ∨ c = '-') := by
  rw [toList_toString_int]
  by_cases negative : n < 0
  · exact ⟨'-', Nat.toDigits 10 n.natAbs, by simp [signText, negative], .inr rfl⟩
  · obtain ⟨c, cs, digits⟩ :=
      List.exists_cons_of_ne_nil (Nat.toDigits_ne_nil (n := n.natAbs) (b := 10))
    refine ⟨c, cs, by simp [signText, negative, digits], .inl ?_⟩
    exact isDigit_of_mem_toDigits (digits ▸ List.mem_cons_self)

end Linting.Text
