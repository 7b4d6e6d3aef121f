import Linting.Json.Reader
import Linting.Json.Writer
import Linting.Proofs.Text.Digits

/-! Strings and numbers of JSON text: the reader takes back what the writer wrote and stops where it
ends. -/

namespace Linting.Json

/-- What stands behind a value in compact text: nothing, or what separates or closes. -/
def Delimits (rest : List Char) : Prop := ∀ c ∈ rest.head?, c = ',' ∨ c = ']' ∨ c = '\x7d'

theorem delimits_nil : Delimits [] := by
  simp [Delimits]

theorem delimits_comma (rest : List Char) : Delimits (',' :: rest) := by
  simp [Delimits]

theorem delimits_bracket (rest : List Char) : Delimits (']' :: rest) := by
  simp [Delimits]

theorem delimits_brace (rest : List Char) : Delimits ('\x7d' :: rest) := by
  simp [Delimits]

theorem hexValue?_hexDigit : ∀ n < 16, hexValue? (hexDigit n) = some n := by
  decide

/-- An escape of four digits is read as the character it was made from. -/
theorem readEscape_hexadecimal {c : Char} (h : c.toNat < 0x20) (rest : List Char) :
    readEscape ('u' :: '0' :: '0' :: hexDigit (c.toNat / 16) :: hexDigit (c.toNat % 16) :: rest) =
      some (c, rest) := by
  have zero : hexValue? '0' = some 0 := rfl
  have high := hexValue?_hexDigit (c.toNat / 16) (by omega)
  have low := hexValue?_hexDigit (c.toNat % 16) (by omega)
  have code : ((0 * 16 + 0) * 16 + c.toNat / 16) * 16 + c.toNat % 16 = c.toNat := by omega
  have notHigh : ¬(0xD800 ≤ c.toNat ∧ c.toNat < 0xDC00) := by omega
  have notLow : ¬(0xDC00 ≤ c.toNat ∧ c.toNat < 0xE000) := by omega
  simp only [readEscape, readCode, readUnit, zero, high, low, code, bind, Option.bind, notHigh,
    notLow, if_false, Char.ofNat_toNat]

/-- One step of reading a string takes one character, however it was written. -/
theorem readString_escape (acc : List Char) (fuel : Nat) (c : Char) (rest : List Char) :
    readString acc (fuel + 1) (escape c ++ rest) = readString (c :: acc) fuel rest := by
  unfold escape
  split
  case h_8 quote backslash _ _ _ _ _ =>
    split
    · rename_i control
      simp only [List.cons_append, List.nil_append, readString, readEscape_hexadecimal control,
        bind, Option.bind]
    · rename_i printed
      simp only [List.cons_append, List.nil_append, readString, printed, if_false]
  all_goals rfl

theorem length_escape_pos (c : Char) : 0 < (escape c).length := by
  unfold escape
  split
  case h_8 => split <;> simp
  all_goals simp

theorem length_le_flatMap_escape (cs : List Char) : cs.length ≤ (cs.flatMap escape).length := by
  induction cs with
  | nil => simp
  | cons c cs ih =>
    have first := length_escape_pos c
    simp only [List.flatMap_cons, List.length_append, List.length_cons]
    omega

theorem readString_flatMap_escape (acc cs rest : List Char) {fuel : Nat}
    (h : cs.length < fuel) :
    readString acc fuel (cs.flatMap escape ++ '"' :: rest) = some (acc.reverse ++ cs, rest) := by
  induction cs generalizing acc fuel with
  | nil =>
    obtain ⟨fuel, rfl⟩ := Nat.exists_eq_add_of_lt h
    simp [readString]
  | cons c cs ih =>
    obtain ⟨fuel, rfl⟩ : ∃ n, fuel = n + 1 := ⟨fuel - 1, by simp at h; omega⟩
    have inner : cs.length < fuel := by simpa using h
    rw [List.flatMap_cons, List.append_assoc, readString_escape, ih (c :: acc) inner,
      List.reverse_cons, List.append_assoc, List.singleton_append]

theorem readString_renderString (s : String) (rest : List Char) :
    readString [] ((s.toList.flatMap escape ++ '"' :: rest).length + 1)
      (s.toList.flatMap escape ++ '"' :: rest) = some (s.toList, rest) := by
  have enough := length_le_flatMap_escape s.toList
  have fuel : s.toList.length < (s.toList.flatMap escape ++ '"' :: rest).length + 1 := by
    rw [List.length_append]
    omega
  exact readString_flatMap_escape [] s.toList rest fuel

theorem natOf_toDigits (n : Nat) : natOf (Nat.toDigits 10 n) = n := by
  have value := Text.foldl_toDigits n
  simpa only [natOf, Nat.mul_comm] using value

theorem Delimits.not_isDigit {rest : List Char} (h : Delimits rest) :
    ∀ c ∈ rest.head?, c.isDigit = false := by
  intro c hc
  rcases h c hc with rfl | rfl | rfl <;> rfl

theorem readDigits_append {digits rest : List Char} (hne : digits ≠ [])
    (hdigits : ∀ c ∈ digits, c.isDigit = true) (hrest : Delimits rest) :
    readDigits (digits ++ rest) = some (digits, rest) := by
  obtain ⟨taken, behind⟩ := Text.takeWhile_append_of_stop hdigits hrest.not_isDigit
  rw [readDigits, taken, behind, if_neg (by simpa using hne)]

theorem readNumber_digits (negative : Bool) (n : Nat) {rest : List Char} (h : Delimits rest) :
    readNumber (Text.signText negative ++ (Nat.toDigits 10 n ++ rest)) =
      some (number negative (Nat.toDigits 10 n) [] none, rest) := by
  have ended : readFraction rest = some ([], rest) ∧ readExponent rest = some (none, rest) := by
    cases rest with
    | nil => exact ⟨rfl, rfl⟩
    | cons c rest => rcases h c rfl with rfl | rfl | rfl <;> exact ⟨rfl, rfl⟩
  rcases Text.toDigits_cases n with ⟨rfl, zero⟩ | ⟨c, cs, digits, nonzero, hdigits⟩
  · cases negative <;> simp [readNumber, Text.signText, zero, ended.1, ended.2]
  · have first : c ≠ '-' := by
      rintro rfl
      exact absurd (hdigits '-' List.mem_cons_self) (by decide)
    have whole := readDigits_append (List.cons_ne_nil c cs) hdigits h
    rw [List.cons_append] at whole
    rw [digits, List.cons_append]
    cases negative <;> simp [readNumber, Text.signText, first, nonzero, whole, ended.1, ended.2]

theorem readNumber_integer {n : Int} (low : -0x8000000000000000 ≤ n)
    (high : n ≤ 0xFFFFFFFFFFFFFFFF) {rest : List Char} (h : Delimits rest) :
    readNumber ((toString n).toList ++ rest) = some (.integer n, rest) := by
  have value : (if n < 0 then -(n.natAbs : Int) else n.natAbs) = n := by omega
  rw [Text.toList_toString_int, List.append_assoc, readNumber_digits _ _ h, number, natOf_toDigits]
  simp only [decide_eq_true_eq, value]
  rw [if_pos (by simp; omega)]

end Linting.Json
