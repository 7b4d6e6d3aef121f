import Linting.Proofs.Text.Digits
import Linting.Toml.Reader
import Linting.Toml.Writer

/-! Strings between double quotes on one line, and strings between single quotes on one line, are
read back as the text they were written for. -/

namespace Linting.Toml

/-- What stands behind a value: a comma, the end of an array, or the end of the line. -/
def Delimits (rest : List Char) : Prop := ∀ c ∈ rest.head?, c = ',' ∨ c = ']' ∨ c = '\n'

theorem delimits_comma (rest : List Char) : Delimits (',' :: rest) := by
  simp [Delimits]

theorem delimits_bracket (rest : List Char) : Delimits (']' :: rest) := by
  simp [Delimits]

theorem delimits_newline (rest : List Char) : Delimits ('\n' :: rest) := by
  simp [Delimits]

theorem Delimits.head?_ne {rest : List Char} (h : Delimits rest) {c : Char}
    (hc : c ≠ ',' ∧ c ≠ ']' ∧ c ≠ '\n') : rest.head? ≠ some c := by
  intro head
  rcases h c head with rfl | rfl | rfl <;> simp at hc

theorem ne_return_of_printed {c : Char} (control : isEscapedControl c = false) : c ≠ '\r' := by
  rintro rfl
  exact absurd control (by decide)

theorem isStringChar_of_printed {c : Char} (control : isEscapedControl c = false)
    (newline : c ≠ '\n') : isStringChar c = true := by
  by_cases tab : c = '\t'
  · rw [tab]
    rfl
  · have low : ¬c.toNat < 0x20 := by
      intro low
      simp [isEscapedControl, low, tab, newline] at control
    have delete : c.toNat ≠ 0x7F := by
      intro delete
      simp [isEscapedControl, delete] at control
    by_cases high : 0x80 ≤ c.toNat
    · simp [isStringChar, isCommentChar, high]
    · have range : ' ' ≤ c ∧ c ≤ '~' := by
        constructor
        · change 0x20 ≤ c.toNat
          omega
        · change c.toNat ≤ 0x7E
          omega
      simp [isStringChar, isCommentChar, range.1, range.2]

theorem upperHex_digits : ∀ n < 0x80, (upperHex n).length = 2 ∧ (upperHex n).all isHexDigit = true ∧
    valueOf 16 ('0' :: '0' :: upperHex n) = n := by
  decide

theorem toNat_lt_of_isEscapedControl {c : Char} (h : isEscapedControl c = true) :
    c.toNat < 0x80 := by
  simp only [isEscapedControl, Bool.or_eq_true, Bool.and_eq_true, decide_eq_true_eq] at h
  omega

theorem readEscape_upperHex {c : Char} (h : isEscapedControl c = true) (rest : List Char) :
    readEscape ('u' :: '0' :: '0' :: (upperHex c.toNat ++ rest)) = some (c, rest) := by
  have small := toNat_lt_of_isEscapedControl h
  obtain ⟨length, digits, value⟩ := upperHex_digits c.toNat small
  obtain ⟨a, b, hex⟩ := List.length_eq_two.mp length
  rw [hex] at digits value ⊢
  have taken : takeDigits? isHexDigit 4 ('0' :: '0' :: a :: b :: rest) =
      some (['0', '0', a, b], rest) := by
    have zero : isHexDigit '0' = true := rfl
    simp only [List.all_cons, List.all_nil, Bool.and_true, Bool.and_eq_true] at digits
    simp [takeDigits?, zero, digits]
  have valid : c.toNat.isValidChar := .inl (by omega)
  have read : readCode 4 ('0' :: '0' :: a :: b :: rest) = some (c, rest) := by
    simp only [readCode, taken, value, bind, Option.bind, if_pos valid, Char.ofNat_toNat]
  exact read

/-- How a character other than a quote is written: as an escape, or as it is where a line may hold
it. -/
theorem escapeChar_cases (keepNewlines : Bool) (c : Char) :
    (c = '\n' ∧ keepNewlines = true ∧ escapeChar keepNewlines c = ['\n']) ∨
    (∃ code d, escapeChar keepNewlines c = '\\' :: d :: code ∧ isBlank d = false ∧ d ≠ '\n' ∧
      d ≠ '\r' ∧ ∀ rest, readEscape (d :: (code ++ rest)) = some (c, rest)) ∨
    (escapeChar keepNewlines c = [c] ∧ c ≠ '\\' ∧ c ≠ '\n' ∧ c ≠ '\r' ∧ isStringChar c = true) := by
  unfold escapeChar
  split
  case h_3 =>
    cases keepNewlines
    · exact .inr (.inl ⟨[], 'n', rfl, rfl, by decide, by decide, fun _ => rfl⟩)
    · exact .inl ⟨rfl, rfl, rfl⟩
  case h_7 _ _ newline _ return_ backslash =>
    split
    · rename_i control
      refine .inr (.inl ⟨'0' :: '0' :: upperHex c.toNat, 'u', rfl, rfl, by decide, by decide, ?_⟩)
      exact readEscape_upperHex control
    · rename_i control
      have printed := isStringChar_of_printed (by simpa using control) newline
      exact .inr (.inr ⟨rfl, backslash, newline, return_, printed⟩)
  all_goals exact .inr (.inl ⟨[], _, rfl, rfl, by decide, by decide, fun _ => rfl⟩)

theorem readBasic_escapeChar (acc : List Char) (fuel : Nat) {c : Char} (hc : c ≠ '"')
    (rest : List Char) :
    readBasic acc (fuel + 1) (escapeChar false c ++ rest) = readBasic (c :: acc) fuel rest := by
  rcases escapeChar_cases false c with ⟨_, keep, _⟩ | ⟨code, d, text, _, _, _, escape⟩ |
    ⟨text, backslash, _, _, printed⟩
  · cases keep
  · rw [text, List.cons_append, List.cons_append]
    simp only [readBasic, escape, bind, Option.bind]
  · rw [text, List.singleton_append, readBasic]
    · rw [if_pos printed]
    · exact hc
    · exact backslash

theorem readBasic_escapeText (acc cs rest : List Char) {fuel : Nat} (h : cs.length < fuel) :
    readBasic acc fuel (escapeText false 0 0 cs ++ '"' :: rest) =
      some (acc.reverse ++ cs, rest) := by
  obtain ⟨fuel, rfl⟩ : ∃ n, fuel = n + 1 := ⟨fuel - 1, by omega⟩
  induction cs generalizing acc fuel with
  | nil => simp [escapeText, readBasic]
  | cons c cs ih =>
    obtain ⟨fuel, rfl⟩ : ∃ n, fuel = n + 1 := ⟨fuel - 1, by simp at h; omega⟩
    have inner := ih (c :: acc) fuel (by simpa using h)
    rw [List.reverse_cons, List.append_assoc, List.singleton_append] at inner
    rw [escapeText]
    by_cases quote : c = '"'
    · simp only [quote] at inner ⊢
      simp only [if_true, Nat.lt_irrefl, if_false, List.cons_append, readBasic, readEscape, bind,
        Option.bind]
      exact inner
    · rw [if_neg quote, List.append_assoc, readBasic_escapeChar acc _ quote, inner]

theorem length_le_escapeText (keepNewlines : Bool) (allowed run : Nat) (cs : List Char) :
    cs.length ≤ (escapeText keepNewlines allowed run cs).length := by
  induction cs generalizing run with
  | nil => exact Nat.zero_le _
  | cons c cs ih =>
    have written : 1 ≤ (escapeChar keepNewlines c).length := by
      rcases escapeChar_cases keepNewlines c with ⟨_, _, h⟩ | ⟨_, _, h, _⟩ | ⟨h, _⟩ <;> simp [h]
    have after := ih (run + 1)
    have afresh := ih 0
    rw [escapeText]
    split
    · split
      · simpa using after
      · simp
        omega
    · simp
      omega

theorem readLiteral_append {cs rest : List Char}
    (h : ∀ c ∈ cs, isStringChar c = true ∧ c ≠ '\'') :
    readLiteral (cs ++ '\'' :: rest) = some (cs, rest) := by
  have inside : ∀ c ∈ cs, (isStringChar c && c != '\'') = true := by
    intro c hc
    obtain ⟨printed, quote⟩ := h c hc
    simp [printed, quote]
  have stop : ∀ c ∈ ('\'' :: rest).head?, (isStringChar c && c != '\'') = false := by
    simp
  obtain ⟨taken, behind⟩ := Text.takeWhile_append_of_stop inside stop
  simp only [readLiteral, taken, behind]

end Linting.Toml
