import Linting.Proofs.Toml.Escapes
import Mathlib.Data.List.TakeWhile

/-! Every string is read back from the way it is written. On several lines quotes may stand as they
are, so that the closing ones can only be told by looking ahead. -/

namespace Linting.Toml

section Closing

variable {quote : Char}

theorem takeWhile_replicate_append (quote : Char) (k : Nat) {rest : List Char} (h : rest.head? ≠ some quote) :
    (List.replicate k quote ++ rest).takeWhile (· = quote) = List.replicate k quote := by
  have stop : ∀ c ∈ rest.head?, decide (c = quote) = false := by
    intro c hc
    have other : c ≠ quote := fun same => h (same ▸ hc)
    simp [other]
  exact (Text.takeWhile_append_of_stop (by simp) stop).1

/-- Up to two quotes in front of the closing three belong to the string. -/
theorem closeQuotes_last {k : Nat} (hk : k ≤ 2) {rest : List Char} (h : rest.head? ≠ some quote) :
    closeQuotes quote (List.replicate k quote ++ (List.replicate 3 quote ++ rest)) =
      some (List.replicate k quote, rest) := by
  have run := takeWhile_replicate_append quote (k + 3) h
  have extra : min (k + 3 - 3) 2 = k := by omega
  have behind : (List.replicate (k + 3) quote ++ rest).drop (k + 3) = rest :=
    List.drop_left' List.length_replicate
  rw [← List.append_assoc, List.replicate_append_replicate, closeQuotes, run,
    List.length_replicate, if_pos (by omega)]
  simp only [extra, behind]

theorem closeQuotes_inside {k : Nat} (hk : k ≤ 2) {rest : List Char}
    (h : rest.head? ≠ some quote) : closeQuotes quote (List.replicate k quote ++ rest) = none := by
  rw [closeQuotes, takeWhile_replicate_append quote k h, List.length_replicate, if_neg (by omega)]

/-- The quotes that a text starts with. -/
def leading (quote : Char) (cs : List Char) : Nat := (cs.takeWhile (· = quote)).length

theorem eq_replicate_append (quote : Char) (cs : List Char) :
    ∃ rest, cs = List.replicate (leading quote cs) quote ++ rest ∧ rest.head? ≠ some quote := by
  refine ⟨cs.dropWhile (· = quote), ?_, ?_⟩
  · have quotes : cs.takeWhile (· = quote) = List.replicate (leading quote cs) quote := by
      refine List.eq_replicate_iff.mpr ⟨rfl, fun c hc => ?_⟩
      simpa using List.mem_takeWhile_imp hc
    rw [← quotes, List.takeWhile_append_dropWhile]
  · intro head
    have other := List.head?_dropWhile_not (· = quote) cs
    rw [head] at other
    simp at other

theorem readMultiline_of_close (escapes : Bool) {cs extra rest : List Char}
    (h : closeQuotes quote (quote :: cs) = some (extra, rest)) (acc : List Char) (fuel : Nat) :
    readMultiline quote escapes acc (fuel + 1) (quote :: cs) =
      some (acc.reverse ++ extra, rest) := by
  simp [readMultiline, h]

theorem readMultiline_of_open {escapes : Bool} {cs : List Char}
    (h : closeQuotes quote (quote :: cs) = none) (acc : List Char) (fuel : Nat) :
    readMultiline quote escapes acc (fuel + 1) (quote :: cs) =
      readMultiline quote escapes (quote :: acc) fuel cs := by
  simp [readMultiline, h]

/-- At a quote of the text, of which at most two stand together: the string ends with these and the
closing ones, or reading goes on behind it. -/
theorem readMultiline_quote (escapes : Bool) (acc : List Char) (fuel : Nat) {cs rest : List Char}
    (few : leading quote (quote :: cs) ≤ 2) (hrest : rest.head? ≠ some quote) :
    ((∀ c ∈ cs, c = quote) ∧
      readMultiline quote escapes acc (fuel + 1)
        (quote :: (cs ++ (List.replicate 3 quote ++ rest))) =
          some (acc.reverse ++ quote :: cs, rest)) ∨
    readMultiline quote escapes acc (fuel + 1)
        (quote :: (cs ++ (List.replicate 3 quote ++ rest))) =
      readMultiline quote escapes (quote :: acc) fuel (cs ++ (List.replicate 3 quote ++ rest)) := by
  obtain ⟨tail, text, htail⟩ := eq_replicate_append quote (quote :: cs)
  generalize leading quote (quote :: cs) = k at few text
  cases tail with
  | nil =>
    -- nothing but quotes is left
    rw [List.append_nil] at text
    have all : ∀ c ∈ cs, c = quote := by
      intro c hc
      exact List.eq_of_mem_replicate (text ▸ List.mem_cons_of_mem quote hc)
    have closed := closeQuotes_last few hrest
    rw [← text] at closed
    exact .inl ⟨all, readMultiline_of_close escapes closed acc fuel⟩
  | cons c tail =>
    have inside : closeQuotes quote
        (List.replicate k quote ++ (c :: tail ++ (List.replicate 3 quote ++ rest))) = none :=
      closeQuotes_inside few htail
    rw [← List.append_assoc, ← text] at inside
    exact .inr (readMultiline_of_open inside acc fuel)

theorem readMultiline_closing (escapes : Bool) (acc : List Char) (fuel : Nat) {rest : List Char}
    (hrest : rest.head? ≠ some quote) :
    readMultiline quote escapes acc (fuel + 1) (List.replicate 3 quote ++ rest) =
      some (acc.reverse, rest) := by
  have closed := closeQuotes_last (k := 0) (Nat.zero_le 2) hrest
  have read := readMultiline_of_close escapes closed acc fuel
  rwa [List.replicate_zero, List.append_nil] at read

end Closing

section Literal

/-- Without escapes, characters other than the quote stand for themselves. -/
theorem readMultiline_raw {quote c : Char} (hquote : c ≠ quote)
    (control : isEscapedControl c = false) (acc : List Char) (fuel : Nat) (rest : List Char) :
    readMultiline quote false acc (fuel + 1) (c :: rest) =
      readMultiline quote false (c :: acc) fuel rest := by
  by_cases newline : c = '\n'
  · subst newline
    simp [readMultiline, hquote, readNewline?]
  · have printed := isStringChar_of_printed control newline
    have line : readNewline? (c :: rest) = none := by
      simp [readNewline?, newline, ne_return_of_printed control]
    simp [readMultiline, hquote, line, printed]

theorem longestRun_mono (c : Char) {m n : Nat} (h : m ≤ n) (cs : List Char) :
    longestRun c m cs ≤ longestRun c n cs := by
  induction cs generalizing m n with
  | nil => exact h
  | cons d cs ih =>
    rw [longestRun, longestRun]
    split
    · exact ih (by omega)
    · omega

theorem add_leading_le_longestRun (c : Char) (run : Nat) (cs : List Char) :
    run + leading c cs ≤ longestRun c run cs := by
  induction cs generalizing run with
  | nil => exact Nat.le_refl run
  | cons d cs ih =>
    rw [longestRun]
    by_cases hd : d = c
    · have rest := ih (run + 1)
      have length : leading c (d :: cs) = leading c cs + 1 := by simp [leading, hd]
      rw [if_pos hd]
      omega
    · have length : leading c (d :: cs) = 0 := by simp [leading, hd]
      rw [if_neg hd]
      omega

theorem longestRun_tail_le (c d : Char) (cs : List Char) :
    longestRun c 0 cs ≤ longestRun c 0 (d :: cs) := by
  rw [longestRun]
  split
  · exact longestRun_mono c (Nat.zero_le 1) cs
  · exact Nat.le_max_right _ _

theorem readMultiline_literal {cs rest : List Char}
    (printed : ∀ c ∈ cs, isEscapedControl c = false) (few : longestRun '\'' 0 cs ≤ 2)
    (hrest : rest.head? ≠ some '\'') (acc : List Char) {fuel : Nat} (h : cs.length < fuel) :
    readMultiline '\'' false acc fuel (cs ++ (List.replicate 3 '\'' ++ rest)) =
      some (acc.reverse ++ cs, rest) := by
  obtain ⟨fuel, rfl⟩ : ∃ n, fuel = n + 1 := ⟨fuel - 1, by omega⟩
  induction cs generalizing acc fuel with
  | nil =>
    rw [List.nil_append, List.append_nil]
    exact readMultiline_closing false acc fuel hrest
  | cons c cs ih =>
    obtain ⟨fuel, rfl⟩ : ∃ n, fuel = n + 1 := ⟨fuel - 1, by simp at h; omega⟩
    have later : ∀ d ∈ cs, isEscapedControl d = false :=
      fun d hd => printed d (List.mem_cons_of_mem c hd)
    have fewer := (longestRun_tail_le '\'' c cs).trans few
    have inner := ih later fewer (c :: acc) fuel (by simpa using h)
    rw [List.reverse_cons, List.append_assoc, List.singleton_append] at inner
    rw [List.cons_append]
    by_cases quote : c = '\''
    · subst quote
      have ahead := (add_leading_le_longestRun '\'' 0 ('\'' :: cs)).trans few
      rw [Nat.zero_add] at ahead
      rcases readMultiline_quote false acc (fuel + 1) ahead hrest with ⟨_, read⟩ | read
      · exact read
      · rw [read, inner]
    · rw [readMultiline_raw quote (printed c List.mem_cons_self), inner]

end Literal

section Escaped

theorem readMultiline_escapeChar (acc : List Char) (fuel : Nat) {c : Char} (hc : c ≠ '"')
    (rest : List Char) :
    readMultiline '"' true acc (fuel + 1) (escapeChar true c ++ rest) =
      readMultiline '"' true (c :: acc) fuel rest := by
  rcases escapeChar_cases true c with ⟨rfl, _, text⟩ |
    ⟨code, d, text, blank, newline, notReturn, escape⟩ |
    ⟨text, backslash, newline, notReturn, printed⟩
  · rw [text, List.singleton_append]
    simp [readMultiline, readNewline?]
  · -- what follows the backslash is no end of a line
    have word : dropBlanks (d :: (code ++ rest)) = d :: (code ++ rest) := by
      simp [dropBlanks, blank]
    have line : readNewline? (d :: (code ++ rest)) = none := by
      simp [readNewline?, newline, notReturn]
    rw [text, List.cons_append, List.cons_append]
    simp [readMultiline, word, line, escape]
  · have line : readNewline? (c :: rest) = none := by
      simp [readNewline?, newline, notReturn]
    rw [text, List.singleton_append]
    simp [readMultiline, hc, backslash, line, printed]

theorem readMultiline_escapedQuote (acc : List Char) (fuel : Nat) (rest : List Char) :
    readMultiline '"' true acc (fuel + 1) ('\\' :: '"' :: rest) =
      readMultiline '"' true ('"' :: acc) fuel rest := by
  simp [readMultiline, dropBlanks, isBlank, readNewline?, readEscape]

theorem head?_escapeChar_ne {c : Char} (hc : c ≠ '"') (keepNewlines : Bool) (rest : List Char) :
    (escapeChar keepNewlines c ++ rest).head? ≠ some '"' := by
  rcases escapeChar_cases keepNewlines c with ⟨rfl, _, text⟩ | ⟨code, d, text, _⟩ | ⟨text, _⟩
  all_goals simp [text, hc]

theorem leading_of_head?_ne {quote : Char} {cs : List Char} (h : cs.head? ≠ some quote) :
    leading quote cs = 0 := by
  have quotes := takeWhile_replicate_append quote 0 h
  rw [List.replicate_zero, List.nil_append] at quotes
  rw [leading, quotes]
  rfl

/-- The writer counts the quotes it has let pass. -/
theorem leading_escapeText {run : Nat} (hrun : run ≤ 2) (cs : List Char) :
    leading '"' (escapeText true 2 run cs) + run ≤ 2 := by
  induction cs generalizing run with
  | nil => simpa [escapeText, leading] using hrun
  | cons c cs ih =>
    rw [escapeText]
    by_cases quote : c = '"'
    · rw [if_pos quote]
      by_cases more : run < 2
      · have next : run + 1 ≤ 2 := by omega
        have rest := ih next
        have length : leading '"' ('"' :: escapeText true 2 (run + 1) cs) =
            leading '"' (escapeText true 2 (run + 1) cs) + 1 := by simp [leading]
        rw [if_pos more, length]
        omega
      · have none : leading '"' ('\\' :: '"' :: escapeText true 2 0 cs) = 0 := by simp [leading]
        rw [if_neg more, none]
        omega
    · rw [if_neg quote, leading_of_head?_ne (head?_escapeChar_ne quote true _)]
      omega

theorem escapeText_of_quotes {keepNewlines : Bool} {allowed run : Nat} {cs : List Char}
    (h : ∀ c ∈ escapeText keepNewlines allowed run cs, c = '"') :
    escapeText keepNewlines allowed run cs = cs := by
  induction cs generalizing run with
  | nil => rfl
  | cons c cs ih =>
    rw [escapeText] at h ⊢
    by_cases quote : c = '"'
    · rw [if_pos quote] at h ⊢
      by_cases more : run < allowed
      · rw [if_pos more] at h ⊢
        rw [ih fun d hd => h d (List.mem_cons_of_mem '"' hd), quote]
      · rw [if_neg more] at h
        exact absurd (h '\\' List.mem_cons_self) (by decide)
    · rw [if_neg quote] at h
      obtain ⟨d, code, text⟩ : ∃ d code, escapeChar keepNewlines c = d :: code := by
        rcases escapeChar_cases keepNewlines c with ⟨_, _, text⟩ | ⟨code, d, text, _⟩ | ⟨text, _⟩
        all_goals exact ⟨_, _, text⟩
      have first := head?_escapeChar_ne quote keepNewlines (escapeText keepNewlines allowed 0 cs)
      rw [text, List.cons_append] at h first
      exact absurd (congrArg some (h d List.mem_cons_self)) first

theorem readMultiline_escapeText {run : Nat} (hrun : run ≤ 2) (cs : List Char)
    {rest : List Char} (hrest : rest.head? ≠ some '"') (acc : List Char) {fuel : Nat}
    (h : cs.length < fuel) :
    readMultiline '"' true acc fuel
        (escapeText true 2 run cs ++ (List.replicate 3 '"' ++ rest)) =
      some (acc.reverse ++ cs, rest) := by
  obtain ⟨fuel, rfl⟩ : ∃ n, fuel = n + 1 := ⟨fuel - 1, by omega⟩
  induction cs generalizing run acc fuel with
  | nil =>
    rw [escapeText, List.nil_append, List.append_nil]
    exact readMultiline_closing true acc fuel hrest
  | cons c cs ih =>
    obtain ⟨fuel, rfl⟩ : ∃ n, fuel = n + 1 := ⟨fuel - 1, by simp at h; omega⟩
    have inner {run : Nat} (hrun : run ≤ 2) :
        readMultiline '"' true (c :: acc) (fuel + 1)
          (escapeText true 2 run cs ++ (List.replicate 3 '"' ++ rest)) =
            some (acc.reverse ++ c :: cs, rest) := by
      have read := ih hrun (c :: acc) fuel (by simpa using h)
      rwa [List.reverse_cons, List.append_assoc, List.singleton_append] at read
    have ahead := leading_escapeText hrun (c :: cs)
    rw [escapeText] at ahead ⊢
    by_cases quote : c = '"'
    · subst quote
      rw [if_pos rfl] at ahead ⊢
      by_cases more : run < 2
      · rw [if_pos more] at ahead ⊢
        have few : leading '"' ('"' :: escapeText true 2 (run + 1) cs) ≤ 2 := by omega
        rcases readMultiline_quote true acc (fuel + 1) few hrest with ⟨all, read⟩ | read
        · rw [List.cons_append, read, escapeText_of_quotes all]
        · rw [List.cons_append, read, inner (by omega)]
      · rw [if_neg more, List.cons_append, List.cons_append, readMultiline_escapedQuote,
          inner (Nat.zero_le 2)]
    · rw [if_neg quote, List.append_assoc, readMultiline_escapeChar acc _ quote,
        inner (Nat.zero_le 2)]

/-- What is written first is no newline, unless the text has one. -/
theorem head?_escapeText {keepNewlines : Bool} {allowed run : Nat} {cs : List Char} {c : Char}
    (h : (escapeText keepNewlines allowed run cs).head? = some c) :
    c ≠ '\r' ∧ (c = '\n' → '\n' ∈ cs) := by
  cases cs with
  | nil => simp [escapeText] at h
  | cons d cs =>
    rw [escapeText] at h
    by_cases quote : d = '"'
    · rw [if_pos quote] at h
      split at h <;> simp at h <;> simp [← h]
    · rw [if_neg quote] at h
      rcases escapeChar_cases keepNewlines d with ⟨rfl, _, text⟩ | ⟨code, e, text, _⟩ |
        ⟨text, _, newline, notReturn, _⟩
      · simp [text] at h
        simp [← h]
      · simp [text] at h
        simp [← h]
      · simp [text] at h
        simp [← h, newline, notReturn]

end Escaped

section Enclosed

theorem readString_double {cs rest : List Char} (first : cs.head? ≠ some '"')
    (h : rest.head? ≠ some '"') :
    readString ('"' :: (cs ++ '"' :: rest)) =
      readBasic [] ((cs ++ '"' :: rest).length + 1) (cs ++ '"' :: rest) := by
  cases cs with
  | nil =>
    rw [List.nil_append, readString]
    rintro more behind
    rw [(List.cons.inj behind).2] at h
    exact h rfl
  | cons c cs =>
    rw [List.cons_append, readString]
    rintro more
    simp_all

theorem readString_single {cs rest : List Char} (first : cs.head? ≠ some '\'')
    (h : rest.head? ≠ some '\'') :
    readString ('\'' :: (cs ++ '\'' :: rest)) = readLiteral (cs ++ '\'' :: rest) := by
  cases cs with
  | nil =>
    rw [List.nil_append, readString]
    rintro more behind
    rw [(List.cons.inj behind).2] at h
    exact h rfl
  | cons c cs =>
    rw [List.cons_append, readString]
    rintro more
    simp_all

/-- The newline behind the opening quotes is there for the reader to drop. -/
theorem dropFirstNewline_enclosed {quote : Char} (hquote : quote ≠ '\r' ∧ quote ≠ '\n')
    {newline : Bool} {cs : List Char}
    (h : ∀ c, cs.head? = some c → c ≠ '\r' ∧ (c = '\n' → newline = true)) (rest : List Char) :
    dropFirstNewline ((if newline then ['\n'] else []) ++
      (cs ++ (List.replicate 3 quote ++ rest))) = cs ++ (List.replicate 3 quote ++ rest) := by
  cases newline with
  | true => rfl
  | false =>
    cases cs with
    | nil => simp [dropFirstNewline, readNewline?, List.replicate_succ, hquote]
    | cons c cs =>
      obtain ⟨notReturn, notNewline⟩ := h c rfl
      have line : c ≠ '\n' := fun hc => by simpa using notNewline hc
      simp [dropFirstNewline, readNewline?, notReturn, line]

theorem readString_escaped (cs : List Char) {rest : List Char} (h : rest.head? ≠ some '"') :
    readString (enclose ['"'] false (escapeText false 0 0 cs) ++ rest) = some (cs, rest) := by
  have first : (escapeText false 0 0 cs).head? ≠ some '"' := by
    cases cs with
    | nil => simp [escapeText]
    | cons c cs =>
      rw [escapeText]
      by_cases quote : c = '"'
      · simp [quote]
      · rw [if_neg quote]
        exact head?_escapeChar_ne quote false _
  have length := length_le_escapeText false 0 0 cs
  have text : enclose ['"'] false (escapeText false 0 0 cs) ++ rest =
      '"' :: (escapeText false 0 0 cs ++ '"' :: rest) := by
    simp [enclose]
  rw [text, readString_double first h, readBasic_escapeText [] cs rest]
  · rfl
  · simp
    omega

theorem readString_multilineEscaped (cs : List Char) {rest : List Char}
    (h : rest.head? ≠ some '"') :
    readString (enclose ['"', '"', '"'] (cs.contains '\n') (escapeText true 2 0 cs) ++ rest) =
      some (cs, rest) := by
  have length := length_le_escapeText true 2 0 cs
  have text : enclose ['"', '"', '"'] (cs.contains '\n') (escapeText true 2 0 cs) ++ rest =
      '"' :: '"' :: '"' :: ((if cs.contains '\n' then ['\n'] else []) ++
        (escapeText true 2 0 cs ++ (List.replicate 3 '"' ++ rest))) := by
    simp [enclose, List.replicate_succ]
  have first : ∀ c, (escapeText true 2 0 cs).head? = some c →
      c ≠ '\r' ∧ (c = '\n' → cs.contains '\n' = true) := by
    intro c hc
    obtain ⟨notReturn, newline⟩ := head?_escapeText hc
    exact ⟨notReturn, fun same => by simpa using newline same⟩
  rw [text, readString, dropFirstNewline_enclosed (by decide) first,
    readMultiline_escapeText (by omega) cs h]
  · rfl
  · simp
    omega

theorem readString_literal {cs rest : List Char} (controls : cs.any isEscapedControl = false)
    (quote : cs.contains '\'' = false) (newline : cs.contains '\n' = false)
    (h : rest.head? ≠ some '\'') :
    readString (enclose ['\''] false cs ++ rest) = some (cs, rest) := by
  have inside : ∀ c ∈ cs, isStringChar c = true ∧ c ≠ '\'' := by
    intro c hc
    have control : isEscapedControl c = false := by simpa using List.any_eq_false.mp controls c hc
    refine ⟨isStringChar_of_printed control ?_, ?_⟩
    · rintro rfl
      simp [hc] at newline
    · rintro rfl
      simp [hc] at quote
  have first : cs.head? ≠ some '\'' :=
    fun head => (inside '\'' (List.mem_of_head? head)).2 rfl
  have text : enclose ['\''] false cs ++ rest = '\'' :: (cs ++ '\'' :: rest) := by
    simp [enclose]
  rw [text, readString_single first h, readLiteral_append inside]

theorem readString_multilineLiteral {cs rest : List Char}
    (controls : cs.any isEscapedControl = false) (few : longestRun '\'' 0 cs ≤ 2)
    (h : rest.head? ≠ some '\'') :
    readString (enclose ['\'', '\'', '\''] (cs.contains '\n') cs ++ rest) = some (cs, rest) := by
  have printed : ∀ c ∈ cs, isEscapedControl c = false :=
    fun c hc => by simpa using List.any_eq_false.mp controls c hc
  have text : enclose ['\'', '\'', '\''] (cs.contains '\n') cs ++ rest =
      '\'' :: '\'' :: '\'' :: ((if cs.contains '\n' then ['\n'] else []) ++
        (cs ++ (List.replicate 3 '\'' ++ rest))) := by
    simp [enclose, List.replicate_succ]
  have first : ∀ c, cs.head? = some c → c ≠ '\r' ∧ (c = '\n' → cs.contains '\n' = true) := by
    intro c hc
    have member := List.mem_of_head? hc
    refine ⟨ne_return_of_printed (printed c member), ?_⟩
    rintro rfl
    simpa using member
  rw [text, readString, dropFirstNewline_enclosed (by decide) first,
    readMultiline_literal printed few h]
  · rfl
  · simp
    omega

theorem StringStyle.of_eq_literal {cs : List Char} (h : StringStyle.of cs = literal) :
    cs.any isEscapedControl = false ∧ cs.contains '\'' = false ∧ cs.contains '\n' = false := by
  simp only [StringStyle.of] at h
  split_ifs at h with basic fits
  simpa [and_assoc] using fits

theorem StringStyle.of_eq_multilineLiteral {cs : List Char}
    (h : StringStyle.of cs = multilineLiteral) :
    cs.any isEscapedControl = false ∧ longestRun '\'' 0 cs ≤ 2 := by
  simp only [StringStyle.of] at h
  split_ifs at h with basic literal multiline fits
  simpa using fits

theorem readString_renderString (s : String) {rest : List Char} (h : Delimits rest) :
    readString (renderString s ++ rest) = some (s.toList, rest) := by
  have double : rest.head? ≠ some '"' := h.head?_ne (by decide)
  have single : rest.head? ≠ some '\'' := h.head?_ne (by decide)
  simp only [renderString]
  cases style : StringStyle.of s.toList with
  | basic => exact readString_escaped s.toList double
  | escaped => exact readString_escaped s.toList double
  | multilineBasic => exact readString_multilineEscaped s.toList double
  | multilineEscaped => exact readString_multilineEscaped s.toList double
  | literal =>
    obtain ⟨controls, quote, newline⟩ := StringStyle.of_eq_literal style
    exact readString_literal controls quote newline single
  | multilineLiteral =>
    obtain ⟨controls, few⟩ := StringStyle.of_eq_multilineLiteral style
    exact readString_multilineLiteral controls few single

end Enclosed

end Linting.Toml
