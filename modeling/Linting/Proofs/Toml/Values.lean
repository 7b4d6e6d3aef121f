import Linting.Proofs.Text.Digits
import Linting.Proofs.Toml.Strings

/-! Values are read back from the way they are written, with what stands behind them left over. -/

namespace Linting.Toml

section Numbers

theorem Delimits.not_isDigit {rest : List Char} (h : Delimits rest) :
    ∀ c ∈ rest.head?, c.isDigit = false := by
  intro c hc
  rcases h c hc with rfl | rfl | rfl <;> rfl

theorem readDigits_append {digits rest : List Char} (hne : digits ≠ [])
    (hdigits : ∀ c ∈ digits, c.isDigit = true) (hrest : Delimits rest) {fuel : Nat}
    (h : digits.length ≤ fuel) :
    readDigits Char.isDigit fuel (digits ++ rest) = some (digits, rest) := by
  induction digits generalizing fuel with
  | nil => exact absurd rfl hne
  | cons c digits ih =>
    obtain ⟨fuel, rfl⟩ : ∃ n, fuel = n + 1 := ⟨fuel - 1, by simp at h; omega⟩
    have first := hdigits c List.mem_cons_self
    cases digits with
    | nil =>
      cases rest with
      | nil => simp [readDigits, first]
      | cons d rest => rcases hrest d rfl with rfl | rfl | rfl <;> simp [readDigits, first]
    | cons d digits =>
      have later : ∀ e ∈ d :: digits, e.isDigit = true :=
        fun e he => hdigits e (List.mem_cons_of_mem c he)
      have enough : (d :: digits).length ≤ fuel := by simpa using h
      have more := ih (List.cons_ne_nil d digits) later enough
      have second := later d List.mem_cons_self
      have underscore : d ≠ '_' := by
        rintro rfl
        exact absurd second (by decide)
      rw [List.cons_append] at more
      simp [readDigits, first, second, more]

theorem digitsOf_append {digits rest : List Char} (hne : digits ≠ [])
    (hdigits : ∀ c ∈ digits, c.isDigit = true) (hrest : Delimits rest) :
    digitsOf Char.isDigit (digits ++ rest) = some (digits, rest) :=
  readDigits_append hne hdigits hrest (by simp; omega)

/-- Behind the digits of a number stands nothing that a date or a time would go on with. -/
theorem expect_of_takeDigits? {digits rest : List Char}
    (hdigits : ∀ c ∈ digits, c.isDigit = true) (hrest : Delimits rest) {mark : Char}
    (hmark : mark = '-' ∨ mark = ':') {n : Nat} {field behind : List Char}
    (h : takeDigits? Char.isDigit n (digits ++ rest) = some (field, behind)) :
    expect mark behind = none := by
  simp only [takeDigits?] at h
  split at h
  case isFalse => cases h
  rename_i taken
  obtain ⟨-, rfl⟩ := Prod.mk.inj (Option.some.inj h)
  obtain ⟨length, all⟩ := taken
  have other {c : Char} (hc : c.isDigit = true ∨ c = ',' ∨ c = ']' ∨ c = '\n') : c ≠ mark := by
    rintro rfl
    rcases hmark with rfl | rfl <;> simp at hc
  by_cases short : n ≤ digits.length
  · rw [List.drop_append_of_le_length short]
    cases left : digits.drop n with
    | nil =>
      cases rest with
      | nil => rfl
      | cons d rest => exact if_neg (other (.inr (hrest d rfl)))
    | cons d left =>
      have digit := hdigits d (List.mem_of_mem_drop (left ▸ List.mem_cons_self))
      exact if_neg (other (.inl digit))
  · -- the field would reach beyond the digits
    obtain ⟨m, rfl⟩ : ∃ m, n = digits.length + (m + 1) := ⟨n - digits.length - 1, by omega⟩
    cases rest with
    | nil => simp at length
    | cons d rest =>
      have stop := hrest.not_isDigit d rfl
      rw [List.take_length_add_append] at all
      simp [stop] at all

theorem readField_expect {cs : List Char} {n : Nat} {mark : Char}
    (h : ∀ field behind, takeDigits? Char.isDigit n cs = some (field, behind) →
      expect mark behind = none) (lo hi : Nat) {value : Nat} {behind : List Char}
    (read : readField n lo hi cs = some (value, behind)) : expect mark behind = none := by
  simp only [readField, bind, Option.bind_eq_some_iff] at read
  obtain ⟨⟨field, more⟩, taken, read⟩ := read
  split at read
  · obtain ⟨-, rfl⟩ := Prod.mk.inj (Option.some.inj read)
    exact h field more taken
  · cases read

theorem readDatetime_eq_none {cs : List Char}
    (h : ∀ n, 0 < n → ∀ mark, mark = '-' ∨ mark = ':' → ∀ field behind,
      takeDigits? Char.isDigit n cs = some (field, behind) → expect mark behind = none) :
    readDatetime cs = none := by
  have date : passDate cs = none := by
    cases year : readField 4 0 9999 cs with
    | none => simp [passDate, year]
    | some read =>
      have stop := readField_expect (h 4 (by decide) '-' (.inl rfl)) 0 9999 year
      simp [passDate, year, stop]
  have time : passTime cs = none := by
    cases hour : readField 2 0 23 cs with
    | none => simp [passTime, hour]
    | some read =>
      have stop := readField_expect (h 2 (by decide) ':' (.inr rfl)) 0 23 hour
      simp [passTime, hour, stop]
  simp [readDatetime, date, time]

theorem readDecimal_digits (negative : Bool) (n : Nat) {rest : List Char} (h : Delimits rest) :
    readDecimal (Text.signText negative ++ (Nat.toDigits 10 n ++ rest)) =
      some ((negative, Nat.toDigits 10 n), rest) := by
  rcases Text.toDigits_cases n with ⟨rfl, zero⟩ | ⟨c, cs, digits, nonzero, hdigits⟩
  · cases negative <;> simp [readDecimal, readSign, Text.signText, zero]
  · have first : c ≠ '-' ∧ c ≠ '+' := by
      constructor <;> (rintro rfl; exact absurd (hdigits _ List.mem_cons_self) (by decide))
    have whole := digitsOf_append (List.cons_ne_nil c cs) hdigits h
    rw [List.cons_append] at whole
    rw [digits, List.cons_append]
    cases negative <;> simp [readDecimal, readSign, Text.signText, first, nonzero, whole]

theorem valueOf_toDigits (n : Nat) : valueOf 10 (Nat.toDigits 10 n) = n := by
  have value := Text.foldl_toDigits n
  have same : ∀ (cs : List Char) (m : Nat), (∀ c ∈ cs, c.isDigit = true) →
      cs.foldl (fun m c => m * 10 + digitValue c) m =
        cs.foldl (fun m c => 10 * m + (c.toNat - '0'.toNat)) m := by
    intro cs m hcs
    induction cs generalizing m with
    | nil => rfl
    | cons c cs ih =>
      have digit : digitValue c = c.toNat - '0'.toNat := if_pos (hcs c List.mem_cons_self)
      rw [List.foldl_cons, List.foldl_cons, digit, Nat.mul_comm m]
      exact ih _ fun d hd => hcs d (List.mem_cons_of_mem c hd)
  rw [valueOf, same _ _ fun c hc => Text.isDigit_of_mem_toDigits hc, value]

section Integer

variable {n : Int} {rest : List Char}

theorem readFloat_integer (h : Delimits rest) : readFloat ((toString n).toList ++ rest) = none := by
  have whole := readDecimal_digits (n < 0) n.natAbs h
  have special : readSpecialFloat ((toString n).toList ++ rest) = none := by
    obtain ⟨c, cs, digits, hc⟩ : ∃ c cs, Nat.toDigits 10 n.natAbs = c :: cs ∧ c.isDigit = true := by
      obtain ⟨c, cs, digits⟩ :=
        List.exists_cons_of_ne_nil (Nat.toDigits_ne_nil (n := n.natAbs) (b := 10))
      exact ⟨c, cs, digits, Text.isDigit_of_mem_toDigits (digits ▸ List.mem_cons_self)⟩
    have other : c ≠ '-' ∧ c ≠ '+' ∧ c ≠ 'i' ∧ c ≠ 'n' := by
      refine ⟨?_, ?_, ?_, ?_⟩ <;> (rintro rfl; exact absurd hc (by decide))
    rw [Text.toList_toString_int, digits]
    by_cases negative : n < 0
    · simp [readSpecialFloat, readSign, Text.signText, negative, other]
    · simp [readSpecialFloat, readSign, Text.signText, negative, other]
  rw [← List.append_assoc, ← Text.toList_toString_int] at whole
  generalize (toString n).toList ++ rest = cs at whole special
  cases rest with
  | nil => simp [readFloat, whole, special]
  | cons d rest => rcases h d rfl with rfl | rfl | rfl <;> simp [readFloat, whole, special]

theorem readDatetime_integer (h : Delimits rest) :
    readDatetime ((toString n).toList ++ rest) = none := by
  refine readDatetime_eq_none fun m hm mark hmark field behind taken => ?_
  have digits : ∀ c ∈ Nat.toDigits 10 n.natAbs, c.isDigit = true :=
    fun c hc => Text.isDigit_of_mem_toDigits hc
  rw [Text.toList_toString_int, List.append_assoc] at taken
  by_cases negative : n < 0
  · obtain ⟨m, rfl⟩ : ∃ k, m = k + 1 := ⟨m - 1, by omega⟩
    simp [takeDigits?, Text.signText, negative] at taken
  · simp only [Text.signText, negative, decide_false, Bool.false_eq_true, if_false,
      List.nil_append] at taken
    exact expect_of_takeDigits? digits h hmark taken

theorem readInteger_toString (low : -0x8000000000000000 ≤ n) (high : n < 0x8000000000000000)
    (h : Delimits rest) : readInteger ((toString n).toList ++ rest) = some (.integer n, rest) := by
  have whole := readDecimal_digits (n < 0) n.natAbs h
  have value : integer? (n < 0) n.natAbs = some (.integer n) := by
    by_cases negative : n < 0
    · have magnitude : -(n.natAbs : Int) = n := by omega
      simp only [integer?, negative, decide_true, if_true, magnitude]
      exact if_pos (by omega)
    · have magnitude : (n.natAbs : Int) = n := by omega
      simp only [integer?, negative, decide_false, Bool.false_eq_true, if_false, magnitude]
      exact if_pos (by omega)
  rw [← List.append_assoc, ← Text.toList_toString_int] at whole
  generalize (toString n).toList ++ rest = cs at whole
  -- a letter behind the zero would be left over
  have letter {d : Char} {more : List Char} (hcs : cs = '0' :: d :: more) :
      d ≠ 'x' ∧ d ≠ 'o' ∧ d ≠ 'b' := by
    have zero : readDecimal ('0' :: d :: more) = some ((false, ['0']), d :: more) := rfl
    rw [hcs, zero] at whole
    obtain ⟨-, rfl⟩ := Prod.mk.inj (Option.some.inj whole)
    rcases h d rfl with rfl | rfl | rfl <;> decide
  unfold readInteger
  split
  · exact absurd rfl (letter rfl).1
  · exact absurd rfl (letter rfl).2.1
  · exact absurd rfl (letter rfl).2.2
  · simp [whole, valueOf_toDigits, value]

end Integer

end Numbers

section Written

variable (s : String) (n : Int) (b : Bool) (items : List Value)

theorem renderValue_string : renderValue (.string s) = renderString s := rfl

theorem renderValue_integer : renderValue (.integer n) = (toString n).toList := rfl

theorem renderValue_boolean : renderValue (.boolean b) = (toString b).toList := rfl

theorem renderValue_array :
    renderValue (.array false items) = '[' :: (separate (renderItems items) ++ [']']) := rfl

end Written

/-- The values that are written so that they are read back: strings, booleans, numbers of 64 bits,
and arrays of them up to a depth. -/
inductive Writable : Nat → Value → Prop
  | string {depth : Nat} (s : String) : Writable depth (.string s)
  | integer {depth : Nat} {n : Int} (low : -0x8000000000000000 ≤ n)
      (high : n < 0x8000000000000000) : Writable depth (.integer n)
  | boolean {depth : Nat} (b : Bool) : Writable depth (.boolean b)
  | array {depth : Nat} {items : List Value} (h : ∀ item ∈ items, Writable depth item) :
      Writable (depth + 1) (.array false items)

/-- Characters that a value may start with, as far as blanks, comments and the end of an array
matter. -/
def startsValue (c : Char) : Bool := !isBlank c && !(['#', '\n', '\r', ']'].contains c)

/-- The value is read back from its text, with fuel for every character of it. -/
structure ReadsBack (depth : Nat) (v : Value) : Prop where
  head : ∃ c cs, renderValue v = c :: cs ∧ startsValue c = true
  read : ∀ fuel limit rest, (renderValue v).length ≤ fuel → depth ≤ limit → Delimits rest →
    readValue (fuel + 1) limit (renderValue v ++ rest) = some (v, rest)

theorem ReadsBack.reads {depth : Nat} {v : Value} (h : ReadsBack depth v) {fuel limit : Nat}
    (hfuel : (renderValue v).length < fuel) (hlimit : depth ≤ limit) {rest : List Char}
    (hrest : Delimits rest) : readValue fuel limit (renderValue v ++ rest) = some (v, rest) := by
  obtain ⟨fuel, rfl⟩ : ∃ n, fuel = n + 1 := ⟨fuel - 1, by omega⟩
  exact h.read fuel limit rest (by omega) hlimit hrest

theorem ne_bracket_of_startsValue {c : Char} (h : startsValue c = true) : c ≠ ']' := by
  rintro rfl
  exact absurd h (by decide)

theorem dropSpace_of_startsValue {c : Char} (h : startsValue c = true) (fuel : Nat)
    (cs : List Char) : dropSpace fuel (c :: cs) = c :: cs := by
  have first : isBlank c = false ∧ c ≠ '#' ∧ c ≠ '\n' ∧ c ≠ '\r' := by
    simp [startsValue] at h
    simp [h]
  cases fuel with
  | zero => rfl
  | succ fuel => simp [dropSpace, dropComment, dropBlanks, readNewline?, first]

theorem dropSpace_blank (fuel : Nat) (cs : List Char) :
    dropSpace (fuel + 1) (' ' :: cs) = dropSpace (fuel + 1) cs := by
  have blanks : dropBlanks (' ' :: cs) = dropBlanks cs := rfl
  simp [dropSpace, dropComment, blanks]

/-- An item may have a blank in front of it. -/
theorem ReadsBack.dropSpace_eq {depth : Nat} {v : Value} (h : ReadsBack depth v)
    {lead : List Char} (hlead : lead = [] ∨ lead = [' ']) (fuel : Nat) (rest : List Char) :
    dropSpace (fuel + 1) (lead ++ (renderValue v ++ rest)) = renderValue v ++ rest := by
  obtain ⟨c, cs, text, first⟩ := h.head
  rw [text, List.cons_append]
  rcases hlead with rfl | rfl
  · exact dropSpace_of_startsValue first (fuel + 1) (cs ++ rest)
  · rw [List.singleton_append, dropSpace_blank]
    exact dropSpace_of_startsValue first (fuel + 1) (cs ++ rest)

section Items

variable {depth limit : Nat} {v : Value} {lead : List Char}

theorem readItems_last (h : ReadsBack depth v) (hlimit : depth ≤ limit)
    (hlead : lead = [] ∨ lead = [' ']) {fuel : Nat} (hfuel : (renderValue v).length < fuel)
    (rest : List Char) :
    readItems (fuel + 1) limit (lead ++ (renderValue v ++ ']' :: rest)) = some ([v], rest) := by
  have item := h.reads hfuel hlimit (delimits_bracket rest)
  have close (n : Nat) : dropSpace (n + 1) (']' :: rest) = ']' :: rest := rfl
  obtain ⟨c, cs, text, first⟩ := h.head
  have other := ne_bracket_of_startsValue first
  rw [readItems, h.dropSpace_eq hlead]
  rw [text, List.cons_append] at item ⊢
  simp [item, close, other]

theorem readItems_comma (h : ReadsBack depth v) (hlimit : depth ≤ limit)
    (hlead : lead = [] ∨ lead = [' ']) {fuel : Nat} (hfuel : (renderValue v).length < fuel)
    {rest : List Char} {more : List Value × List Char}
    (hmore : readItems fuel limit rest = some more) :
    readItems (fuel + 1) limit (lead ++ (renderValue v ++ ',' :: rest)) =
      some (v :: more.1, more.2) := by
  have item := h.reads hfuel hlimit (delimits_comma rest)
  have comma (n : Nat) : dropSpace (n + 1) (',' :: rest) = ',' :: rest := rfl
  obtain ⟨c, cs, text, first⟩ := h.head
  have other := ne_bracket_of_startsValue first
  rw [readItems, h.dropSpace_eq hlead]
  rw [text, List.cons_append] at item ⊢
  simp [item, comma, other, hmore]

theorem readItems_render {first : Value} {items : List Value}
    (h : ∀ item ∈ first :: items, ReadsBack depth item) (hlimit : depth ≤ limit)
    (hlead : lead = [] ∨ lead = [' ']) {fuel : Nat}
    (hfuel : (separate (renderItems (first :: items))).length < fuel) (rest : List Char) :
    readItems (fuel + 1) limit (lead ++ (separate (renderItems (first :: items)) ++ ']' :: rest)) =
      some (first :: items, rest) := by
  have reads := h first List.mem_cons_self
  induction items generalizing first fuel lead with
  | nil => exact readItems_last reads hlimit hlead hfuel rest
  | cons next items ih =>
    have text : separate (renderItems (first :: next :: items)) =
        renderValue first ++ ',' :: ([' '] ++ separate (renderItems (next :: items))) := rfl
    rw [text, List.length_append, List.length_cons, List.length_append] at hfuel
    obtain ⟨fuel, rfl⟩ : ∃ n, fuel = n + 1 := ⟨fuel - 1, by omega⟩
    have later : ∀ item ∈ next :: items, ReadsBack depth item :=
      fun item hitem => h item (List.mem_cons_of_mem first hitem)
    have left : (separate (renderItems (next :: items))).length < fuel := by omega
    have more := ih later (.inr rfl) left (later next List.mem_cons_self)
    rw [text, List.append_assoc, List.cons_append, List.append_assoc]
    exact readItems_comma reads hlimit hlead (by omega) more

end Items

theorem readsBack_string (depth : Nat) (s : String) : ReadsBack depth (.string s) := by
  obtain ⟨c, cs, start, quote⟩ : ∃ c cs, renderString s = c :: cs ∧ (c = '"' ∨ c = '\'') := by
    simp only [renderString]
    cases StringStyle.of s.toList
    all_goals exact ⟨_, _, rfl, by decide⟩
  constructor
  · exact ⟨c, cs, (renderValue_string s).trans start, by rcases quote with rfl | rfl <;> rfl⟩
  · intro fuel limit rest _ _ h
    have read := readString_renderString s h
    rw [start, List.cons_append] at read
    rw [renderValue_string, start, List.cons_append]
    rcases quote with rfl | rfl <;> simp [readValue, read]

theorem readsBack_boolean (depth : Nat) (b : Bool) : ReadsBack depth (.boolean b) := by
  obtain ⟨c, cs, text, letter⟩ : ∃ c cs, renderValue (.boolean b) = c :: cs ∧
      (c = 't' ∨ c = 'f') := by
    rw [renderValue_boolean]
    cases b
    · exact ⟨'f', "alse".toList, rfl, .inr rfl⟩
    · exact ⟨'t', "rue".toList, rfl, .inl rfl⟩
  constructor
  · exact ⟨c, cs, text, by rcases letter with rfl | rfl <;> rfl⟩
  · intro fuel limit rest _ _ _
    have read : readPlain (renderValue (.boolean b) ++ rest) = some (.boolean b, rest) := by
      rw [renderValue_boolean]
      cases b <;> rfl
    rw [text, List.cons_append] at read ⊢
    rcases letter with rfl | rfl <;> simp [readValue, read]

theorem readValue_number {c : Char} (h : c.isDigit = true ∨ c = '-') (fuel limit : Nat)
    (cs : List Char) :
    readValue (fuel + 1) limit (c :: cs) =
      ((readDatetime (c :: cs)).orElse fun _ => readFloat (c :: cs)).orElse
        fun _ => readInteger (c :: cs) := by
  have other (d : Char) (hd : d.isDigit = false ∧ d ≠ '-') : c ≠ d :=
    Text.ne_of_startsInteger h hd
  have marks := And.intro (other '[' (by decide)) (And.intro (other '\x7b' (by decide))
    (And.intro (other '"' (by decide)) (other '\'' (by decide))))
  have letters := And.intro (other 't' (by decide)) (other 'f' (by decide))
  simp [readValue, readPlain, marks, letters]

theorem readsBack_integer (depth : Nat) {n : Int} (low : -0x8000000000000000 ≤ n)
    (high : n < 0x8000000000000000) : ReadsBack depth (.integer n) := by
  obtain ⟨c, cs, digits, start⟩ := Text.head_toString_int n
  constructor
  · refine ⟨c, cs, (renderValue_integer n).trans digits, ?_⟩
    have other : c ≠ ' ' ∧ c ≠ '\t' ∧ c ≠ '#' ∧ c ≠ '\n' ∧ c ≠ '\r' ∧ c ≠ ']' := by
      refine ⟨?_, ?_, ?_, ?_, ?_, ?_⟩ <;> (rintro rfl; simp at start)
    simp [startsValue, isBlank, other]
  · intro fuel limit rest _ _ h
    have date := readDatetime_integer (n := n) h
    have float := readFloat_integer (n := n) h
    have integer := readInteger_toString low high h
    rw [digits, List.cons_append] at date float integer
    rw [renderValue_integer, digits, List.cons_append, readValue_number start, date, float, integer]
    rfl

theorem readsBack_array {depth : Nat} {items : List Value}
    (h : ∀ item ∈ items, ReadsBack depth item) : ReadsBack (depth + 1) (.array false items) := by
  constructor
  · exact ⟨'[', _, renderValue_array items, rfl⟩
  · intro fuel limit rest hfuel hlimit _
    obtain ⟨limit, rfl⟩ : ∃ n, limit = n + 1 := ⟨limit - 1, by omega⟩
    rw [renderValue_array, List.length_cons, List.length_append, List.length_singleton] at hfuel
    obtain ⟨fuel, rfl⟩ : ∃ n, fuel = n + 1 := ⟨fuel - 1, by omega⟩
    have inside : readItems (fuel + 1) limit (separate (renderItems items) ++ ']' :: rest) =
        some (items, rest) := by
      cases items with
      | nil =>
        rw [readItems]
        rfl
      | cons first items => exact readItems_render h (by omega) (.inl rfl) (by omega) rest
    rw [renderValue_array, List.cons_append, List.append_assoc, List.singleton_append]
    simp [readValue, inside]

theorem Writable.readsBack {depth : Nat} {v : Value} (h : Writable depth v) :
    ReadsBack depth v := by
  induction h with
  | string s => exact readsBack_string _ s
  | integer low high => exact readsBack_integer _ low high
  | boolean b => exact readsBack_boolean _ b
  | array _ ih => exact readsBack_array ih

end Linting.Toml
