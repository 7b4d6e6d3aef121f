import Linting.Proofs.Json.Scalars

/-! Reading back what was written. The text of a value determines it, whatever strings it holds and
however deep it is; only floats and integers beyond a machine word are left out. -/

namespace Linting.Json

section Written

variable (n : Int) (b : Bool) (s : String) (items : List Json) (fields : List (String × Json))

theorem renderChars_null : renderChars .null = "null".toList := rfl

theorem renderChars_boolean :
    renderChars (.boolean b) = if b then "true".toList else "false".toList := by
  cases b <;> rfl

theorem renderChars_integer : renderChars (.integer n) = (toString n).toList := rfl

theorem renderChars_string : renderChars (.string s) = renderString s := rfl

theorem renderChars_array :
    renderChars (.array items) = '[' :: separate (renderItems items) ++ [']'] := rfl

theorem renderChars_object :
    renderChars (.object fields) = '\x7b' :: separate (renderFields fields) ++ ['\x7d'] := rfl

end Written

/-- Values whose text says all there is to know of them. -/
inductive Exact : Json → Prop
  | null : Exact .null
  | boolean (b : Bool) : Exact (.boolean b)
  | integer {n : Int} (low : -0x8000000000000000 ≤ n) (high : n ≤ 0xFFFFFFFFFFFFFFFF) :
      Exact (.integer n)
  | string (s : String) : Exact (.string s)
  | array {items : List Json} (h : ∀ item ∈ items, Exact item) : Exact (.array items)
  | object {fields : List (String × Json)} (h : ∀ field ∈ fields, Exact field.2) :
      Exact (.object fields)

/-- The value is read back from its text, with fuel for every character of it. -/
def ReadsBack (j : Json) : Prop :=
  ∀ fuel rest, j.renderChars.length < fuel → Delimits rest →
    readValue fuel (j.renderChars ++ rest) = some (j, rest)

/-- No value starts with white space or with what closes an array. -/
theorem head_of_readValue {fuel : Nat} {c : Char} {cs rest : List Char} {j : Json}
    (h : readValue fuel (c :: cs) = some (j, rest)) : isSpace c = false ∧ c ≠ ']' := by
  cases fuel with
  | zero => cases h
  | succ fuel =>
    constructor
    · by_contra space
      simp only [isSpace, Bool.not_eq_false, Bool.or_eq_true, decide_eq_true_eq] at space
      rcases space with ((rfl | rfl) | rfl) | rfl <;> cases h
    · rintro rfl
      cases h

theorem ReadsBack.head {j : Json} (h : ReadsBack j) :
    ∃ c cs, j.renderChars = c :: cs ∧ isSpace c = false ∧ c ≠ ']' := by
  have read := h _ [] (Nat.lt_succ_self _) delimits_nil
  cases text : j.renderChars with
  | nil =>
    rw [text] at read
    cases read
  | cons c cs =>
    rw [text] at read
    exact ⟨c, cs, rfl, head_of_readValue read⟩

theorem ReadsBack.dropSpace_eq {j : Json} (h : ReadsBack j) (rest : List Char) :
    dropSpace (j.renderChars ++ rest) = j.renderChars ++ rest := by
  obtain ⟨c, cs, text, space, _⟩ := h.head
  rw [text, List.cons_append, dropSpace, List.dropWhile_cons, space, if_neg Bool.false_ne_true]

theorem Delimits.dropSpace_eq {rest : List Char} (h : Delimits rest) : dropSpace rest = rest := by
  cases rest with
  | nil => rfl
  | cons c rest => rcases h c rfl with rfl | rfl | rfl <;> rfl

theorem readItems_last {j : Json} (h : ReadsBack j) {fuel : Nat}
    (hfuel : j.renderChars.length < fuel) (rest : List Char) :
    readItems (fuel + 1) (j.renderChars ++ ']' :: rest) = some ([j], rest) := by
  have close := delimits_bracket rest
  have item := h fuel _ hfuel close
  simp only [readItems, h.dropSpace_eq, item, bind, Option.bind, close.dropSpace_eq]

theorem readItems_comma {j : Json} (h : ReadsBack j) {fuel : Nat}
    (hfuel : j.renderChars.length < fuel) {rest : List Char} {more : List Json × List Char}
    (hmore : readItems fuel rest = some more) :
    readItems (fuel + 1) (j.renderChars ++ ',' :: rest) = some (j :: more.1, more.2) := by
  have comma := delimits_comma rest
  have item := h fuel _ hfuel comma
  simp only [readItems, h.dropSpace_eq, item, bind, Option.bind, comma.dropSpace_eq, hmore]

theorem renderString_append (s : String) (rest : List Char) :
    renderString s ++ rest = '"' :: (s.toList.flatMap escape ++ '"' :: rest) := by
  simp [renderString]

/-- The text of a field. -/
def fieldText (name : String) (j : Json) : List Char := renderString name ++ ':' :: j.renderChars

theorem readFields_last {j : Json} (h : ReadsBack j) (name : String) {fuel : Nat}
    (hfuel : (fieldText name j).length < fuel) (rest : List Char) :
    readFields (fuel + 1) (fieldText name j ++ '\x7d' :: rest) = some ([(name, j)], rest) := by
  rw [fieldText, List.length_append, List.length_cons] at hfuel
  have close := delimits_brace rest
  have value := h fuel _ (by omega) close
  have quote (cs : List Char) : dropSpace ('"' :: cs) = '"' :: cs := rfl
  have colon (cs : List Char) : dropSpace (':' :: cs) = ':' :: cs := rfl
  rw [fieldText, List.append_assoc, List.cons_append, renderString_append]
  simp only [readFields, quote, readString_renderString, colon, bind, Option.bind,
    h.dropSpace_eq, value, close.dropSpace_eq, String.ofList_toList]

theorem readFields_comma {j : Json} (h : ReadsBack j) (name : String) {fuel : Nat}
    (hfuel : (fieldText name j).length < fuel) {rest : List Char}
    {more : List (String × Json) × List Char} (hmore : readFields fuel rest = some more) :
    readFields (fuel + 1) (fieldText name j ++ ',' :: rest) =
      some ((name, j) :: more.1, more.2) := by
  rw [fieldText, List.length_append, List.length_cons] at hfuel
  have comma := delimits_comma rest
  have value := h fuel _ (by omega) comma
  have quote (cs : List Char) : dropSpace ('"' :: cs) = '"' :: cs := rfl
  have colon (cs : List Char) : dropSpace (':' :: cs) = ':' :: cs := rfl
  rw [fieldText, List.append_assoc, List.cons_append, renderString_append]
  simp only [readFields, quote, readString_renderString, colon, bind, Option.bind,
    h.dropSpace_eq, value, comma.dropSpace_eq, String.ofList_toList, hmore]

theorem readItems_render {first : Json} {items : List Json}
    (h : ∀ item ∈ first :: items, ReadsBack item) {fuel : Nat}
    (hfuel : (separate (renderItems (first :: items))).length < fuel) (rest : List Char) :
    readItems (fuel + 1) (separate (renderItems (first :: items)) ++ ']' :: rest) =
      some (first :: items, rest) := by
  have reads := h first List.mem_cons_self
  induction items generalizing first fuel with
  | nil => exact readItems_last reads hfuel rest
  | cons next items ih =>
    have text : separate (renderItems (first :: next :: items)) =
        first.renderChars ++ ',' :: separate (renderItems (next :: items)) := rfl
    rw [text, List.length_append, List.length_cons] at hfuel
    obtain ⟨fuel, rfl⟩ : ∃ n, fuel = n + 1 := ⟨fuel - 1, by omega⟩
    have later : ∀ item ∈ next :: items, ReadsBack item :=
      fun item hitem => h item (List.mem_cons_of_mem first hitem)
    have left : (separate (renderItems (next :: items))).length < fuel := by omega
    have more := ih later left (later next List.mem_cons_self)
    rw [text, List.append_assoc, List.cons_append]
    exact readItems_comma reads (by omega) more

theorem readFields_render {first : String × Json} {fields : List (String × Json)}
    (h : ∀ field ∈ first :: fields, ReadsBack field.2) {fuel : Nat}
    (hfuel : (separate (renderFields (first :: fields))).length < fuel) (rest : List Char) :
    readFields (fuel + 1) (separate (renderFields (first :: fields)) ++ '\x7d' :: rest) =
      some (first :: fields, rest) := by
  have reads := h first List.mem_cons_self
  induction fields generalizing first fuel with
  | nil => exact readFields_last reads first.1 hfuel rest
  | cons next fields ih =>
    have text : separate (renderFields (first :: next :: fields)) =
        fieldText first.1 first.2 ++ ',' :: separate (renderFields (next :: fields)) := rfl
    rw [text, List.length_append, List.length_cons] at hfuel
    obtain ⟨fuel, rfl⟩ : ∃ n, fuel = n + 1 := ⟨fuel - 1, by omega⟩
    have later : ∀ field ∈ next :: fields, ReadsBack field.2 :=
      fun field hfield => h field (List.mem_cons_of_mem first hfield)
    have left : (separate (renderFields (next :: fields))).length < fuel := by omega
    have more := ih later left (later next List.mem_cons_self)
    rw [text, List.append_assoc, List.cons_append]
    exact readFields_comma reads first.1 (by omega) more

theorem readValue_array {c : Char} (space : isSpace c = false) (close : c ≠ ']') {fuel : Nat}
    {cs : List Char} {items : List Json × List Char} (h : readItems fuel (c :: cs) = some items) :
    readValue (fuel + 1) ('[' :: c :: cs) = some (.array items.1, items.2) := by
  have start : dropSpace (c :: cs) = c :: cs := by simp [dropSpace, space]
  simp [readValue, start, close, h]

theorem readValue_object {fuel : Nat} {cs : List Char}
    {fields : List (String × Json) × List Char} (h : readFields fuel ('"' :: cs) = some fields) :
    readValue (fuel + 1) ('\x7b' :: '"' :: cs) = some (.object fields.1, fields.2) := by
  have start : dropSpace ('"' :: cs) = '"' :: cs := rfl
  simp [readValue, start, h]

theorem readValue_number {c : Char} (h : c.isDigit = true ∨ c = '-') (fuel : Nat)
    (cs : List Char) : readValue (fuel + 1) (c :: cs) = readNumber (c :: cs) := by
  have other (d : Char) (hd : d.isDigit = false ∧ d ≠ '-') : c ≠ d :=
    Text.ne_of_startsInteger h hd
  have letters := And.intro (other 'n' (by decide)) (And.intro (other 't' (by decide))
    (other 'f' (by decide)))
  have marks := And.intro (other '"' (by decide)) (And.intro (other '[' (by decide))
    (other '\x7b' (by decide)))
  simp [readValue, letters, marks]

/-- Reading a value takes fuel, so there is a step to unfold. -/
theorem ReadsBack.of_step {j : Json} (h : ∀ fuel rest, j.renderChars.length ≤ fuel →
    Delimits rest → readValue (fuel + 1) (j.renderChars ++ rest) = some (j, rest)) :
    ReadsBack j := by
  intro fuel rest hfuel hrest
  obtain ⟨fuel, rfl⟩ : ∃ n, fuel = n + 1 := ⟨fuel - 1, by omega⟩
  exact h fuel rest (by omega) hrest

theorem readsBack_integer {n : Int} (low : -0x8000000000000000 ≤ n)
    (high : n ≤ 0xFFFFFFFFFFFFFFFF) : ReadsBack (.integer n) := by
  refine .of_step fun fuel rest _ hrest => ?_
  obtain ⟨c, cs, text, start⟩ := Text.head_toString_int n
  have number := readNumber_integer low high hrest
  rw [text, List.cons_append] at number
  rw [renderChars_integer, text, List.cons_append, readValue_number start, number]

theorem readsBack_string (s : String) : ReadsBack (.string s) := by
  refine .of_step fun fuel rest _ _ => ?_
  rw [renderChars_string, renderString_append]
  simp only [readValue, readString_renderString, bind, Option.bind, String.ofList_toList]

theorem readsBack_array {items : List Json} (h : ∀ item ∈ items, ReadsBack item) :
    ReadsBack (.array items) := by
  refine .of_step fun fuel rest hfuel _ => ?_
  cases items with
  | nil => rfl
  | cons first items =>
    rw [renderChars_array, List.length_append, List.length_cons, List.length_singleton] at hfuel
    obtain ⟨fuel, rfl⟩ : ∃ n, fuel = n + 1 := ⟨fuel - 1, by omega⟩
    have enough : (separate (renderItems (first :: items))).length < fuel := by omega
    have inside := readItems_render h enough rest
    -- the first item starts the text, with neither white space nor a closing bracket
    obtain ⟨c, cs, text, space, close⟩ := (h first List.mem_cons_self).head
    obtain ⟨tail, start⟩ : ∃ tail, separate (renderItems (first :: items)) = c :: tail := by
      cases items with
      | nil => exact ⟨cs, text⟩
      | cons next items => exact ⟨cs ++ _, congrArg (· ++ _) text⟩
    rw [start, List.cons_append] at inside
    rw [renderChars_array, start, List.append_assoc, List.cons_append, List.cons_append]
    exact readValue_array space close inside

theorem readsBack_object {fields : List (String × Json)}
    (h : ∀ field ∈ fields, ReadsBack field.2) : ReadsBack (.object fields) := by
  refine .of_step fun fuel rest hfuel _ => ?_
  cases fields with
  | nil => rfl
  | cons first fields =>
    rw [renderChars_object, List.length_append, List.length_cons, List.length_singleton] at hfuel
    obtain ⟨fuel, rfl⟩ : ∃ n, fuel = n + 1 := ⟨fuel - 1, by omega⟩
    have enough : (separate (renderFields (first :: fields))).length < fuel := by omega
    have inside := readFields_render h enough rest
    -- the text starts with the quote of the first name
    obtain ⟨tail, start⟩ : ∃ tail, separate (renderFields (first :: fields)) = '"' :: tail := by
      cases fields <;> exact ⟨_, rfl⟩
    rw [start, List.cons_append] at inside
    rw [renderChars_object, start, List.append_assoc, List.cons_append, List.cons_append]
    exact readValue_object inside

theorem Exact.readsBack {j : Json} (h : Exact j) : ReadsBack j := by
  induction h with
  | null => exact .of_step fun _ _ _ _ => rfl
  | boolean b => exact .of_step fun _ _ _ _ => by cases b <;> rfl
  | integer low high => exact readsBack_integer low high
  | string s => exact readsBack_string s
  | array _ ih => exact readsBack_array ih
  | object _ ih => exact readsBack_object ih

/-- Whatever strings a value holds, its text is read as that value. -/
theorem parse?_render {j : Json} (h : Exact j) : parse? j.render = some j := by
  have read := h.readsBack (j.renderChars.length + 1) [] (Nat.lt_succ_self _) delimits_nil
  have start := h.readsBack.dropSpace_eq []
  rw [List.append_nil] at read start
  simp only [parse?, render, String.toList_ofList, start, read, bind, Option.bind]
  rfl

end Linting.Json
