import Linting.Proofs.Json.RoundTrip
import Linting.Report.Jsonl

/-! Texts with a JSON value on each line. A newline inside a value is written as an escape, so the
lines are the values, one by one. -/

namespace Linting

/-- A text of one line for each record. Every line is ended, and read as its record. -/
def IsLinesOf {α : Type} (read? : List Char → Option α) (text : String) (records : List α) : Prop :=
  ∃ lines : List (List Char), text.toList = lines.flatMap (· ++ ['\n']) ∧
    (∀ line ∈ lines, '\n' ∉ line) ∧ lines.map read? = records.map some

theorem IsLinesOf.count_newline {α : Type} {read? : List Char → Option α} {text : String}
    {records : List α} (h : IsLinesOf read? text records) :
    text.toList.count '\n' = records.length := by
  obtain ⟨lines, htext, hlines, hread⟩ := h
  have lengths : lines.length = records.length := by
    simpa using congrArg List.length hread
  rw [htext, ← lengths]
  clear htext hread lengths
  induction lines with
  | nil => rfl
  | cons line lines ih =>
    have free : line.count '\n' = 0 := List.count_eq_zero.mpr (hlines line List.mem_cons_self)
    have rest := ih fun l hl => hlines l (List.mem_cons_of_mem line hl)
    simp [free, rest]

namespace Json

theorem hexDigit_printed : ∀ n < 16, 0x20 ≤ (hexDigit n).toNat := by
  decide

theorem escape_printed (c : Char) : ∀ d ∈ escape c, 0x20 ≤ d.toNat := by
  unfold escape
  split
  case h_8 =>
    split
    · have high := hexDigit_printed (c.toNat / 16) (by omega)
      have low := hexDigit_printed (c.toNat % 16) (by omega)
      simp [high, low]
    · simp
      omega
  all_goals simp

theorem renderString_printed (s : String) : ∀ c ∈ renderString s, 0x20 ≤ c.toNat := by
  intro c hc
  simp only [renderString, List.cons_append, List.mem_cons, List.mem_append, List.mem_flatMap,
    List.not_mem_nil, or_false] at hc
  rcases hc with rfl | ⟨d, _, hd⟩ | rfl
  · decide
  · exact escape_printed d c hd
  · decide

theorem integer_printed (n : Int) : ∀ c ∈ (toString n).toList, 0x20 ≤ c.toNat := by
  intro c hc
  rw [Text.toList_toString_int, List.mem_append] at hc
  rcases hc with hc | hc
  · unfold Text.signText at hc
    split at hc
    · obtain rfl := List.mem_singleton.mp hc
      decide
    · cases hc
  · have digit := Text.isDigit_of_mem_toDigits hc
    simp only [Char.isDigit, Bool.and_eq_true, decide_eq_true_eq] at digit
    have low : '0'.toNat ≤ c.toNat := digit.1
    exact Nat.le_trans (by decide) low

theorem mem_separate {c : Char} {texts : List (List Char)} (h : c ∈ separate texts) :
    c = ',' ∨ ∃ text ∈ texts, c ∈ text := by
  induction texts with
  | nil => simp [separate] at h
  | cons text rest ih =>
    cases rest with
    | nil => exact .inr ⟨text, List.mem_singleton_self text, h⟩
    | cons next rest =>
      simp only [separate, List.mem_append, List.mem_cons] at h
      rcases h with h | rfl | h
      · exact .inr ⟨text, List.mem_cons_self, h⟩
      · exact .inl rfl
      · refine (ih h).imp_right ?_
        rintro ⟨t, ht, hc⟩
        exact ⟨t, List.mem_cons_of_mem text ht, hc⟩

theorem renderItems_eq_map (items : List Json) : renderItems items = items.map renderChars := by
  induction items with
  | nil => rfl
  | cons item items ih => rw [renderItems, ih, List.map_cons]

theorem renderFields_eq_map (fields : List (String × Json)) :
    renderFields fields = fields.map fun field => fieldText field.1 field.2 := by
  induction fields with
  | nil => rfl
  | cons field fields ih => rw [renderFields, ih, List.map_cons, fieldText]

/-- The text of a compound: its parts between brackets. -/
theorem compound_printed {first last : Char} (hfirst : 0x20 ≤ first.toNat)
    (hlast : 0x20 ≤ last.toNat) {texts : List (List Char)}
    (h : ∀ text ∈ texts, ∀ c ∈ text, 0x20 ≤ c.toNat) :
    ∀ c ∈ first :: separate texts ++ [last], 0x20 ≤ c.toNat := by
  intro c hc
  simp only [List.cons_append, List.mem_cons, List.mem_append, List.not_mem_nil, or_false] at hc
  rcases hc with rfl | hc | rfl
  · exact hfirst
  · rcases mem_separate hc with rfl | ⟨text, htext, hc⟩
    · decide
    · exact h text htext c hc
  · exact hlast

/-- Control characters stand in the text as escapes only. -/
theorem Exact.printed {j : Json} (h : Exact j) : ∀ c ∈ j.renderChars, 0x20 ≤ c.toNat := by
  induction h with
  | null => simp [renderChars_null]
  | boolean b =>
    rw [renderChars_boolean]
    cases b <;> simp
  | @integer n _ _ => exact integer_printed n
  | string s => exact renderString_printed s
  | @array items _ ih =>
    rw [renderChars_array, renderItems_eq_map]
    refine compound_printed (by decide) (by decide) ?_
    intro text htext
    obtain ⟨item, hitem, rfl⟩ := List.mem_map.mp htext
    exact ih item hitem
  | @object fields _ ih =>
    rw [renderChars_object, renderFields_eq_map]
    refine compound_printed (by decide) (by decide) ?_
    intro text htext c hc
    obtain ⟨field, hfield, rfl⟩ := List.mem_map.mp htext
    simp only [fieldText, List.mem_append, List.mem_cons] at hc
    rcases hc with hc | rfl | hc
    · exact renderString_printed field.1 c hc
    · decide
    · exact ih field hfield c hc

theorem Exact.newline_not_mem {j : Json} (h : Exact j) : '\n' ∉ j.renderChars := fun newline =>
  absurd (h.printed '\n' newline) (by decide)

/-- Objects written one behind the other are lines, whatever their strings hold. -/
theorem isLinesOf_join {α : Type} {decode? : Json → Option α}
    {objects : List (List (String × Json))} {records : List α}
    (exact : ∀ fields ∈ objects, Exact (.object fields))
    (decoded : objects.map (fun fields => decode? (.object fields)) = records.map some) :
    IsLinesOf (fun line => (parse? (String.ofList line)).bind decode?)
      (String.join (objects.map Json.line)) records := by
  refine ⟨objects.map fun fields => (Json.object fields).renderChars, ?_, ?_, ?_⟩
  · rw [String.toList_join, List.flatMap_map, List.flatMap_map]
    refine List.flatMap_congr fun fields _ => ?_
    rw [Json.line, String.toList_append, render, String.toList_ofList]
    rfl
  · intro line hline
    obtain ⟨fields, hfields, rfl⟩ := List.mem_map.mp hline
    exact (exact fields hfields).newline_not_mem
  · rw [← decoded, List.map_map]
    refine List.map_congr_left fun fields hfields => ?_
    have read := parse?_render (exact fields hfields)
    rw [render] at read
    simp only [Function.comp_apply, read, Option.bind_some]

end Json

end Linting
