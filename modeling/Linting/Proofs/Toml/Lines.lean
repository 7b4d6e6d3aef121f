import Linting.Proofs.Toml.Values

/-! The lines of a document, each read for itself: a header opens a table, and the lines below it
add entries to that table. -/

namespace Linting.Toml

section Keys

theorem isBareKeyChar_of_mem {key : String} (h : isBareKey key = true) :
    ∀ c ∈ key.toList, isBareKeyChar c = true := by
  intro c hc
  rw [isBareKey, Bool.and_eq_true] at h
  exact List.all_eq_true.mp h.2 c hc

theorem head_of_isBareKey {key : String} (h : isBareKey key = true) :
    ∃ c cs, key.toList = c :: cs ∧ isBareKeyChar c = true := by
  have chars := isBareKeyChar_of_mem h
  cases text : key.toList with
  | nil => simp [isBareKey, text] at h
  | cons c cs => exact ⟨c, cs, rfl, chars c (text ▸ List.mem_cons_self)⟩

/-- A bare key is no blank, no newline and nothing that opens a comment, a string or a header. -/
theorem ne_of_isBareKeyChar {c d : Char} (h : isBareKeyChar c = true)
    (hd : d ∈ [' ', '\t', '\n', '\r', '#', '[', '"', '\'', '.', '=', ']']) : c ≠ d := by
  rintro rfl
  have other : ∀ d ∈ [' ', '\t', '\n', '\r', '#', '[', '"', '\'', '.', '=', ']'],
      isBareKeyChar d = false := by simp [isBareKeyChar]
  rw [other c hd] at h
  cases h

theorem dropBlanks_bareKey {key : String} (h : isBareKey key = true) (rest : List Char) :
    dropBlanks (key.toList ++ rest) = key.toList ++ rest := by
  obtain ⟨c, cs, text, bare⟩ := head_of_isBareKey h
  have space := ne_of_isBareKeyChar bare (d := ' ') (by decide)
  have tab := ne_of_isBareKeyChar bare (d := '\t') (by decide)
  simp [text, dropBlanks, isBlank, space, tab]

/-- A bare key is read up to the first character that is none of its own. -/
theorem readKey_bareKey {key : String} (h : isBareKey key = true) (fuel : Nat) {rest : List Char}
    (stop : ∀ c ∈ rest.head?, isBareKeyChar c = false) (dot : (dropBlanks rest).head? ≠ some '.') :
    readKey (fuel + 1) (key.toList ++ rest) = some ([key], dropBlanks rest) := by
  have chars := isBareKeyChar_of_mem h
  obtain ⟨c, cs, text, bare⟩ := head_of_isBareKey h
  have part : readKeyPart (key.toList ++ rest) = some (key, rest) := by
    have double := ne_of_isBareKeyChar bare (d := '"') (by decide)
    have single := ne_of_isBareKeyChar bare (d := '\'') (by decide)
    obtain ⟨whole, behind⟩ := Text.takeWhile_append_of_stop chars stop
    have same : String.ofList (c :: cs) = key := by rw [← text, String.ofList_toList]
    rw [text] at whole behind ⊢
    rw [List.cons_append, readKeyPart, ← List.cons_append, whole, behind, same]
    · rfl
    · exact fun _ start => double (List.cons.inj start).1
    · exact fun _ start => single (List.cons.inj start).1
  rw [readKey, dropBlanks_bareKey h]
  simp only [part, bind, Option.bind]
  split
  · rename_i more
    rw [more] at dot
    exact absurd rfl dot
  · rfl

end Keys

section Entry

variable {key : String} {v : Value}

/-- The line of an entry. -/
def entryLine (key : String) (v : Value) : List Char :=
  renderKey key ++ " = ".toList ++ renderValue v ++ ['\n']

theorem readPair_entryLine (bare : isBareKey key = true) {depth : Nat} (h : ReadsBack depth v)
    {limit : Nat} (hlimit : depth ≤ limit) {fuel : Nat}
    (hfuel : (renderValue v).length < fuel) (rest : List Char) :
    readPair (fuel + 1) limit (entryLine key v ++ rest) = some ([key], v, '\n' :: rest) := by
  have value := h.reads hfuel hlimit (delimits_newline rest)
  have text : entryLine key v ++ rest =
      key.toList ++ (' ' :: '=' :: ' ' :: (renderValue v ++ '\n' :: rest)) := by
    simp [entryLine, renderKey, bare]
  have path : readKey ((entryLine key v ++ rest).length + 1) (entryLine key v ++ rest) =
      some ([key], '=' :: ' ' :: (renderValue v ++ '\n' :: rest)) := by
    rw [text]
    exact readKey_bareKey bare _ (by simp; decide) (by simp [dropBlanks, isBlank])
  have start : dropBlanks (' ' :: (renderValue v ++ '\n' :: rest)) =
      renderValue v ++ '\n' :: rest := by
    obtain ⟨c, cs, first, starts⟩ := h.head
    have space : isBlank ' ' = true ∧ isBlank c = false := by
      simp [startsValue] at starts
      exact ⟨rfl, starts.1⟩
    simp [first, dropBlanks, space]
  have short : [key].length ≤ depthLimit := by simp [depthLimit]
  simp only [readPair, path, expect, start, value, short, bind, Option.bind, if_true]

/-- A key starts a line that holds neither a header nor nothing. -/
theorem readLines_entryLine (bare : isBareKey key = true) (h : ReadsBack depthLimit v)
    (fuel : Nat) (header : List String) (root : Entries) (rest : List Char) :
    readLines (fuel + 1) header root (entryLine key v ++ rest) =
      (root.updateAt (Entries.assign v [key]) header).bind fun root =>
        readLines fuel header root rest := by
  have pair : readPair (2 * (entryLine key v ++ rest).length + 2) depthLimit
      (entryLine key v ++ rest) = some ([key], v, '\n' :: rest) :=
    readPair_entryLine bare h (Nat.le_refl depthLimit) (by simp [entryLine]; omega) rest
  obtain ⟨c, cs, text, chars⟩ := head_of_isBareKey bare
  obtain ⟨tail, first⟩ : ∃ tail, entryLine key v ++ rest = c :: tail := by
    refine ⟨cs ++ (" = ".toList ++ renderValue v ++ ['\n'] ++ rest), ?_⟩
    simp [entryLine, renderKey, bare, text]
  rw [first] at pair ⊢
  have other (d : Char) := ne_of_isBareKeyChar chars (d := d)
  have marks : c ≠ ' ' ∧ c ≠ '\t' ∧ c ≠ '#' ∧ c ≠ '\n' ∧ c ≠ '\r' ∧ c ≠ '[' := by
    refine ⟨other _ ?_, other _ ?_, other _ ?_, other _ ?_, other _ ?_, other _ ?_⟩ <;> decide
  have line : dropComment (c :: tail) = c :: tail := by
    simp [dropComment, dropBlanks, isBlank, marks]
  have newline : readNewline? (c :: tail) = none := by
    simp [readNewline?, marks]
  have close : endLine? ('\n' :: rest) = some rest := rfl
  rw [List.length_cons] at pair
  simp [readLines, line, newline, marks, pair, close]

end Entry

section Header

variable {key : String}

/-- A line that opens a table. -/
def tableLine (key : String) : List Char := '[' :: renderKey key ++ [']', '\n']

/-- A line that opens another table of an array. -/
def elementLine (key : String) : List Char :=
  ['[', '['] ++ renderKey key ++ [']', ']', '\n']

theorem readHeader_bareKey (bare : isBareKey key = true) {close : List Char}
    (hclose : close.head? = some ']') (rest : List Char) :
    readHeader close (key.toList ++ (close ++ '\n' :: rest)) = some ([key], rest) := by
  obtain ⟨more, rfl⟩ : ∃ more, close = ']' :: more := by
    cases close with
    | nil => cases hclose
    | cons c more => exact ⟨more, by simpa using hclose⟩
  have stop : ∀ c ∈ (']' :: more ++ '\n' :: rest).head?, isBareKeyChar c = false := by
    simp
    decide
  have behind : dropBlanks (']' :: more ++ '\n' :: rest) = ']' :: more ++ '\n' :: rest := rfl
  have dot : (dropBlanks (']' :: more ++ '\n' :: rest)).head? ≠ some '.' := by
    rw [behind]
    simp
  have path := readKey_bareKey bare (key.toList ++ (']' :: more ++ '\n' :: rest)).length stop dot
  have closed : (']' :: more).isPrefixOf (']' :: more ++ '\n' :: rest) = true := by simp
  have after : (']' :: more ++ '\n' :: rest).drop (']' :: more).length = '\n' :: rest := by simp
  have line : endLine? ('\n' :: rest) = some rest := rfl
  have short : [key].length ≤ depthLimit := by simp [depthLimit]
  simp only [readHeader, path, behind, bind, Option.bind, short, closed, after, line, and_self,
    if_true]

theorem readLines_tableLine (bare : isBareKey key = true) (fuel : Nat) (header : List String)
    (root : Entries) (rest : List Char) :
    readLines (fuel + 1) header root (tableLine key ++ rest) =
      (root.openTable key).bind fun root => readLines fuel [key] root rest := by
  have name : readHeader [']'] (key.toList ++ ']' :: '\n' :: rest) = some ([key], rest) :=
    readHeader_bareKey bare rfl rest
  have text : tableLine key ++ rest = '[' :: (key.toList ++ ']' :: '\n' :: rest) := by
    simp [tableLine, renderKey, bare]
  have line : dropComment (tableLine key ++ rest) = tableLine key ++ rest := by
    rw [text]
    rfl
  obtain ⟨c, cs, first, chars⟩ := head_of_isBareKey bare
  have bracket := ne_of_isBareKeyChar chars (d := '[') (by decide)
  rw [readLines, line, text]
  rw [first, List.cons_append] at name ⊢
  simp [bracket, name, Entries.updateAt]

theorem readLines_elementLine (bare : isBareKey key = true) (fuel : Nat) (header : List String)
    (root : Entries) (rest : List Char) :
    readLines (fuel + 1) header root (elementLine key ++ rest) =
      (root.openElement key).bind fun root => readLines fuel [key] root rest := by
  have name : readHeader [']', ']'] (key.toList ++ ']' :: ']' :: '\n' :: rest) =
      some ([key], rest) := readHeader_bareKey bare rfl rest
  have text : elementLine key ++ rest =
      '[' :: '[' :: (key.toList ++ ']' :: ']' :: '\n' :: rest) := by
    simp [elementLine, renderKey, bare]
  have line : dropComment (elementLine key ++ rest) = elementLine key ++ rest := by
    rw [text]
    rfl
  rw [readLines, line, text]
  simp [name, Entries.updateAt]

theorem readLines_newline (fuel : Nat) (header : List String) (root : Entries)
    (rest : List Char) :
    readLines (fuel + 1) header root ('\n' :: rest) = readLines fuel header root rest := by
  have line : dropComment ('\n' :: rest) = '\n' :: rest := rfl
  rw [readLines, line]
  rfl

theorem readLines_nil (fuel : Nat) (header : List String) (root : Entries) :
    readLines (fuel + 1) header root [] = some root := by
  rw [readLines]
  rfl

end Header

end Linting.Toml
