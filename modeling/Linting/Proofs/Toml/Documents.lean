import Linting.Proofs.Toml.Lines

/-! Documents of tables and arrays of tables are read back as they were written. -/

namespace Linting.Toml

namespace Entries

variable {key : String} {entries : Entries}

theorem item?_eq_none (fresh : key ∉ entries.map Prod.fst) : entries.item? key = none := by
  have other : ∀ entry ∈ entries, ¬entry.1 = key :=
    fun entry hentry same => fresh (same ▸ List.mem_map_of_mem hentry)
  simpa [item?] using other

theorem item?_concat (fresh : key ∉ entries.map Prod.fst) (item : Item) :
    item? (entries ++ [(key, item)]) key = some item := by
  have none := item?_eq_none fresh
  simp only [item?, Option.map_eq_none_iff] at none
  simp [item?, List.find?_append, none]

theorem set_concat (fresh : key ∉ entries.map Prod.fst) (old new : Item) :
    set (entries ++ [(key, old)]) key new = entries ++ [(key, new)] := by
  have same : entries.map (fun entry => if entry.1 = key then (key, new) else entry) = entries := by
    refine (List.map_congr_left fun entry hentry => ?_).trans (List.map_id entries)
    have other : entry.1 ≠ key := fun same => fresh (same ▸ List.mem_map_of_mem hentry)
    exact if_neg other
  simp [set, same]

theorem assign_fresh (fresh : key ∉ entries.map Prod.fst) (v : Value) :
    assign v [key] entries = some (entries ++ [(key, .value v)]) := by
  simp [assign, item?_eq_none fresh]

theorem fresh_concat {α : Type} {key : String} {v : α} {later : List (String × α)}
    (distinct : key ∉ later.map Prod.fst) {done : Entries}
    (fresh : ∀ entry ∈ (key, v) :: later, entry.1 ∉ done.map Prod.fst) (item : Item) :
    ∀ entry ∈ later, entry.1 ∉ (done ++ [(key, item)]).map Prod.fst := by
  intro entry hentry
  have older := fresh entry (List.mem_cons_of_mem _ hentry)
  have other : entry.1 ≠ key :=
    fun same => distinct (List.mem_map.mpr ⟨entry, hentry, same⟩)
  simpa [other] using older

end Entries

/-- Reading on from a header and its entries passes these lines and goes on from others. A line takes
one of the steps that its characters allow. -/
def LinesRead (text : List Char) (before after : List String × Entries) : Prop :=
  ∃ steps ≤ text.length, ∀ fuel rest,
    readLines (fuel + steps) before.1 before.2 (text ++ rest) =
      readLines fuel after.1 after.2 rest

namespace LinesRead

theorem refl (state : List String × Entries) : LinesRead [] state state :=
  ⟨0, Nat.le_refl 0, fun _ _ => rfl⟩

theorem trans {first second : List Char} {a b c : List String × Entries}
    (h₁ : LinesRead first a b) (h₂ : LinesRead second b c) : LinesRead (first ++ second) a c := by
  obtain ⟨m, hm, read₁⟩ := h₁
  obtain ⟨n, hn, read₂⟩ := h₂
  refine ⟨n + m, by simp; omega, fun fuel rest => ?_⟩
  rw [← Nat.add_assoc, List.append_assoc, read₁, read₂]

theorem of_line {text : List Char} {a b : List String × Entries} (h : text ≠ [])
    (read : ∀ fuel rest, readLines (fuel + 1) a.1 a.2 (text ++ rest) = readLines fuel b.1 b.2 rest) :
    LinesRead text a b :=
  ⟨1, List.length_pos_of_ne_nil h, read⟩

theorem newline (state : List String × Entries) : LinesRead ['\n'] state state :=
  of_line (List.cons_ne_nil _ _) fun fuel rest => readLines_newline fuel state.1 state.2 rest

/-- At the end of the text fuel is left. -/
theorem readLines_eq {text : List Char} {a b : List String × Entries} (h : LinesRead text a b) :
    readLines (text.length + 1) a.1 a.2 text = some b.2 := by
  obtain ⟨steps, enough, read⟩ := h
  obtain ⟨left, fuel⟩ := Nat.exists_eq_add_of_le enough
  have all := read (left + 1) []
  rw [List.append_nil, readLines_nil] at all
  rw [← all, fuel]
  congr 1
  omega

end LinesRead

/-- The entries of a table that stands under a header: bare keys that differ, with values that are
written on one line. -/
inductive Flat : List (String × Value) → Prop
  | nil : Flat []
  | cons {key : String} {v : Value} {entries : List (String × Value)}
      (bare : isBareKey key = true) (writable : Writable depthLimit v)
      (distinct : key ∉ entries.map Prod.fst) (h : Flat entries) : Flat ((key, v) :: entries)

/-- Entries as they stand in a table under construction. -/
def valueItems (entries : List (String × Value)) : Entries :=
  entries.map fun entry => (entry.1, .value entry.2)

/-- What follows is added to the table `put` has a place for. -/
def Opens (key : String) (put : Entries → Entries) : Prop :=
  ∀ change inner, (put inner).updateAt change [key] = (change inner).map put

theorem opens_table {key : String} {root : Entries} (fresh : key ∉ root.map Prod.fst)
    (origin : Origin) : Opens key fun inner => root ++ [(key, .table origin inner)] := by
  intro change inner
  simp only [Entries.updateAt, Entries.item?_concat fresh]
  cases change inner with
  | none => rfl
  | some inner => exact congrArg some (Entries.set_concat fresh _ _)

theorem opens_element {key : String} {root : Entries} (fresh : key ∉ root.map Prod.fst)
    (tables : List Entries) :
    Opens key fun inner => root ++ [(key, .tables (tables ++ [inner]))] := by
  intro change inner
  simp only [Entries.updateAt, Entries.item?_concat fresh, List.getLast?_concat,
    List.dropLast_concat]
  cases change inner with
  | none => rfl
  | some inner => exact congrArg some (Entries.set_concat fresh _ _)

theorem linesRead_entryLines {key : String} {put : Entries → Entries} (hput : Opens key put)
    {entries : List (String × Value)} (h : Flat entries) (inner : Entries)
    (fresh : ∀ entry ∈ entries, entry.1 ∉ inner.map Prod.fst) :
    LinesRead (entryLines entries) ([key], put inner) ([key], put (inner ++ valueItems entries)) := by
  induction h generalizing inner with
  | nil =>
    rw [valueItems, List.map_nil, List.append_nil]
    exact .refl _
  | @cons name v entries bare writable distinct _ ih =>
    have unused := fresh (name, v) List.mem_cons_self
    have first : LinesRead (entryLine name v) ([key], put inner)
        ([key], put (inner ++ [(name, .value v)])) := by
      refine .of_line (by simp [entryLine]) fun fuel rest => ?_
      rw [readLines_entryLine bare writable.readsBack, hput, Entries.assign_fresh unused]
      rfl
    have all := first.trans (ih _ (Entries.fresh_concat distinct fresh _))
    rwa [List.append_assoc] at all

section Sections

variable {key : String} {root : Entries}

theorem linesRead_table (bare : isBareKey key = true) (fresh : key ∉ root.map Prod.fst)
    {entries : List (String × Value)} (h : Flat entries) (header : List String) :
    LinesRead (tableLine key ++ entryLines entries) (header, root)
      ([key], root ++ [(key, .table .header (valueItems entries))]) := by
  have opened : root.openTable key = some (root ++ [(key, .table .header [])]) := by
    simp [Entries.openTable, Entries.item?_eq_none fresh]
  have line : LinesRead (tableLine key) (header, root)
      ([key], root ++ [(key, .table .header [])]) := by
    refine .of_line (by simp [tableLine]) fun fuel rest => ?_
    rw [readLines_tableLine bare, opened]
    rfl
  exact line.trans (linesRead_entryLines (opens_table fresh .header) h [] (by simp))

/-- The tables of an array that have been read so far; without any, the key is not there yet. -/
def elements (key : String) (tables : List Entries) : Entries :=
  if tables.isEmpty then [] else [(key, .tables tables)]

theorem elements_concat (key : String) (tables : List Entries) (inner : Entries) :
    elements key (tables ++ [inner]) = [(key, .tables (tables ++ [inner]))] :=
  if_neg (by simp)

theorem linesRead_element (bare : isBareKey key = true) (fresh : key ∉ root.map Prod.fst)
    {entries : List (String × Value)} (h : Flat entries) (header : List String)
    (tables : List Entries) :
    LinesRead (elementLine key ++ entryLines entries) (header, root ++ elements key tables)
      ([key], root ++ elements key (tables ++ [valueItems entries])) := by
  have opened : (root ++ elements key tables).openElement key =
      some (root ++ elements key (tables ++ [[]])) := by
    rw [elements_concat]
    cases tables with
    | nil => simp [Entries.openElement, elements, Entries.item?_eq_none fresh]
    | cons first tables =>
      simp [Entries.openElement, elements, Entries.item?_concat fresh, Entries.set_concat fresh]
  have line : LinesRead (elementLine key) (header, root ++ elements key tables)
      ([key], root ++ elements key (tables ++ [[]])) := by
    refine .of_line (by simp [elementLine]) fun fuel rest => ?_
    rw [readLines_elementLine bare, opened]
    rfl
  have below := linesRead_entryLines (opens_element fresh tables) h [] (by simp)
  rw [elements_concat] at line ⊢
  exact line.trans below

theorem linesRead_elements (bare : isBareKey key = true) (fresh : key ∉ root.map Prod.fst)
    {tables : List (List (String × Value))} (h : ∀ table ∈ tables, Flat table)
    (header : List String) (done : List Entries) :
    ∃ header', LinesRead
      (tables.flatMap fun table => '\n' :: (elementLine key ++ entryLines table))
      (header, root ++ elements key done)
      (header', root ++ elements key (done ++ tables.map valueItems)) := by
  induction tables generalizing header done with
  | nil => exact ⟨header, by simpa using .refl _⟩
  | cons table tables ih =>
    have flat := h table List.mem_cons_self
    have first := linesRead_element bare fresh flat header done
    obtain ⟨header', later⟩ := ih (fun t ht => h t (List.mem_cons_of_mem table ht)) [key]
      (done ++ [valueItems table])
    refine ⟨header', ?_⟩
    have all := ((LinesRead.newline _).trans first).trans later
    simpa using all

end Sections

/-- The values that stand under headers: tables, and arrays of at least one table. -/
inductive Sectional : Value → Prop
  | table {entries : List (String × Value)} (h : Flat entries) : Sectional (.table entries)
  | tables {tables : List (List (String × Value))} (nonempty : tables ≠ [])
      (h : ∀ table ∈ tables, Flat table) : Sectional (.array true (tables.map .table))

theorem entryValues_valueItems (entries : List (String × Value)) :
    entryValues (valueItems entries) = entries := by
  induction entries with
  | nil => rfl
  | cons entry entries ih => exact congrArg (entry :: ·) ih

theorem tableValues_map_valueItems (tables : List (List (String × Value))) :
    tableValues (tables.map valueItems) = tables.map .table := by
  induction tables with
  | nil => rfl
  | cons table tables ih =>
    rw [List.map_cons, List.map_cons, tableValues, entryValues_valueItems, ih]

/-- A part of a document is read as the value it was written for. -/
theorem Sectional.linesRead {v : Value} (h : Sectional v) {key : String}
    (bare : isBareKey key = true) {root : Entries} (fresh : key ∉ root.map Prod.fst)
    (header : List String) :
    ∃ header' item, item.toValue = v ∧
      LinesRead ((sections [(key, v)]).flatMap ('\n' :: ·)) (header, root)
        (header', root ++ [(key, item)]) := by
  cases h with
  | @table entries flat =>
    have lines := (LinesRead.newline (header, root)).trans
      (linesRead_table bare fresh flat header)
    refine ⟨[key], .table .header (valueItems entries), ?_, ?_⟩
    · rw [Item.toValue, entryValues_valueItems]
    · simpa [sections, tableLine] using lines
  | @tables tables nonempty flat =>
    obtain ⟨header', lines⟩ := linesRead_elements bare fresh flat header []
    refine ⟨header', .tables (tables.map valueItems), ?_, ?_⟩
    · rw [Item.toValue, tableValues_map_valueItems]
    · have some : elements key (tables.map valueItems) =
          [(key, .tables (tables.map valueItems))] := if_neg (by simpa using nonempty)
      rw [List.nil_append, some, elements, List.isEmpty_nil, if_pos rfl, List.append_nil] at lines
      simpa [sections, elementLine, List.flatMap_map] using lines

theorem sections_cons (key : String) (v : Value) (doc : List (String × Value)) :
    sections ((key, v) :: doc) = sections [(key, v)] ++ sections doc := by
  cases v with
  | array ofTables items => cases ofTables <;> simp [sections]
  | _ => simp [sections]

/-- A document all of whose values stand under headers. -/
inductive Headed : List (String × Value) → Prop
  | nil : Headed []
  | cons {key : String} {v : Value} {doc : List (String × Value)} (bare : isBareKey key = true)
      (sectional : Sectional v) (distinct : key ∉ doc.map Prod.fst) (h : Headed doc) :
      Headed ((key, v) :: doc)

theorem linesRead_sections {doc : List (String × Value)} (h : Headed doc) (root : Entries)
    (fresh : ∀ entry ∈ doc, entry.1 ∉ root.map Prod.fst) (header : List String) :
    ∃ header' items, entryValues items = doc ∧
      LinesRead ((sections doc).flatMap ('\n' :: ·)) (header, root) (header', root ++ items) := by
  induction h generalizing root header with
  | nil => exact ⟨header, [], rfl, by simpa [sections] using .refl _⟩
  | @cons key v doc bare sectional distinct _ ih =>
    have unused := fresh (key, v) List.mem_cons_self
    obtain ⟨header', item, rfl, first⟩ := sectional.linesRead bare unused header
    have stillFresh := Entries.fresh_concat distinct fresh item
    obtain ⟨header'', items, values, later⟩ := ih _ stillFresh header'
    refine ⟨header'', (key, item) :: items, by rw [entryValues, values], ?_⟩
    have all := first.trans later
    rwa [← List.flatMap_append, ← sections_cons, List.append_assoc] at all

theorem newline_joinSections {parts : List (List Char)} (h : parts ≠ []) :
    '\n' :: joinSections parts = parts.flatMap ('\n' :: ·) := by
  induction parts with
  | nil => exact absurd rfl h
  | cons part parts ih =>
    cases parts with
    | nil => simp [joinSections]
    | cons next parts =>
      have rest := ih (List.cons_ne_nil next parts)
      have text : joinSections (part :: next :: parts) =
          part ++ '\n' :: joinSections (next :: parts) := rfl
      rw [text, rest]
      rfl

theorem bracket_of_mem_sections {doc : List (String × Value)} :
    ∀ part ∈ sections doc, ∃ cs, part = '[' :: cs := by
  fun_induction sections doc with
  | case1 => simp
  | case2 rest key entries ih => simpa using ih
  | case3 rest key tables ih =>
    intro part hpart
    rcases List.mem_append.mp hpart with table | later
    · obtain ⟨table, -, rfl⟩ := List.mem_map.mp table
      exact ⟨_, rfl⟩
    · exact ih part later
  | case4 entry rest _ _ ih => exact ih

theorem filter_headed {doc : List (String × Value)} (h : Headed doc) :
    doc.filter (fun entry => !hasHeader entry.2) = [] := by
  induction h with
  | nil => rfl
  | @cons key v doc bare sectional distinct h ih =>
    have headed : hasHeader v = true := by cases sectional <;> rfl
    simp [headed, ih]

/-- Whatever strings a document holds, its text is read as that document. -/
theorem readDocument_render {doc : List (String × Value)} (h : Headed doc) :
    readDocument (render doc) = some doc := by
  have text : (render doc).toList = joinSections (sections doc) := by
    simp [render, filter_headed h]
  obtain ⟨header, items, values, lines⟩ := linesRead_sections h [] (by simp) []
  have read : readLines ((joinSections (sections doc)).length + 1) [] []
      (joinSections (sections doc)) = some items := by
    cases parts : sections doc with
    | nil =>
      rw [parts] at lines
      exact lines.readLines_eq
    | cons part rest =>
      have all := lines.readLines_eq
      rwa [parts, ← newline_joinSections (List.cons_ne_nil part rest), List.length_cons,
        readLines_newline] at all
  have mark : ∀ rest, joinSections (sections doc) ≠ '\uFEFF' :: rest := by
    intro rest start
    cases parts : sections doc with
    | nil => simp [parts, joinSections] at start
    | cons part later =>
      obtain ⟨cs, rfl⟩ := bracket_of_mem_sections part (parts ▸ List.mem_cons_self)
      rw [parts] at start
      cases later <;> exact absurd (List.cons.inj start).1 (by decide)
  rw [readDocument, text]
  split
  · rename_i start
    exact absurd start (mark _)
  · rw [read]
    exact congrArg some values

end Linting.Toml
