import Linting.Toml.Value

/-! Tables under construction. Headers and dotted keys bring tables into being on the way to what
they name; who made a table decides what may still be added to it. -/

namespace Linting.Toml

/-- How a table came to be: by its own header, on the way to a header's table, or by a dotted
key. -/
inductive Origin
  | header
  | passed
  | dotted
  deriving DecidableEq, Repr

/-- What a key stands for so far. -/
inductive Item
  | value (v : Value)
  | table (origin : Origin) (entries : List (String × Item))
  | tables (tables : List (List (String × Item)))

abbrev Entries := List (String × Item)

namespace Entries

def item? (entries : Entries) (key : String) : Option Item :=
  (List.find? (fun entry => entry.1 = key) entries).map Prod.snd

def set (entries : Entries) (key : String) (item : Item) : Entries :=
  entries.map fun entry => if entry.1 = key then (key, item) else entry

def erase (entries : Entries) (key : String) : Entries :=
  entries.filter fun entry => entry.1 != key

/-- Gives a value to a dotted key. Tables on the way must not have a header of their own, and the
innermost of them must be made by dotted keys. -/
def assign (v : Value) : List String → Entries → Option Entries
  | [], _ => none
  | [key], entries =>
    if (entries.item? key).isSome then none else some (entries ++ [(key, .value v)])
  | key :: next :: path, entries =>
    match entries.item? key with
    | none => do
      let inner ← assign v (next :: path) []
      some (entries ++ [(key, .table .dotted inner)])
    | some (.table .dotted inner) => do
      let inner ← assign v (next :: path) inner
      some (entries.set key (.table .dotted inner))
    | some (.table .passed inner) =>
      if path.isEmpty then none
      else do
        let inner ← assign v (next :: path) inner
        some (entries.set key (.table .passed inner))
    | some (.tables tables) =>
      match path, tables.getLast? with
      | _ :: _, some last => do
        let last ← assign v (next :: path) last
        some (entries.set key (.tables (tables.dropLast ++ [last])))
      | _, _ => none
    | some _ => none

/-- Changes the table that a header's path leads to. An array of tables stands for its last. -/
def updateAt (change : Entries → Option Entries) : List String → Entries → Option Entries
  | [], entries => change entries
  | key :: path, entries =>
    match entries.item? key with
    | none => do
      let inner ← updateAt change path []
      some (entries ++ [(key, .table .passed inner)])
    | some (.table origin inner) => do
      let inner ← updateAt change path inner
      some (entries.set key (.table origin inner))
    | some (.tables tables) =>
      match tables.getLast? with
      | some last => do
        let last ← updateAt change path last
        some (entries.set key (.tables (tables.dropLast ++ [last])))
      | none => none
    | some (.value _) => none

/-- Opens the table of a header. One that was only passed so far moves to the end. -/
def openTable (key : String) (entries : Entries) : Option Entries :=
  match entries.item? key with
  | none => some (entries ++ [(key, .table .header [])])
  | some (.table .passed inner) => some (entries.erase key ++ [(key, .table .header inner)])
  | some _ => none

/-- Opens another table of an array. -/
def openElement (key : String) (entries : Entries) : Option Entries :=
  match entries.item? key with
  | none => some (entries ++ [(key, .tables [[]])])
  | some (.tables tables) => some (entries.set key (.tables (tables ++ [[]])))
  | some _ => none

end Entries

mutual

def Item.toValue : Item → Value
  | .value v => v
  | .table _ entries => .table (entryValues entries)
  | .tables tables => .array true (tableValues tables)

def entryValues : List (String × Item) → List (String × Value)
  | [] => []
  | (key, item) :: rest => (key, item.toValue) :: entryValues rest

def tableValues : List (List (String × Item)) → List Value
  | [] => []
  | entries :: rest => .table (entryValues entries) :: tableValues rest

end

end Linting.Toml
