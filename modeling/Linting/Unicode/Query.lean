import Linting.Unicode.Character
import Linting.Unicode.ScriptTable
import Linting.Unicode.AgeTable
import Linting.Unicode.BreakTable
import Linting.Unicode.Alias

/-! Looking up a set of code points by the name of a property, a general category or a script.
Names are compared without regard to case, blanks, hyphens and underscores. -/

namespace Linting.Unicode

/-- What a pattern asks for: `\pL`, `\p{Greek}` or `\p{Script=Greek}`. -/
inductive ClassQuery
  | named (name : String)
  | valued (name value : String)
  deriving DecidableEq, Repr

inductive QueryError
  | propertyNotFound
  | valueNotFound
  deriving DecidableEq, Repr

/-- Lower case, without separators, without characters outside ASCII and without a leading `is`
(save for `isc`, which is a name of its own). -/
def plainName (name : String) : String :=
  let keep (cs : List Char) : List Char :=
    (cs.filter fun c => c.toNat < 0x80 && c != ' ' && c != '_' && c != '-').map Char.toLower
  match name.toList with
  | a :: b :: rest =>
    if a.toLower = 'i' ∧ b.toLower = 's' then
      if keep rest = ['c'] then "isc" else String.ofList (keep rest)
    else String.ofList (keep (a :: b :: rest))
  | cs => String.ofList (keep cs)

/-- Categories that stand for several of the two-letter ones. -/
def categoryGroups : List (List String × List String) := [
  (["casedletter", "lc"], ["lu", "ll", "lt"]),
  (["letter", "l"], ["lu", "ll", "lt", "lm", "lo"]),
  (["mark", "m", "combiningmark"], ["mn", "mc", "me"]),
  (["number", "n"], ["nd", "nl", "no"]),
  (["other", "c"], ["cc", "cf", "cn", "co", "cs"]),
  (["punctuation", "p", "punct"], ["pc", "pd", "ps", "pe", "pi", "pf", "po"]),
  (["separator", "z"], ["zs", "zl", "zp"]),
  (["symbol", "s"], ["sm", "sc", "sk", "so"])]

/-- The set of a general category; `none` when there is no such category. Surrogates are a category
that no text can hold, so asking for them alone is an error. -/
def findCategory (plain : String) : Option (Except QueryError CodeSet) :=
  if plain = "any" then some (.ok CodeSet.empty.compl)
  else if plain = "ascii" then some (.ok ⟨#[(0, 0x7F)]⟩)
  else if plain = "assigned" then some (.ok (categories ["cn"]).compl)
  else if plain = "cs" || plain = "surrogate" then some (.error .valueNotFound)
  else
    match categoryGroups.find? fun group => group.1.contains plain with
    | some group => some (.ok (categories group.2))
    | none => (category? ((categoryAliases.lookup plain).getD plain)).map .ok

/-- Looks a value up in a table, by its own name or another one. -/
def findRow (table aliases : List (String × String)) (plain : String) : Option CodeSet :=
  (table.lookup ((aliases.lookup plain).getD plain)).map CodeSet.ofText

def findScript (plain : String) : Option CodeSet := findRow scriptTable scriptAliases plain

/-- Code points that a script is used with, whether they belong to it or are shared. -/
def findScriptExtension (plain : String) : Option CodeSet :=
  (findScript plain).map fun own =>
    let long := (scriptAliases.lookup plain).getD plain
    let owned :=
      if long = "common" || long = "inherited" then own.diff (CodeSet.ofText sharedScriptText)
      else own
    match scriptExtensionTable.lookup long with
    | some text => owned.union (CodeSet.ofText text)
    | none => owned

/-- Everything assigned up to and including a version, written `3.0` or `V3_0`. -/
def findAge (plain : String) : Option CodeSet :=
  let key := String.ofList ('v' :: plain.toList.filter Char.isDigit)
  if plain = key || plain.toList.contains '.' then
    match ageTable.findIdx? fun row => row.1 = key with
    | some i =>
      some (CodeSet.ofRuns ((ageTable.take (i + 1)).flatMap fun row =>
        (CodeSet.ofText row.2).ranges.toList))
    | none => none
  else none

/-- Properties whose values are looked up in tables of their own. -/
def valuedProperties : List String :=
  ["age", "generalcategory", "gc", "script", "sc", "scriptextensions", "scx",
    "graphemeclusterbreak", "gcb", "wordbreak", "wb", "sentencebreak", "sb"]

def isPropertyName (plain : String) : Bool :=
  (propertyAliases.lookup plain).isSome || (propertyTable.lookup plain).isSome ||
    valuedProperties.contains plain || otherProperties.contains plain

/-- A name alone is a binary property, a general category or a script, tried in that order; `cf`,
`sc` and `lc` are categories although they also abbreviate properties. -/
def findNamed (plain : String) : Except QueryError CodeSet :=
  if plain ∉ ["cf", "sc", "lc"] ∧ isPropertyName plain then
    match findRow propertyTable propertyAliases plain with
    | some set => .ok set
    | none => .error .propertyNotFound
  else
    match findCategory plain with
    | some found => found
    | none =>
      match findScript plain with
      | some set => .ok set
      | none =>
        .error (if scriptAliases.any fun row => row.1 = plain || row.2 = plain then .valueNotFound
          else .propertyNotFound)

def findValued (property value : String) : Except QueryError CodeSet :=
  let found : Option CodeSet := match property with
    | "age" => findAge value
    | "generalcategory" | "gc" =>
      match findCategory value with
      | some (.ok set) => some set
      | _ => none
    | "script" | "sc" => findScript value
    | "scriptextensions" | "scx" => findScriptExtension value
    | "graphemeclusterbreak" | "gcb" => findRow graphemeBreakTable graphemeBreakAliases value
    | "wordbreak" | "wb" => findRow wordBreakTable wordBreakAliases value
    | "sentencebreak" | "sb" => findRow sentenceBreakTable sentenceBreakAliases value
    | _ => none
  match found with
  | some set => .ok set
  | none => .error (if isPropertyName property then .valueNotFound else .propertyNotFound)

def ClassQuery.resolve : ClassQuery → Except QueryError CodeSet
  | .named name => findNamed (plainName name)
  | .valued name value => findValued (plainName name) (plainName value)

end Linting.Unicode
