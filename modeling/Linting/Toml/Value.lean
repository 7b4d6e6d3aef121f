/-! The values of a TOML document. -/

namespace Linting.Toml

/-- A value. Entries of a table are in the order of the document; a float is kept as its shortest
text; `ofTables` marks an array written as a sequence of table headers. -/
inductive Value
  | string (s : String)
  | integer (n : Int)
  | float (text : String)
  | boolean (b : Bool)
  | datetime
  | array (ofTables : Bool) (items : List Value)
  | table (entries : List (String × Value))
  deriving Repr, Inhabited

/-- What a value is called in an error. -/
def Value.kind : Value → String
  | string _ => "string"
  | integer _ => "integer"
  | float _ => "float"
  | boolean _ => "boolean"
  | datetime => "datetime"
  | array false _ => "array"
  | array true _ => "array of tables"
  | table _ => "table"

end Linting.Toml
