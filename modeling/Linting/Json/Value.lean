/-! JSON values. -/

namespace Linting

/-- A JSON value. Fields of an object are in order; a number that is no integer is kept as its
shortest text. -/
inductive Json
  | null
  | boolean (b : Bool)
  | integer (n : Int)
  | float (text : String)
  | string (s : String)
  | array (items : List Json)
  | object (fields : List (String × Json))
  deriving Repr, Inhabited

namespace Json

def nat (n : Nat) : Json := .integer n

def strings (texts : List String) : Json := .array (texts.map .string)

/-- The value of a field. -/
def field? (j : Json) (name : String) : Option Json :=
  match j with
  | .object fields => (fields.find? fun f => f.1 = name).map Prod.snd
  | _ => none

end Json

end Linting
