import ServerUi.Number.Double

/-! Values of a document. Whole numbers and doubles are told apart by how they are written, and
the members of an object keep their order. -/

namespace ServerUi

inductive Json where
  | null
  | bool (b : Bool)
  | int (n : Int)
  | float (x : Double)
  | str (s : String)
  | arr (items : List Json)
  | obj (members : List (String × Json))
  deriving Inhabited

abbrev Config := List (String × Json)

namespace Config

/-- The value under a key. A missing member and a null one are not told apart. -/
def get (config : Config) (key : String) : Json :=
  (config.lookup key).getD .null

/-- Puts a value under a key: in place if the key is there, at the end otherwise. -/
def put : Config → String → Json → Config
  | [], key, value => [(key, value)]
  | (k, v) :: rest, key, value =>
    if k = key then (k, value) :: rest else (k, v) :: put rest key value

end Config

namespace Json

def typeName : Json → String
  | null => "null"
  | bool _ => "boolean"
  | int _ | float _ => "number"
  | str _ => "string"
  | arr _ => "array"
  | obj _ => "object"

/-- False for null, false, zero of any kind and everything empty. -/
def truth : Json → Bool
  | null => false
  | bool b => b
  | int n => n != 0
  | float x => !x.isZero
  | str s => s != ""
  | arr items => !items.isEmpty
  | obj members => !members.isEmpty

end Json

end ServerUi
