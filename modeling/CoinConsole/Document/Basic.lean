/-!
# Documents

The values a JSON document can hold. Whole numbers are kept exactly; of all other numbers, which
nothing in this library takes, only the fact that they are numbers is kept.
-/

namespace CoinConsole

/-- A JSON value. An object keeps its members in the order of the file, repeated keys included. -/
inductive Document
  | null
  | boolean (value : Bool)
  | integer (value : Int)
  | fraction
  | string (value : String)
  | array (items : List Document)
  | object (members : List (String × Document))

namespace Document

/-- The value of a key: the last one, if the key is repeated. -/
def member? (key : String) (members : List (String × Document)) : Option Document :=
  (members.reverse.find? fun member => member.1 == key).map (·.2)

end Document

end CoinConsole
