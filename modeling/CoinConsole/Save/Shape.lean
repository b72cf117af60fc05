import CoinConsole.Document.Basic

/-!
# Shapes of documents

A shape says what a document is to be: an integer, or an object with certain fields, which have
shapes of their own. A field may be missing, and other members may not be there. Where a document
is not like this, it departs from its shape.
-/

namespace CoinConsole

/-- What a document is to be. -/
inductive Shape
  | integer
  | object (fields : List (String × Shape))

/-- What is wrong where a document departs from its shape. -/
inductive Fault
  | notInteger
  | notObject
  | unknownMember
deriving DecidableEq

/-- A place where a document departs from its shape: the names that lead to it, none for the whole
document. -/
structure Departure where
  location : List String
  fault : Fault
deriving DecidableEq

/-- The departure of a member of an object, seen from the object. -/
def Departure.within (name : String) (departure : Departure) : Departure :=
  { departure with location := name :: departure.location }

namespace Shape

/-- The names of the members other than the ones known; each of them once, where it comes first. -/
def unknownNames (known : List String) (members : List (String × Document)) : List String :=
  ((members.map (·.1)).filter fun name => !known.contains name).eraseDups

/-- The departures of the members other than the ones known. -/
def unknownDepartures (known : List String) (members : List (String × Document)) :
    List Departure :=
  (unknownNames known members).map fun name => { location := [name], fault := .unknownMember }

mutual

/-- Where the document departs from the shape: of an object, first in its fields, in the order in
which these are declared, and then in its other members, in the order of the document. -/
def departures : Shape → Document → List Departure
  | integer, .integer _ => []
  | integer, _ => [{ location := [], fault := .notInteger }]
  | object fields, .object members =>
    fieldsDepartures fields members ++ unknownDepartures (fields.map (·.1)) members
  | object _, _ => [{ location := [], fault := .notObject }]
termination_by structural shape => shape

/-- Where the members depart from the shapes of the fields. -/
def fieldsDepartures : List (String × Shape) → List (String × Document) → List Departure
  | [], _ => []
  | field :: fields, members => fieldDepartures field members ++ fieldsDepartures fields members
termination_by structural fields => fields

/-- Where the member of a field, if there is one, departs from the shape of the field. -/
def fieldDepartures : String × Shape → List (String × Document) → List Departure
  | (name, shape), members =>
    match Document.member? name members with
    | none => []
    | some document => (shape.departures document).map (.within name)
termination_by structural field => field

end

end Shape

end CoinConsole
