import CoinConsole.Document.Reader
import CoinConsole.Save.Schema

/-!
# JSON as the format of save files

The format in which the program keeps games. A state is written with a member on each line. Where
a text is no document, the cause and its place, which belong behind the wording, are left out.
-/

namespace CoinConsole

/-- The wording of a fault. -/
def Fault.message : Fault → String
  | notInteger => "Input should be a valid integer"
  | notObject => "Input should be an object"
  | unknownMember => "Extra inputs are not permitted"

/-- The issue about a departure. -/
def Departure.issue (departure : Departure) : SchemaIssue where
  location := departure.location
  message := departure.fault.message

namespace SchemaIssue

/-- A name as part of a place; in back quotes if it holds the mark that divides names. -/
def shownName (name : String) : String :=
  if name.toList.contains '.' then "`" ++ name ++ "`" else name

/-- The issue with its place on a line of its own, if it has one. -/
def account (issue : SchemaIssue) : String :=
  if issue.location = [] then s!"  {issue.message}"
  else
    let place := ".".intercalate (issue.location.map shownName)
    s!"{place}\n  {issue.message}"

/-- The issue of a text that holds no document. -/
def notDocument : SchemaIssue where
  location := []
  message := "Invalid JSON"

end SchemaIssue

/-- The JSON text for a state. -/
def Root.json (root : Root) : String :=
  "\x7b\n" ++ s!"  \"coins\": {root.coins},\n" ++ "  \"clock\": \x7b\n" ++
    s!"    \"seconds\": {root.clock.seconds}\n" ++ "  \x7d\n" ++ "\x7d"

/-- The document a text holds, or the issue that it holds none. -/
def Document.parse (signCounts : Bool) (text : String) : Except SchemaIssue Document :=
  match Document.read signCounts text with
  | none => .error .notDocument
  | some document => .ok document

/-- JSON, with a minus sign that counts as a digit or does not. -/
@[reducible]
def jsonFormat (signCounts : Bool) : SaveFormat where
  signCounts := signCounts
  parse := Document.parse signCounts
  check shape document := (shape.departures document).map Departure.issue
  write := Root.json
  account error := (error.first :: error.others).map SchemaIssue.account

/-- The format of the program, in which a minus sign does not count. -/
instance programFormat : SaveFormat := jsonFormat false

end CoinConsole
