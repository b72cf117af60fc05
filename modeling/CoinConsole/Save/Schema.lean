import CoinConsole.Game.State
import CoinConsole.Save.Shape

/-!
# The content of a save file

A save file holds an object with the members `coins`, an integer, and `clock`, an object with the
member `seconds`, an integer. Each of them may be missing, and nothing else may be there.

The library that reads, checks and writes such contents is not part of the program
(`SaveFormat`). The program has it check a content as a whole, and tells the player the first of
the issues.
-/

namespace CoinConsole

/-- What is wrong at a place of a content: the names that lead to the place, none for the whole
content, and a wording. -/
structure SchemaIssue where
  location : List String
  message : String
deriving DecidableEq

/-- The issue in one line; the place comes first, if it has a name. -/
def SchemaIssue.summary (issue : SchemaIssue) : String :=
  let place := ".".intercalate issue.location
  if place = "" then issue.message else s!"{place}: {issue.message}"

/-- Why a content is refused: its issues, of which there is at least one. -/
structure SchemaError where
  first : SchemaIssue
  others : List SchemaIssue
deriving DecidableEq

/-- The wording of the error: that of the first issue. -/
def SchemaError.reason (error : SchemaError) : String := error.first.summary

/-- A library for contents of save files. -/
class SaveFormat where
  /-- Whether a minus sign counts as a digit, where the length of a number is limited. There are
  versions in which it does and versions in which it does not. -/
  signCounts : Bool
  /-- The document that a text holds, or what is wrong with the text. -/
  parse : String → Except SchemaIssue Document
  /-- The issues of a document that is to have a shape, in the order in which they are told. -/
  check : Shape → Document → List SchemaIssue
  /-- The text for a state. -/
  write : Root → String
  /-- The error in full. -/
  account : SchemaError → List String

namespace Schema

/-! ## What is declared -/

/-- The shape of a clock. -/
def clockShape : Shape := .object [("seconds", .integer)]

/-- The shape of a state. -/
def rootShape : Shape := .object [("coins", .integer), ("clock", clockShape)]

/-- The integer a member holds; `0` if there is none. -/
def integerMember (key : String) (members : List (String × Document)) : Int :=
  match Document.member? key members with
  | some (.integer value) => value
  | _ => 0

/-- The clock a document describes; a clock at `0` if it describes none. -/
def clockOf : Document → Clock
  | .object members => { seconds := integerMember "seconds" members }
  | _ => {}

/-- The state a document describes; the state of a new game if it describes none. -/
def rootOf : Document → Root
  | .object members =>
    { coins := integerMember "coins" members
      clock := ((Document.member? "clock" members).map clockOf).getD {} }
  | _ => {}

/-! ## Reading -/

variable [SaveFormat]

/-- The state a document without issues describes. -/
def readRoot (document : Document) : Except SchemaError Root :=
  match SaveFormat.check rootShape document with
  | [] => .ok (rootOf document)
  | first :: others => .error { first, others }

/-- The state the content of a save file describes. -/
def read (text : String) : Except SchemaError Root :=
  match SaveFormat.parse text with
  | .error issue => .error { first := issue, others := [] }
  | .ok document => readRoot document

end Schema

end CoinConsole
