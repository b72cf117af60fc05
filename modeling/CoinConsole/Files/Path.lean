import CoinConsole.Text.Quoted

/-!
# Paths

A path is a list of names under an anchor: the current directory, the root of the files, or the
root written with two slashes, which is kept apart from the first. Repeated slashes, a slash at
the end and the name `.` mean nothing and are dropped when a path is read; `..` is kept.
-/

namespace CoinConsole

/-- Where a path starts. -/
inductive Anchor
  | current
  | root
  | doubleRoot
deriving DecidableEq

/-- How a path with the anchor begins. -/
def Anchor.text : Anchor → String
  | current => ""
  | root => "/"
  | doubleRoot => "//"

/-- Whether `text` can be one name of a path. -/
def isPathName (text : String) : Bool := text != "" && text != "." && !text.toList.contains '/'

/-- A path in normal form. -/
structure Path where
  anchor : Anchor
  names : List String
  names_valid : ∀ name ∈ names, isPathName name = true
deriving DecidableEq

namespace Path

/-- The pieces of a text between its slashes. -/
def splitSlash : List Char → List (List Char)
  | [] => [[]]
  | c :: cs =>
    if c = '/' then [] :: splitSlash cs
    else
      match splitSlash cs with
      | [] => [[c]]
      | piece :: pieces => (c :: piece) :: pieces

/-- The anchor a text starts with; three slashes or more count as one. -/
def anchorOf : List Char → Anchor
  | '/' :: '/' :: '/' :: _ => .root
  | '/' :: '/' :: _ => .doubleRoot
  | '/' :: _ => .root
  | _ => .current

/-- The path a text stands for. -/
def ofText (text : String) : Path where
  anchor := anchorOf text.toList
  names := ((splitSlash text.toList).map String.ofList).filter isPathName
  names_valid := fun _ h => (List.mem_filter.1 h).2

/-- The text of a path; the current directory is `.`. -/
def text (path : Path) : String :=
  match path.anchor, path.names with
  | .current, [] => "."
  | anchor, names => anchor.text ++ "/".intercalate names

/-- The last name of a path; empty if it has none. -/
def name (path : Path) : String := path.names.getLast?.getD ""

/-- Whether the path cannot be handed to the operating system. -/
def hasNull (path : Path) : Bool := path.text.toList.contains '\x00'

end Path

end CoinConsole
