import CoinConsole.Files.FileSystem
import CoinConsole.Given
import CoinConsole.Log.Record
import CoinConsole.Text.UpperCase

/-!
# Where log records go

A logger has a least level and a place its records go to: standard error, or a file that is
appended to. Configuring it opens the new place first, then lets go of the old one, and sets the
level last, so that a level with an unknown name is refused when the new place is already in use.
-/

namespace CoinConsole.Log

/-- A place for records. A file that has been removed or replaced takes no more of them. -/
inductive Sink
  | discard
  | stderr
  | file (place : Option Location)
deriving DecidableEq

/-- How the logger is set up. -/
structure Setup where
  sinks : List Sink
  level : Level
  propagate : Bool
deriving DecidableEq

/-- A level as a caller gives it. -/
inductive LevelChoice
  | name (text : String)
  | number (level : Level)
  | blank
deriving DecidableEq

/-- Why the logger cannot be set up as asked. -/
inductive SetupError
  | blankFile
  | access (error : AccessError)
  | unknownLevel (name : String)
  | blankLevel
deriving DecidableEq

/-- The wording of an unknown level. -/
def unknownLevelMessage (name : String) : String := s!"Unknown level: {Text.quoted name}"

/-- The level a caller means; names are read in upper case. -/
def LevelChoice.read : LevelChoice → Except SetupError Level
  | number level => .ok level
  | name text =>
    match Level.names.lookup (Text.upperCase text) with
    | none => .error (.unknownLevel (Text.upperCase text))
    | some level => .ok level
  | blank => .error .blankLevel

/-- What has been written: the files, and the lines on standard error. -/
structure Journal where
  files : FileSystem
  stderr : List String

namespace Setup

/-- A logger nobody has set up: its records are thrown away. -/
def initial : Setup := { sinks := [.discard], level := 0, propagate := true }

/-- The place for records when a file is named, or none is. -/
def openSink (files : FileSystem) : Given Path → Except SetupError (Sink × FileSystem)
  | .absent => .ok (.stderr, files)
  | .blank => .error .blankFile
  | .value path =>
    match files.openAppend (files.absolute path) with
    | .error e => .error (.access e)
    | .ok (place, files) => .ok (.file (some place), files)

/-- Sets the logger up for a level and a file, or standard error. -/
def configure (setup : Setup) (files : FileSystem) (level : LevelChoice) (file : Given Path) :
    Except SetupError Unit × Setup × FileSystem :=
  match openSink files file with
  | .error e => (.error e, setup, files)
  | .ok (sink, files) =>
    match level.read with
    | .error e => (.error e, { setup with sinks := [sink] }, files)
    | .ok level => (.ok (), { sinks := [sink], level, propagate := false }, files)

/-- The least level of the records that are kept. -/
def leastLevel (setup : Setup) : Level := if setup.level = 0 then .warning else setup.level

/-- Writes a text to a place for records, and ends its line. -/
def writeText (text : String) (journal : Journal) : Sink → Journal
  | .discard => journal
  | .stderr => { journal with stderr := journal.stderr ++ [text] }
  | .file none => journal
  | .file (some place) =>
    { journal with files := journal.files.append place (text ++ "\n").toUTF8 }

/-- Logs a record made at the given time. -/
def log (setup : Setup) (time : String) (journal : Journal) (record : Record) : Journal :=
  if setup.leastLevel ≤ record.level then
    setup.sinks.foldl (writeText (record.text time)) journal
  else journal

/-- The place for records after a file has been moved over another one. -/
def movedSink (origin target : Location) : Sink → Sink
  | .file (some place) =>
    if place = origin then .file (some target)
    else if place = target then .file none
    else .file (some place)
  | sink => sink

/-- The logger after a file has been moved over another one. -/
def moved (setup : Setup) (origin target : Location) : Setup :=
  { setup with sinks := setup.sinks.map (movedSink origin target) }

end Setup

end CoinConsole.Log
