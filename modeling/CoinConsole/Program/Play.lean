import CoinConsole.Console.Repl
import CoinConsole.Program.GameArguments
import CoinConsole.Save.JsonFormat

/-!
# Playing

A run of the game from start to end: the command line is read, logging is set up, the settings are
checked, a new save file is written if that was asked for and there is none, and the game is
loaded, played and saved. An error about the save file ends the program with a line on standard
error; the other ways to fail are passed on to the caller.

`perform` does all of this for lines that are known beforehand. Its parts are the steps that a
program at a terminal takes between reading one line and the next.
-/

namespace CoinConsole

/-- How the program is started: its arguments, the value of the variable that names the save file,
and the time shown in log records. -/
structure Invocation where
  arguments : List String
  saveVariable : Option String
  time : String

/-- What the program cannot report itself. -/
inductive Failure
  | log (error : Log.SetupError)
  | settings (issues : List SettingsIssue)
  | transcript (error : TranscriptError)
  | value (error : ShowError)
  | path (fault : PathFault)
  | file (error : FileError)
  | notText
deriving DecidableEq

/-- The wording of a failure. -/
def Failure.message : Failure → String
  | log .blankFile => "no log file is named"
  | log (.access (.file e)) => e.message
  | log (.access .nullByte) => PathFault.nullByte.message
  | log (.unknownLevel name) => Log.unknownLevelMessage name
  | log .blankLevel => "no level is named"
  | settings issues =>
    ", ".intercalate (issues.map fun issue => s!"{issue.setting}: {issue.message}")
  | transcript e => e.message
  | value e => e.message
  | path fault => fault.message
  | file e => e.message
  | notText => "the save file is not valid UTF-8"

/-- Why the program ends before a game is played. An error about the save file may have causes of
its own. -/
inductive EarlyEnd
  | arguments (stop : CommandLine.Stop)
  | save (error : SaveError) (causes : List String)
  | failure (failure : Failure)
deriving DecidableEq

/-- How the program has ended. -/
inductive Ending
  | exit (code : Nat)
  | failed (failure : Failure)
deriving DecidableEq

/-- The files, the lines on standard error and the logger while the program runs. -/
structure Stage where
  journal : Log.Journal
  setup : Log.Setup

/-- What a run of the program leaves behind. -/
structure Performance where
  ending : Ending
  screen : String
  stage : Stage

namespace Stage

/-- A stage before anything has happened. -/
def ofFiles (files : FileSystem) : Stage :=
  { journal := { files, stderr := [] }, setup := .initial }

/-- The files. -/
def files (stage : Stage) : FileSystem := stage.journal.files

/-- The stage with other files. -/
def withFiles (stage : Stage) (files : FileSystem) : Stage :=
  { stage with journal := { stage.journal with files } }

/-- Logs a record. -/
def log (stage : Stage) (time : String) (record : Log.Record) : Stage :=
  { stage with journal := stage.setup.log time stage.journal record }

/-- Logs records. -/
def logAll (stage : Stage) (time : String) (records : List Log.Record) : Stage :=
  records.foldl (fun stage record => stage.log time record) stage

/-- Writes a line to standard error. -/
def complain (stage : Stage) (line : String) : Stage :=
  { stage with journal := { stage.journal with stderr := stage.journal.stderr ++ [line] } }

/-- The stage after a save file has been written by moving the file beside it over it. -/
def savedTo (stage : Stage) (path : Path) (files : FileSystem) : Stage :=
  let stage := stage.withFiles files
  match Save.staging? path with
  | none => stage
  | some staging =>
    match files.resolve staging, files.resolve path with
    | .ok origin, .ok target => { stage with setup := stage.setup.moved origin target }
    | _, _ => stage

end Stage

namespace Play

/-- The program as a whole, as named in log records. -/
def logger : String := "termgame"

/-- What is logged when an error about the save file ends the program: its causes, and then the
error itself. -/
def stoppedRecord (error : SaveError) (causes : List String) : Log.Record :=
  { level := .debug, logger, message := "Startup failed", details := causes ++ [error.message] }

/-! ## The steps -/

/-- Reads the command line, sets up logging and checks the settings. -/
def configure (invocation : Invocation) (stage : Stage) :
    Except EarlyEnd (GameArguments × Settings) × Stage :=
  match GameArguments.interface.parse {} invocation.arguments with
  | .error stop => (.error (.arguments stop), stage)
  | .ok arguments =>
    match stage.setup.configure stage.files arguments.logLevel arguments.logFile with
    | (.error e, setup, files) =>
      (.error (.failure (.log e)), { stage.withFiles files with setup })
    | (.ok (), setup, files) =>
      let stage := { stage.withFiles files with setup }
      match Settings.ofValues invocation.saveVariable arguments.settingsValues with
      | .error issues => (.error (.failure (.settings issues)), stage)
      | .ok settings => (.ok (arguments, settings), stage)

section

variable [SaveFormat]

/-- Writes the save file of a new game, if there is none. -/
def create (time : String) (path : Path) (stage : Stage) : Except EarlyEnd Unit × Stage :=
  match stage.files.pathExists path with
  | .error e => (.error (.failure (.file e)), stage)
  | .ok true => (.ok (), stage)
  | .ok false =>
    let (result, files) := Save.init stage.files path false
    let stage := match result with
      | .ok _ => stage.savedTo path files
      | .error _ => stage.withFiles files
    let stage := stage.logAll time (Save.initRecord? path result).toList
    match result with
    | .ok _ => (.ok (), stage)
    | .error (.path fault) => (.error (.failure (.path fault)), stage)
    | .error (.file e) => (.error (.failure (.file e)), stage)
    | .error (.save path fault) => (.error (.save (.notCreated path fault.reason) []), stage)

/-- Loads the game. -/
def load (time : String) (path : Path) (stage : Stage) : Except EarlyEnd Root × Stage :=
  match Save.load stage.files path with
  | .error (.save path fault) => (.error (.save (fault.error path) fault.account), stage)
  | .error (.path fault) => (.error (.failure (.path fault)), stage)
  | .error .notText => (.error (.failure .notText), stage)
  | .ok root => (.ok root, stage.log time (Save.loadedRecord path))

/-- Writes the save file of a new game if that was asked for, and loads the game. -/
def start (time : String) (arguments : GameArguments) (settings : Settings) (stage : Stage) :
    Except EarlyEnd Root × Stage :=
  if arguments.create then
    match create time settings.savePath stage with
    | (.error e, stage) => (.error e, stage)
    | (.ok (), stage) => load time settings.savePath stage
  else load time settings.savePath stage

/-- Saves the game. -/
def close (time : String) (path : Path) (root : Root) (stage : Stage) : Stage :=
  match Save.save stage.files path root with
  | (.ok true, files) => (stage.savedTo path files).log time (Save.savedRecord path true)
  | (.ok false, files) => (stage.withFiles files).log time (Save.savedRecord path false)
  | (.error _, files) => stage.withFiles files

end

/-- Ends the program before a game has been played. -/
def endEarly (time : String) (stage : Stage) : EarlyEnd → Performance
  | .arguments .help =>
    { ending := .exit 0, screen := GameArguments.help, stage }
  | .arguments (.problem message) =>
    { ending := .exit 2, screen := ""
      stage := stage.complain (GameArguments.interface.complaint message) }
  | .save error causes =>
    { ending := .exit 1, screen := ""
      stage := (stage.log time (stoppedRecord error causes)).complain s!"{error.message}, exiting" }
  | .failure failure => { ending := .failed failure, screen := "", stage }

/-- The paths a run may read or write. -/
def paths (invocation : Invocation) : List Path :=
  match GameArguments.interface.parse {} invocation.arguments with
  | .error _ => []
  | .ok arguments =>
    let save := match Settings.readPath invocation.saveVariable arguments.savePath with
      | .error _ => []
      | .ok path => path :: (Save.staging? path).toList
    match arguments.logFile with
    | .value path => path :: save
    | _ => save

/-! ## The whole -/

section

variable [SaveFormat]

/-- Plays a loaded game on the given lines. -/
def onLines (invocation : Invocation) (settings : Settings) (root : Root) (lines : List String)
    (stage : Stage) : Performance :=
  match Console.start root settings with
  | .error e =>
    { ending := .failed (.transcript e), screen := ""
      stage := close invocation.time settings.savePath root stage }
  | .ok console =>
    let run := console.run lines
    let ending := match run.fault with
      | none => .exit 0
      | some e => .failed (.value e)
    { ending, screen := run.screen
      stage :=
        close invocation.time settings.savePath run.console.root
          (stage.logAll invocation.time run.records) }

/-- Runs the program on the given lines. -/
def perform (invocation : Invocation) (lines : List String) (files : FileSystem) : Performance :=
  match configure invocation (.ofFiles files) with
  | (.error e, stage) => endEarly invocation.time stage e
  | (.ok (arguments, settings), stage) =>
    match start invocation.time arguments settings stage with
    | (.error e, stage) => endEarly invocation.time stage e
    | (.ok root, stage) => onLines invocation settings root lines stage

end

/-- The lines of an input: each is ended by a line feed, which the last one may lack. -/
def inputLines (text : String) : List String :=
  let rec go : List Char → List Char → List String
    | line, [] => if line.isEmpty then [] else [String.ofList line.reverse]
    | line, c :: rest =>
      if c = '\n' then String.ofList line.reverse :: go [] rest else go (c :: line) rest
  go [] text.toList

end Play

end CoinConsole
