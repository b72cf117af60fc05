import CoinConsole.Files.Path
import CoinConsole.Given
import CoinConsole.Instruction.Options
import CoinConsole.Save.Store

/-!
# Settings

The settings of a console session. They are checked as a whole when they are made, with one issue
for each value that is not allowed, and they never change afterwards. Names that start with an
underscore are no settings: a few of them are taken, and assigning to any other is allowed and
changes nothing.
-/

namespace CoinConsole

/-- The settings of a session. -/
structure Settings where
  savePath : Path
  parseMode : ParseMode
  scrollback : Nat
  prompt : String
  scrollback_pos : 0 < scrollback
deriving DecidableEq

/-- What is wrong with a setting. -/
inductive SettingsIssue
  | pathBlank
  | unknownMode
  | scrollbackBlank
  | scrollbackNotPositive
  | promptBlank
  | unknownSetting (name : String)
  | unchangeable (name : String)
deriving DecidableEq

namespace SettingsIssue

/-- The setting an issue is about. -/
def setting : SettingsIssue → String
  | pathBlank => "save_path"
  | unknownMode => "parse_mode"
  | scrollbackBlank => "scrollback"
  | scrollbackNotPositive => "scrollback"
  | promptBlank => "prompt"
  | unknownSetting name => name
  | unchangeable name => name

/-- The word for the kind of an issue. -/
def label : SettingsIssue → String
  | pathBlank => "path_type"
  | unknownMode => "enum"
  | scrollbackBlank => "int_type"
  | scrollbackNotPositive => "greater_than"
  | promptBlank => "string_type"
  | unknownSetting _ => "extra_forbidden"
  | unchangeable _ => "frozen_instance"

/-- The wording of an issue. -/
def message : SettingsIssue → String
  | pathBlank => "Input is not a valid path for <class 'pathlib.Path'>"
  | unknownMode => "Input should be 'strict' or 'permissive'"
  | scrollbackBlank => "Input should be a valid integer"
  | scrollbackNotPositive => "Input should be greater than 0"
  | promptBlank => "Input should be a valid string"
  | unknownSetting _ => "Extra inputs are not permitted"
  | unchangeable _ => "Instance is frozen"

end SettingsIssue

/-- Values for the settings, as a caller gives them: some, and perhaps some that do not exist. -/
structure SettingsValues where
  savePath : Given Path := .absent
  parseMode : Given String := .absent
  scrollback : Given Int := .absent
  prompt : Given String := .absent
  unknown : List String := []

/-- A value to assign: a table of named values, or anything else. -/
inductive AssignedValue
  | table
  | other
deriving DecidableEq

/-- Why an assignment fails. -/
inductive AssignError
  | refused (issue : SettingsIssue)
  | nameTaken (name : String)
  | wrongValue (name : String)
  | settingsLost
deriving DecidableEq

namespace Settings

/-- The save file used when no path is given: the one the environment names, unless it names
none. -/
def defaultSavePath (environment : Option String) : Path :=
  match environment with
  | none => Save.defaultPath
  | some text => if text = "" then Save.defaultPath else Path.ofText text

/-- The number of lines kept when none is given. -/
def defaultScrollback : Int := 1000

/-- The prompt used when none is given. -/
def defaultPrompt : String := "~ "

/-- The save file meant. -/
def readPath (environment : Option String) : Given Path → Except SettingsIssue Path
  | .absent => .ok (defaultSavePath environment)
  | .blank => .error .pathBlank
  | .value path => .ok path

/-- The parsing mode meant. -/
def readMode : Given String → Except SettingsIssue ParseMode
  | .absent => .ok .strict
  | .blank => .error .unknownMode
  | .value text =>
    match ParseMode.ofLabel? text with
    | none => .error .unknownMode
    | some mode => .ok mode

/-- A positive number of lines. -/
def readLimit (value : Int) : Except SettingsIssue { n : Nat // 0 < n } :=
  if h : 0 < value then .ok ⟨value.toNat, by omega⟩ else .error .scrollbackNotPositive

/-- The number of lines meant. -/
def readScrollback : Given Int → Except SettingsIssue { n : Nat // 0 < n }
  | .absent => readLimit defaultScrollback
  | .blank => .error .scrollbackBlank
  | .value value => readLimit value

/-- The prompt meant. -/
def readPrompt : Given String → Except SettingsIssue String
  | .absent => .ok defaultPrompt
  | .blank => .error .promptBlank
  | .value text => .ok text

/-- The issues of a value that has been read. -/
def issuesOf {α : Type} : Except SettingsIssue α → List SettingsIssue
  | .error issue => [issue]
  | .ok _ => []

/-- The settings with the given values, and defaults for the others. -/
def ofValues (environment : Option String) (values : SettingsValues) :
    Except (List SettingsIssue) Settings :=
  match readPath environment values.savePath, readMode values.parseMode,
    readScrollback values.scrollback, readPrompt values.prompt, values.unknown with
  | .ok savePath, .ok parseMode, .ok scrollback, .ok prompt, [] =>
    .ok
      { savePath, parseMode, scrollback := scrollback.1, prompt, scrollback_pos := scrollback.2 }
  | path, mode, scrollback, prompt, unknown =>
    .error
      (issuesOf path ++ issuesOf mode ++ issuesOf scrollback ++ issuesOf prompt ++
        unknown.map SettingsIssue.unknownSetting)

/-- Whether a name can be the name of a setting. -/
def isSettingName (name : String) : Bool := name.toList.head? != some '_'

/-- The names that are taken for good. -/
def fixedNames : List String := ["__fields__", "__fields_set__", "__weakref__"]

/-- The name for the kind of thing the settings are. -/
def kindName : String := "__class__"

/-- The name for the table of all settings. -/
def tableName : String := "__dict__"

/-- Assigns a value to a name. A setting never changes. The kind of the settings is not changed by
any value, nor their table by a value that is none; another table has none of the settings. -/
def assign (settings : Settings) (name : String) (value : AssignedValue) :
    Except AssignError Settings :=
  if isSettingName name then .error (.refused (.unchangeable name))
  else if name ∈ fixedNames then .error (.nameTaken name)
  else if name = kindName then .error (.wrongValue name)
  else if name = tableName then
    match value with
    | .table => .error .settingsLost
    | .other => .error (.wrongValue name)
  else .ok settings

end Settings

end CoinConsole
