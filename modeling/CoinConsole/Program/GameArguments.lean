import CoinConsole.CommandLine.Parser
import CoinConsole.Console.Settings
import CoinConsole.Given
import CoinConsole.Log.Setup
import CoinConsole.Text.Numeral

/-!
# The command line of the game

The arguments the game is started with, and the settings that follow from them.
-/

namespace CoinConsole

/-- What the command line of the game says. -/
structure GameArguments where
  savePath : Given Path := .absent
  create : Bool := false
  permissive : Bool := false
  scrollback : Given Int := .absent
  logLevel : Log.LevelChoice := .name "WARNING"
  logFile : Given Path := .absent

namespace GameArguments

/-! ## The options -/

/-- The words for levels that can be chosen. -/
def logLevels : List String := ["DEBUG", "INFO", "WARNING", "ERROR", "CRITICAL"]

/-- Reads the number of lines to keep. -/
def readScrollback (text : String) (arguments : GameArguments) : Except String GameArguments :=
  match Text.readInteger text with
  | none => .error s!"invalid int value: {Text.quoted text}"
  | some value => .ok { arguments with scrollback := .value value }

/-- Reads a level, whose case does not matter. -/
def readLogLevel (text : String) (arguments : GameArguments) : Except String GameArguments :=
  let level := Text.upperCase text
  if logLevels.contains level then .ok { arguments with logLevel := .name level }
  else
    let choices := ", ".intercalate (logLevels.map Text.quoted)
    .error s!"invalid choice: {Text.quoted level} (choose from {choices})"

/-- The options of the game. -/
def options : List (CommandLine.OptionSpec GameArguments) :=
  [{ names := ["-h", "--help"], action := .help },
   { names := ["--save"]
     action :=
       .value (fun text arguments => .ok { arguments with savePath := .value (Path.ofText text) })
         fun arguments => { arguments with savePath := .blank } },
   { names := ["--init"], action := .switch fun arguments => { arguments with create := true } },
   { names := ["--permissive"]
     action := .switch fun arguments => { arguments with permissive := true } },
   { names := ["--scrollback"]
     action := .value readScrollback fun arguments => { arguments with scrollback := .blank } },
   { names := ["--log-level"]
     action := .value readLogLevel fun arguments => { arguments with logLevel := .blank } },
   { names := ["--log-file"]
     action :=
       .value (fun text arguments => .ok { arguments with logFile := .value (Path.ofText text) })
         fun arguments => { arguments with logFile := .blank } }]

/-! ## Help -/

/-- The options in short. -/
def usage : String :=
  "usage: termgame [-h] [--save SAVE] [--init] [--permissive]\n" ++
  "                [--scrollback SCROLLBACK]\n" ++
  "                [--log-level \x7bDEBUG,INFO,WARNING,ERROR,CRITICAL\x7d]\n" ++
  "                [--log-file LOG_FILE]\n"

/-- The options explained. -/
def help : String :=
  usage ++
  "\n" ++
  "Play the command-line game\n" ++
  "\n" ++
  "options:\n" ++
  "  -h, --help            show this help message and exit\n" ++
  "  --save SAVE           Path to the save file (default: game.save)\n" ++
  "  --init                Create a fresh save file if none exists\n" ++
  "  --permissive          Ignore tokens left over after a complete command\n" ++
  "  --scrollback SCROLLBACK\n" ++
  "                        Lines kept in the scrollback\n" ++
  "  --log-level \x7bDEBUG,INFO,WARNING,ERROR,CRITICAL\x7d\n" ++
  "                        Logging level (default: WARNING)\n" ++
  "  --log-file LOG_FILE   Write logs to this file instead of stderr\n"

/-- The command line of the game. -/
def interface : CommandLine.Interface GameArguments :=
  { program := "termgame", usage, help, options, operand := none }

/-! ## Settings -/

/-- The values for the settings that the command line gives. -/
def settingsValues (arguments : GameArguments) : SettingsValues :=
  { savePath := arguments.savePath
    parseMode := if arguments.permissive then .value ParseMode.permissive.label else .absent
    scrollback := arguments.scrollback }

end GameArguments

end CoinConsole
