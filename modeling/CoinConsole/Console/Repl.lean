import CoinConsole.Console.Basic

/-!
# Reading lines until the end

The console is run by reading a line behind a prompt and showing what it adds, without the echo,
which the terminal shows already. This ends when the console has been told to quit, when there is
no line left to read, or when a value cannot be shown.
-/

namespace CoinConsole

/-- What happens on the screen. -/
inductive ScreenEvent
  | prompt (text : String)
  | line (text : String)
deriving DecidableEq

/-- A run of the console: what happened on the screen, what was logged, the console afterwards, the
lines that were not read, and why the run broke off, if it did. -/
structure Run where
  events : List ScreenEvent
  records : List Log.Record
  console : Console
  unread : List String
  fault : Option ShowError := none

namespace Run

/-- The part of the program that runs the console, as named in log records. -/
def logger : String := "termgame.console.console"

/-- What is logged when there is no line left to read. -/
def closedRecord : Log.Record :=
  { level := .info, logger, message := "Input closed, leaving the console" }

/-- What happens before a run that is known. -/
def after (events : List ScreenEvent) (records : List Log.Record) (run : Run) : Run :=
  { run with events := events ++ run.events, records := records ++ run.records }

/-- The lines shown. -/
def output (run : Run) : List String :=
  run.events.filterMap fun event =>
    match event with
    | .line text => some text
    | .prompt _ => none

/-- The prompts shown. -/
def prompts (run : Run) : List String :=
  run.events.filterMap fun event =>
    match event with
    | .prompt text => some text
    | .line _ => none

/-- What is on the screen: a line feed follows each line, but no prompt. -/
def screen (run : Run) : String :=
  String.join (run.events.map fun event =>
    match event with
    | .line text => text ++ "\n"
    | .prompt text => text)

end Run

/-- Runs the console on the given lines, after which the input is closed. -/
def Console.run (console : Console) : List String → Run
  | [] =>
    if console.running then
      { events := [.prompt console.settings.prompt, .line ""], records := [Run.closedRecord]
        console, unread := [] }
    else { events := [], records := [], console, unread := [] }
  | line :: rest =>
    if console.running then
      let reply := console.submit line
      let prompt : ScreenEvent := .prompt console.settings.prompt
      match reply.lines with
      | .error e =>
        { events := [prompt], records := reply.records, console := reply.console, unread := rest
          fault := some e }
      | .ok lines =>
        (reply.console.run rest).after (prompt :: (lines.drop 1).map .line) reply.records
    else { events := [], records := [], console, unread := line :: rest }

end CoinConsole
