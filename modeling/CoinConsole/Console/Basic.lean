import CoinConsole.Console.Settings
import CoinConsole.Console.Transcript
import CoinConsole.Game.Command

/-!
# The console

The console takes one line after the other. A line that starts with a colon is addressed to the
console itself; any other line that is not blank is a command to the game. All lines shown, with
an echo of the line typed, go into the transcript. A command whose value cannot be shown is carried
out all the same, but its line leaves no trace in the transcript.
-/

namespace CoinConsole

/-- A game at the console. -/
structure Console where
  root : Root
  settings : Settings
  transcript : Transcript
  running : Bool

/-- The lines a line adds, echo first, the console after it, and what is logged about it. -/
structure Reply where
  lines : Except ShowError (List String)
  console : Console
  records : List Log.Record

namespace Console

/-- The lines shown by `:help`. -/
def helpLines : List String :=
  ["coins              current coin count",
   "add(n)             add n coins",
   "spend(n)           spend n coins if you have them",
   "reset()            set coins back to 0",
   "clock.seconds      elapsed in-game seconds",
   "clock.advance(n)   move the clock forward n seconds",
   ":help              show this list",
   ":history [n]       show the last n lines (default 20)",
   ":quit, :exit       save and leave"]

/-- The number of lines `:history` shows when none is given. -/
def defaultHistory : Int := 20

/-- A console for a game, with an empty transcript. -/
def start (root : Root) (settings : Settings) : Except TranscriptError Console :=
  match Transcript.ofLimit settings.scrollback with
  | .error e => .error e
  | .ok transcript => .ok { root, settings, transcript, running := true }

/-- The lines of the transcript that `:history` shows for its argument. -/
def history (transcript : Transcript) (argument : String) : List String :=
  if argument = "" then transcript.visible defaultHistory
  else
    match Text.readInteger argument with
    | none => ["Usage: :history [lines]"]
    | some height => transcript.visible height

/-- The first word of a line, up to a space, and what is behind that space. -/
def splitCommand (line : String) : String × String :=
  let cs := line.toList
  (String.ofList (cs.takeWhile (· != ' ')), String.ofList ((cs.dropWhile (· != ' ')).drop 1))

/-- Whether a command to the console ends the session. -/
def isQuit (name : String) : Bool := name == ":quit" || name == ":exit"

/-- Carries out a command to the console: the lines it shows, and whether the console goes on. -/
def control (transcript : Transcript) (line : String) : List String × Bool :=
  let (name, rest) := splitCommand line
  if isQuit name then ([], false)
  else if name = ":help" then (helpLines, true)
  else if name = ":history" then (history transcript (Text.strip rest), true)
  else ([s!"Unknown console command '{name}'"], true)

/-- The console after it has shown `lines`. -/
def shown (console : Console) (lines : List String) : Console :=
  { console with transcript := console.transcript.extend lines }

/-- Takes a line. -/
def submit (console : Console) (line : String) : Reply :=
  let echo := console.settings.prompt ++ line
  let stripped := Text.strip line
  if stripped = "" then { lines := .ok [echo], console := console.shown [echo], records := [] }
  else if stripped.toList.head? = some ':' then
    let answer := control console.transcript stripped
    let lines := echo :: answer.1
    { lines := .ok lines
      console := { console.shown lines with running := console.running && answer.2 }
      records := [] }
  else
    let outcome := runLine line console.root console.settings.parseMode
    let after := { console with root := outcome.root }
    let records := outcome.record.toList
    match outcome.result.render with
    | .error e => { lines := .error e, console := after, records }
    | .ok shown =>
      { lines := .ok [echo, shown], console := after.shown [echo, shown], records }

end Console

end CoinConsole
