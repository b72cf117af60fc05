import CoinConsole.Log.Stamp
import CoinConsole.Program.Play
import Std.Time.Zoned

/-!
# The game at a terminal

Plays the game on the files of the disk and the lines of a terminal. The files a run may use are
read into a table, the steps of `Play` work on that table, and after each step the files it has
changed are put back.
-/

namespace CoinConsole.Terminal

/-! ## Time -/

/-- The present moment. -/
def now : IO String := do
  let moment ← Std.Time.PlainDateTime.now
  let stamp : Log.Stamp :=
    { year := moment.year.toInt.toNat
      month := moment.month.toInt.toNat
      day := moment.day.toInt.toNat
      hour := moment.hour.toInt.toNat
      minute := moment.minute.toInt.toNat
      second := moment.second.toInt.toNat
      millisecond := (moment.nanosecond.toInt / 1000000).toNat }
  return stamp.text

/-! ## Files -/

/-- How the system calls a location. -/
def nameOf (place : Location) : String := "/" ++ "/".intercalate place

/-- What stands at a location of the disk. -/
def look (place : Location) : IO (Option Node) := do
  let file := (← IO.currentDir) / nameOf place
  if ← file.isDir then return some .directory
  if ← file.pathExists then return some (.file (← IO.FS.readBinFile file))
  return none

/-- The files on the way to the given paths. -/
def observe (paths : List Path) : IO FileSystem := do
  let current := (Path.ofText (← IO.currentDir).toString).names
  let mut files : FileSystem := { current, nodes := [] }
  for path in paths do
    for names in [files.namesFromRoot path, (files.absolute path).names] do
      for place in FileSystem.trail [] names do
        if let some node ← look place then files := files.put place node
  return files

/-- Puts a file on the disk. A file that has only grown is appended to; any other one is written
beside its place first and then moved there. -/
def putFile (place : Location) (old : Option Node) (content : ByteArray) : IO Unit := do
  match old with
  | some (.file start) =>
    if content.extract 0 start.size = start then
      let handle ← IO.FS.Handle.mk (nameOf place) .append
      handle.write (content.extract start.size content.size)
      return
  | _ => pure ()
  let beside := nameOf place ++ ".new"
  IO.FS.writeBinFile beside content
  IO.FS.rename beside (nameOf place)

/-- Puts on the disk what differs between two tables of files. -/
def putChanges (before after : FileSystem) : IO Unit := do
  for (place, node) in after.nodes do
    if let .file content := node then
      if before.node? place ≠ some node then putFile place (before.node? place) content
  for (place, node) in before.nodes do
    if let .file _ := node then
      if (after.node? place).isNone then IO.FS.removeFile (nameOf place)

/-- Puts on the disk and on standard error what has changed. -/
def commit (before : Stage) (after : Stage) : IO Stage := do
  putChanges before.files after.files
  for line in after.journal.stderr do IO.eprintln line
  return { after with journal := { after.journal with stderr := [] } }

/-! ## Playing -/

/-- Takes lines from the terminal until there is none left, the player quits, or a value cannot be
shown. -/
partial def converse (console : Console) (stage : Stage) :
    IO (Option ShowError × Console × Stage) := do
  if !console.running then return (none, console, stage)
  let output ← IO.getStdout
  output.putStr console.settings.prompt
  output.flush
  let input ← (← IO.getStdin).getLine
  match Play.inputLines input with
  | [] =>
    output.putStrLn ""
    return (none, console, ← commit stage (stage.log (← now) Run.closedRecord))
  | line :: _ =>
    let reply := console.submit line
    let logged ← commit stage (stage.logAll (← now) reply.records)
    match reply.lines with
    | .error e => return (some e, reply.console, logged)
    | .ok lines =>
      for shown in lines.drop 1 do output.putStrLn shown
      converse reply.console logged

/-- Ends the program. -/
def finish (before : Stage) (done : Performance) : IO UInt32 := do
  IO.print done.screen
  let _ ← commit before done.stage
  match done.ending with
  | .exit code => return code.toUInt32
  | .failed failure =>
    IO.eprintln failure.message
    return 1

/-- Plays the game. -/
def play (invocation : Invocation) : IO UInt32 := do
  let paths := Play.paths invocation
  let opening := Stage.ofFiles (← observe paths)
  match Play.configure invocation opening with
  | (.error e, stage) => finish opening (Play.endEarly invocation.time stage e)
  | (.ok (arguments, settings), stage) =>
    let configured ← commit opening stage
    match Play.start (← now) arguments settings configured with
    | (.error e, stage) => finish configured (Play.endEarly (← now) stage e)
    | (.ok root, stage) =>
      let started ← commit configured stage
      match Console.start root settings with
      | .error e =>
        let stage := Play.close (← now) settings.savePath root started
        finish started { ending := .failed (.transcript e), screen := "", stage }
      | .ok console =>
        let (fault, console, stage) ← converse console started
        let last := stage.withFiles (← observe paths)
        let stage := Play.close (← now) settings.savePath console.root last
        let ending := match fault with
          | none => .exit 0
          | some e => .failed (.value e)
        finish last { ending, screen := "", stage }

end CoinConsole.Terminal

/-- Plays the game with the arguments of the command line. -/
def main (arguments : List String) : IO UInt32 := do
  let saveVariable ← IO.getEnv "TERMGAME_SAVE"
  CoinConsole.Terminal.play { arguments, saveVariable, time := ← CoinConsole.Terminal.now }
