import CoinConsole.CommandLine.Parser
import CoinConsole.Instruction.Outline
import CoinConsole.Report.ReportedError
import CoinConsole.Token.Listing

/-!
# Inspecting a command line

A small program beside the game that shows how a command line is read: its tokens, and the
instruction or the error they lead to.
-/

namespace CoinConsole

/-- What the command line of the inspector says. -/
structure InspectArguments where
  command : String := ""
  permissive : Bool := false

/-- What the inspector leaves behind: its exit code, unless it breaks off, its output, and its
complaint on standard error. -/
structure Inspection where
  code : Except Instruction.OutlineError Nat
  output : String
  complaint : Option String

namespace InspectArguments

/-- The options in short. -/
def usage : String := "usage: dump_tokens.py [-h] [--permissive] command\n"

/-- The options explained. -/
def help : String :=
  usage ++
  "\n" ++
  "Dump tokens and the parsed instruction for a command\n" ++
  "\n" ++
  "positional arguments:\n" ++
  "  command       Command line to inspect, e.g. 'clock.advance(5)'\n" ++
  "\n" ++
  "options:\n" ++
  "  -h, --help    show this help message and exit\n" ++
  "  --permissive  Ignore trailing tokens\n"

/-- The command line of the inspector. -/
def interface : CommandLine.Interface InspectArguments :=
  { program := "dump_tokens.py", usage, help
    options :=
      [{ names := ["-h", "--help"], action := .help },
       { names := ["--permissive"]
         action := .switch fun arguments => { arguments with permissive := true } }]
    operand :=
      some { name := "command", set := fun text arguments => { arguments with command := text } } }

/-- The parsing mode asked for. -/
def mode (arguments : InspectArguments) : ParseMode :=
  if arguments.permissive then .permissive else .strict

end InspectArguments

namespace Inspection

/-- How the inspector shows an error. -/
def errorText (error : ReportedError) : String :=
  s!"\n{error.code.label}: {error.message} range={error.span.pairText}\n"

/-- Shows how a command line is read in the given mode. -/
def ofCommand (text : String) (mode : ParseMode) : Inspection :=
  match tokenize text with
  | .error e => { code := .ok 1, output := errorText (.lex e), complaint := none }
  | .ok tokens =>
    let listing := Token.listing tokens
    match (Grammar.command (.forMode mode) (endSpan tokens) tokens).1 with
    | .error e => { code := .ok 1, output := listing ++ errorText (.parse e), complaint := none }
    | .ok instruction =>
      match instruction.boundedOutline with
      | .error e => { code := .error e, output := listing, complaint := none }
      | .ok outline =>
        { code := .ok 0, output := listing ++ s!"\n{outline}\n", complaint := none }

/-- Runs the inspector. -/
def ofArguments (arguments : List String) : Inspection :=
  match InspectArguments.interface.parse {} arguments with
  | .error .help => { code := .ok 0, output := InspectArguments.help, complaint := none }
  | .error (.problem message) =>
    { code := .ok 2, output := ""
      complaint := some (InspectArguments.interface.complaint message) }
  | .ok arguments => ofCommand arguments.command arguments.mode

end Inspection

end CoinConsole
