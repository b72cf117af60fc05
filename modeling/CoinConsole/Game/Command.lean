import CoinConsole.Game.State
import CoinConsole.Log.Record
import CoinConsole.Report.ReportedError

/-!
# Running commands

A line is cut into tokens, read as an instruction and carried out, and the first error ends this.
The result says what came of it; a line that is refused leaves the game as it was.
-/

namespace CoinConsole

/-! ## Results -/

/-- What came of a line: its value, or what is wrong with it. The instruction is there as soon as
the line could be read. -/
structure CommandResult where
  source : String
  instruction : Option Instruction := none
  value : Option Value := none
  diagnostics : List Diagnostic := []
deriving DecidableEq

namespace CommandResult

/-- Whether the line was refused. -/
def hasErrors (result : CommandResult) : Bool := CoinConsole.hasErrors result.diagnostics

/-- The first thing that is wrong with the line. -/
def error? (result : CommandResult) : Option Diagnostic := result.diagnostics.head?

/-- The line shown to the player. -/
def render (result : CommandResult) : Except ShowError String :=
  match result.error?, result.value with
  | some diagnostic, _ => .ok diagnostic.message
  | none, some value => value.text
  | none, none => .ok "None"

end CommandResult

/-! ## Running -/

/-- The result of a line, the game after it, and what is logged about it: nothing, if that would
show a value that cannot be shown. -/
structure Outcome where
  result : CommandResult
  root : Root
  record : Option Log.Record
deriving DecidableEq

namespace Outcome

/-- The part of the program that runs commands, as named in log records. -/
def logger : String := "termgame.pipeline.entrypoints"

/-- The outcome of a line that is refused. -/
def refused (text : String) (instruction : Option Instruction) (error : ReportedError)
    (root : Root) : Outcome :=
  { result := { source := text, instruction, diagnostics := [error.toDiagnostic] }
    root
    record :=
      some
        { level := .debug, logger
          message :=
            s!"Command {Text.quoted text} failed with {error.code.label}: {error.message}" } }

/-- The outcome of a line that is carried out. -/
def done (text : String) (instruction : Instruction) (value : Value) (root : Root) : Outcome :=
  { result := { source := text, instruction := some instruction, value := some value }
    root
    record :=
      match value.text with
      | .error _ => none
      | .ok shown =>
        some { level := .debug, logger, message := s!"{instruction.format} -> {shown}" } }

end Outcome

/-- Carries out an instruction that was read from `text`. -/
def runInstruction (text : String) (instruction : Instruction) (root : Root) : Outcome :=
  match root.handle instruction with
  | (.error e, root) => .refused text (some instruction) (.handle e) root
  | (.ok value, root) => .done text instruction value root

/-- Runs a line. Only a caller who gives both options and a mode is refused, and only for a line
that is made of tokens. -/
def runCommand (text : String) (root : Root) (options : Option ParserOptions := none)
    (mode : Option ParseMode := none) : Except OptionsConflict Outcome :=
  match parseText text options mode with
  | .error (.lex e) => .ok (.refused text none (.lex e) root)
  | .error (.options conflict) => .error conflict
  | .error (.parse e) => .ok (.refused text none (.parse e) root)
  | .ok instruction => .ok (runInstruction text instruction root)

/-- The game after a line has been run for a caller; one who is refused has changed nothing. -/
def rootAfter (root : Root) : Except OptionsConflict Outcome → Root
  | .error _ => root
  | .ok outcome => outcome.root

/-- Runs a line in a mode, which cannot be refused. -/
def runLine (text : String) (root : Root) (mode : ParseMode) : Outcome :=
  match tokenize text with
  | .error e => .refused text none (.lex e) root
  | .ok tokens =>
    match (Grammar.command (.forMode mode) (endSpan tokens) tokens).1 with
    | .error e => .refused text none (.parse e) root
    | .ok instruction => runInstruction text instruction root

theorem runCommand_mode (text : String) (root : Root) (mode : ParseMode) :
    runCommand text root none (some mode) = .ok (runLine text root mode) := by
  unfold runCommand runLine parseText parse
  cases tokenize text with
  | error e => rfl
  | ok tokens =>
    simp only [ParserOptions.resolve]
    cases (Grammar.command (.forMode mode) (endSpan tokens) tokens).1 <;> rfl

end CoinConsole
