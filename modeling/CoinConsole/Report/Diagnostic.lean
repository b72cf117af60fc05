import CoinConsole.Span

/-!
# Diagnostics

A diagnostic is a report that a player or a tool can act on: a stable code, one line of text, the
span it is about, and a hint where the code has one.
-/

namespace CoinConsole

/-- How serious a diagnostic is. The program itself reports errors only; what it is handed may be
less serious, or may use a word of its own. -/
inductive Severity
  | error
  | warning
  | other (label : String)
deriving DecidableEq

namespace Severity

/-- The word for a severity. -/
def label : Severity → String
  | error => "error"
  | warning => "warning"
  | other word => word

/-- The severity a word stands for. -/
def ofLabel : String → Severity
  | "error" => error
  | "warning" => warning
  | word => other word

end Severity

/-- The part of the program a diagnostic comes from. -/
inductive Category
  | lexer
  | parser
  | handle
  | save
deriving DecidableEq

/-- The word for a category. -/
def Category.label : Category → String
  | lexer => "lexer"
  | parser => "parser"
  | handle => "handle"
  | save => "save"

/-- The stable codes of the errors the program reports. -/
inductive Code
  | unknownCharacter
  | numberParse
  | expectedToken
  | unexpectedToken
  | expected
  | notFound
  | wrongArgumentType
  | saveNotFound
  | saveCorrupt
deriving DecidableEq

namespace Code

/-- The spelling of a code. -/
def label : Code → String
  | unknownCharacter => "LEXER_UNKNOWN_CHARACTER"
  | numberParse => "LEXER_NUMBER_PARSE"
  | expectedToken => "PARSER_EXPECTED_TOKEN"
  | unexpectedToken => "PARSER_UNEXPECTED_TOKEN"
  | expected => "PARSER_EXPECTED"
  | notFound => "HANDLE_NOT_FOUND"
  | wrongArgumentType => "HANDLE_WRONG_ARGUMENT_TYPE"
  | saveNotFound => "SAVE_NOT_FOUND"
  | saveCorrupt => "SAVE_CORRUPT"

/-- The category of a code. -/
def category : Code → Category
  | unknownCharacter | numberParse => .lexer
  | expectedToken | unexpectedToken | expected => .parser
  | notFound | wrongArgumentType => .handle
  | saveNotFound | saveCorrupt => .save

/-- What to try after an error with this code. -/
def hint? : Code → Option String
  | unknownCharacter => some "Commands only use names, integers, `(`, `)`, `.` and `,`."
  | numberParse => some "Use a value between -9223372036854775808 and 9223372036854775807."
  | notFound => some "Type `:help` to list the available commands."
  | saveNotFound => some "Run with `--init` to create a fresh save."
  | _ => none

end Code

/-- A report on a command line or a save file. -/
structure Diagnostic where
  code : String
  message : String
  span : Span
  severity : Severity := .error
  hint : Option String := none
  category : Option String := none
deriving DecidableEq

/-- Whether one of the diagnostics is an error. -/
def hasErrors (diagnostics : List Diagnostic) : Bool :=
  diagnostics.any fun d => decide (d.severity = .error)

end CoinConsole
