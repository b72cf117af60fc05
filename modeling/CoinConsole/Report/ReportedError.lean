import CoinConsole.Game.Dispatch
import CoinConsole.Instruction.Grammar
import CoinConsole.Report.Diagnostic
import CoinConsole.Save.Error

/-!
# Reported errors

The errors a player gets to see, in four families that have nothing in common but how they are
reported: as one line of text, and as a diagnostic with a stable code.
-/

namespace CoinConsole

/-- An error that is reported to the player. -/
inductive ReportedError
  | lex (error : LexError)
  | parse (error : ParseError)
  | handle (error : HandleError)
  | save (error : SaveError)
deriving DecidableEq

namespace ReportedError

/-- The wording of the error. -/
def message : ReportedError → String
  | lex e => e.message
  | parse e => e.message
  | handle e => e.message
  | save e => e.message

/-- The span the error is about; the start of the line, if it is about none. -/
def span : ReportedError → Span
  | lex e => e.span
  | parse e => e.span
  | handle _ => .empty 0
  | save _ => .empty 0

/-- The code of the error. -/
def code : ReportedError → Code
  | lex (.unknownCharacter _ _) => .unknownCharacter
  | lex (.badNumber _ _) => .numberParse
  | parse (.missingToken _) => .expectedToken
  | parse (.unexpectedToken _) => .unexpectedToken
  | parse (.expected _ _) => .expected
  | handle (.notFound _) => .notFound
  | handle (.wrongArgumentType _ _) => .wrongArgumentType
  | save (.missing _) => .saveNotFound
  | save (.corrupt _ _) => .saveCorrupt
  | save (.notCreated _ _) => .saveCorrupt

/-- The diagnostic for the error. -/
def toDiagnostic (error : ReportedError) : Diagnostic :=
  { code := error.code.label
    message := error.message
    span := error.span
    severity := .error
    hint := error.code.hint?
    category := some error.code.category.label }

end ReportedError

end CoinConsole
