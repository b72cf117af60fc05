import CoinConsole.Instruction.Grammar
import CoinConsole.Pick

/-!
# Cursors

A cursor walks over a list of tokens. Its position is kept when a step fails, so the caller may
look around and go on. The steps that read instructions are those of the grammar, started at the
tokens behind the position.
-/

namespace CoinConsole

/-- A place in a list of tokens. -/
structure Cursor where
  tokens : List Token
  position : Nat
  options : ParserOptions
  position_le : position ≤ tokens.length

namespace Cursor

/-- A cursor before the first token. -/
def ofTokens (tokens : List Token) (options : ParserOptions) : Cursor :=
  { tokens, position := 0, options, position_le := Nat.zero_le _ }

/-- The tokens behind the position. -/
def rest (cursor : Cursor) : List Token := cursor.tokens.drop cursor.position

/-- The empty span behind the last token. -/
def endSpan (cursor : Cursor) : Span := CoinConsole.endSpan cursor.tokens

/-- The next token. -/
def current (cursor : Cursor) : Option Token := cursor.rest.head?

/-- The kind of the next token; at the end, `endOfInput`. -/
def currentKind (cursor : Cursor) : TokenKind := Grammar.nextKind cursor.rest

/-- Whether the next token has the given kind; at the end, whether that is `endOfInput`. -/
def isAt (cursor : Cursor) (kind : TokenKind) : Bool := decide (cursor.currentKind = kind)

/-- The token `n` places ahead. A place before the first token counts from the end. -/
def ahead (cursor : Cursor) (n : Int) : Except IndexError (Option Token) :=
  pick cursor.tokens (cursor.position + n)

/-- The cursor with the tokens `rest` left. -/
def leaving (cursor : Cursor) (rest : List Token) : Cursor :=
  { cursor with position := cursor.tokens.length - rest.length, position_le := Nat.sub_le _ _ }

/-- Runs a step of the grammar. -/
def run {α : Type} (cursor : Cursor)
    (step : Span → List Token → Except ParseError α × List Token) : Except ParseError α × Cursor :=
  let outcome := step cursor.endSpan cursor.rest
  (outcome.1, cursor.leaving outcome.2)

/-- Takes the next token, if there is one. -/
def bump (cursor : Cursor) : Option Token × Cursor :=
  (cursor.current, cursor.leaving cursor.rest.tail)

/-- Takes the next token if it has the given kind, and says whether it has. -/
def eat (cursor : Cursor) (kind : TokenKind) : Bool × Cursor :=
  if cursor.isAt kind then (true, cursor.bump.2) else (false, cursor)

/-- Takes a token that has to be of the given kind. -/
def expect (cursor : Cursor) (kind : TokenKind) : Except ParseError Token × Cursor :=
  cursor.run (Grammar.expect kind)

/-- Refuses tokens that are left over, unless the options allow them. -/
def finish (cursor : Cursor) : Except ParseError Unit := Grammar.finish cursor.options cursor.rest

/-- Takes one argument. -/
def argument (cursor : Cursor) : Except ParseError Int × Cursor := cursor.run Grammar.argument

/-- Takes a list of arguments. -/
def arguments (cursor : Cursor) : Except ParseError (List Int) × Cursor :=
  cursor.run fun _ => Grammar.arguments

/-- Takes an instruction. -/
def instruction (cursor : Cursor) : Except ParseError Instruction × Cursor :=
  cursor.run Grammar.instruction

/-- Takes an instruction and whatever the options say may follow it. -/
def command (cursor : Cursor) : Except ParseError Instruction × Cursor :=
  cursor.run (Grammar.command cursor.options)

end Cursor

end CoinConsole
