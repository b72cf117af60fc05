import CoinConsole.Span
import CoinConsole.Token.Kind

/-!
# Tokens

A token is a piece of a command line together with the span it was read from. Integers carry
their value, which their text alone does not fix: `007` and `7` have the same one.
-/

namespace CoinConsole

/-- A piece of a command line. -/
structure Token where
  kind : TokenKind
  span : Span
  text : String
  value : Option Int := none
deriving DecidableEq

/-- Why a token cannot be put together. -/
inductive TokenError
  | span (error : SpanError)
  | notMark (kind : TokenKind)
deriving DecidableEq

namespace Token

/-- A name starting at `start`. -/
def keyword (text : String) (start : Int) : Except TokenError Token :=
  match Span.ofOffset start text.length with
  | .error e => .error (.span e)
  | .ok span => .ok { kind := .keyword, span, text }

/-- An integer starting at `start`, written as `text` or in plain decimal digits. -/
def integer (value : Int) (start : Int) (text : Option String) : Except TokenError Token :=
  let text := text.getD (toString value)
  match Span.ofOffset start text.length with
  | .error e => .error (.span e)
  | .ok span => .ok { kind := .integer, span, text, value := some value }

/-- A mark starting at `start`. -/
def mark (kind : TokenKind) (start : Int) : Except TokenError Token :=
  match Span.ofOffset start 1, kind.mark? with
  | .error e, _ => .error (.span e)
  | .ok _, none => .error (.notMark kind)
  | .ok span, some c => .ok { kind, span, text := String.singleton c }

/-- The token moved by `offset` positions to the right. -/
def shift (token : Token) (offset : Nat) : Token := { token with span := token.span.shift offset }

/-- What is shown for a token, or for the end of the line when there is none. -/
def show? : Option Token → String
  | none => TokenKind.endOfInput.display
  | some token => if token.kind = .endOfInput then TokenKind.endOfInput.display else token.text

end Token

/-- What a reader meets at a place of the line: a token, or the end of the line. -/
inductive Found
  | token (token : Token)
  | nothing (span : Span)
deriving DecidableEq

namespace Found

/-- Where it was met. -/
def span : Found → Span
  | token t => t.span
  | nothing s => s

/-- The token, if there is one. -/
def token? : Found → Option Token
  | token t => some t
  | nothing _ => none

/-- How error messages name it. -/
def describe : Found → String
  | token t => s!"'{t.text}'"
  | nothing _ => "none"

end Found

end CoinConsole
