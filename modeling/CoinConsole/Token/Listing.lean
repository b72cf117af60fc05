import CoinConsole.Text.Quoted
import CoinConsole.Token.Basic

/-!
# Token listings

A listing shows each token on a line of its own: its number in three digits or more, its kind in
eight columns, its span, its text in quotes, and its value if it has one.
-/

namespace CoinConsole.Token

/-- The line of a listing for the token with the given number. -/
def listingLine (index : Nat) (token : Token) : String :=
  let number := String.ofList ((toString index).toList.leftpad 3 '0')
  let kind := String.ofList (token.kind.label.toList.rightpad 8 ' ')
  let value := match token.value with
    | none => ""
    | some value => s!" value={value}"
  s!"{number} {kind} range={token.span.pairText} text={Text.quoted token.text}{value}"

/-- The lines of a listing whose first token has the given number. -/
def listingFrom (index : Nat) : List Token → List String
  | [] => []
  | token :: rest => listingLine index token :: listingFrom (index + 1) rest

/-- The listing of the tokens, each line ended by a line feed. -/
def listing (tokens : List Token) : String :=
  String.join ((listingFrom 0 tokens).map (· ++ "\n"))

end CoinConsole.Token
