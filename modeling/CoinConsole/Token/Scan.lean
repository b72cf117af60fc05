import CoinConsole.Text.Letter
import CoinConsole.Text.Numeral
import CoinConsole.Token.Basic

/-!
# Reading tokens

A line is read from left to right in one pass that looks at most one character ahead. Blanks
separate tokens and are dropped. A name is a letter and all name characters after it, a number a
digit, or a minus sign before a digit, with all digits and underscores after it: both take as much
as they can. Reading ends at the first character that begins no token and at the first number
that is no 64-bit numeral.

`Lexer` keeps what is left to read, so that reading can be taken up again after an error: behind a
refused number, but still before an unknown character.
-/

namespace CoinConsole

/-! ## Errors -/

/-- Why a line cannot be cut into tokens. -/
inductive LexError
  | unknownCharacter (position : Nat) (char : String)
  | badNumber (position : Nat) (text : String)
deriving DecidableEq

namespace LexError

/-- Where the offending text starts. -/
def position : LexError → Nat
  | unknownCharacter p _ => p
  | badNumber p _ => p

/-- The span of the offending text. -/
def span : LexError → Span
  | unknownCharacter p _ => .ofLength p 1
  | badNumber p text => .ofLength p text.length

/-- The wording of the error. -/
def message : LexError → String
  | unknownCharacter p char => s!"Unexpected char '{char}' at {p}"
  | badNumber p text => s!"Failed to parse number '{text}' at {p}"

end LexError

/-! ## Integers of 64 bits -/

/-- The least integer a command may name. -/
def minInteger : Int := -0x8000000000000000

/-- The greatest integer a command may name. -/
def maxInteger : Int := 0x7FFFFFFFFFFFFFFF

/-- The value of a number in a command: a numeral that fits in 64 bits. -/
def readLiteral (text : String) : Option Int :=
  match Text.readInteger text with
  | none => none
  | some value => if minInteger ≤ value ∧ value ≤ maxInteger then some value else none

/-! ## The pass over the line -/

/-- Whether a number starts with `c` before `rest`. -/
def startsNumber (c : Char) (rest : List Char) : Bool :=
  c.isDigit || (c == '-' && (rest.head?.any Char.isDigit))

/-- Whether `c` may follow the start of a number. -/
def isNumberChar (c : Char) : Bool := c.isDigit || c == '_'

/-- What is left to read, and the position at which it starts. -/
structure Lexer where
  position : Nat
  rest : List Char
deriving DecidableEq

namespace Lexer

/-- A lexer at the start of a line. -/
def ofText (text : String) : Lexer := { position := 0, rest := text.toList }

/-- Whether everything has been read. -/
def isAtEnd (lexer : Lexer) : Bool := lexer.rest.isEmpty

end Lexer

theorem length_dropWhile_le {α : Type} (p : α → Bool) (xs : List α) :
    (xs.dropWhile p).length ≤ xs.length :=
  (List.dropWhile_sublist p).length_le

/-- Reads all tokens of `cs`, which starts at `position`, and says where reading stopped. -/
def scan (position : Nat) : List Char → Except LexError (List Token) × Lexer
  | [] => (.ok [], { position, rest := [] })
  | c :: rest =>
    if Text.isBlank c then scan (position + 1) rest
    else if Text.isLetter c then
      let run := c :: rest.takeWhile Text.isNameChar
      let token : Token :=
        { kind := .keyword, span := .ofLength position run.length, text := String.ofList run }
      let later := scan (position + run.length) (rest.dropWhile Text.isNameChar)
      (later.1.map (token :: ·), later.2)
    else if startsNumber c rest then
      let run := c :: rest.takeWhile isNumberChar
      match readLiteral (String.ofList run) with
      | none =>
        (.error (.badNumber position (String.ofList run)),
          { position := position + run.length, rest := rest.dropWhile isNumberChar })
      | some value =>
        let token : Token :=
          { kind := .integer, span := .ofLength position run.length, text := String.ofList run
            value := some value }
        let later := scan (position + run.length) (rest.dropWhile isNumberChar)
        (later.1.map (token :: ·), later.2)
    else
      match TokenKind.ofMark? c with
      | none =>
        (.error (.unknownCharacter position (String.singleton c)), { position, rest := c :: rest })
      | some kind =>
        let token : Token := { kind, span := .ofLength position 1, text := String.singleton c }
        let later := scan (position + 1) rest
        (later.1.map (token :: ·), later.2)
termination_by cs => cs.length
decreasing_by
  all_goals
    have := length_dropWhile_le Text.isNameChar rest
    have := length_dropWhile_le isNumberChar rest
    simp only [List.length_cons]
    omega

/-- Reads the rest of the line. -/
def Lexer.tokenize (lexer : Lexer) : Except LexError (List Token) × Lexer :=
  scan lexer.position lexer.rest

/-- The tokens of a line. -/
def tokenize (text : String) : Except LexError (List Token) := (Lexer.ofText text).tokenize.1

end CoinConsole
