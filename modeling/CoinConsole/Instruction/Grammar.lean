import CoinConsole.Instruction.Basic
import CoinConsole.Instruction.Options
import CoinConsole.Token.Scan

/-!
# Reading instructions

The grammar of command lines, over tokens:

    instruction := name ( '(' arguments? ')' | '.' instruction )?
    arguments   := integer (',' integer)* ','?

Each routine takes the tokens that are left and gives back its result with the tokens it leaves,
also when it fails, so that reading can go on behind an error. The routines are given the span
that stands for the end of the line, which errors point at when tokens are missing.
-/

namespace CoinConsole

/-- Why tokens form no instruction. -/
inductive ParseError
  | missingToken (span : Span)
  | unexpectedToken (found : Found)
  | expected (kind : TokenKind) (found : Found)
deriving DecidableEq

namespace ParseError

/-- Where the error is. -/
def span : ParseError → Span
  | missingToken s => s
  | unexpectedToken found => found.span
  | expected _ found => found.span

/-- The wording of the error. -/
def message : ParseError → String
  | missingToken _ => "Expected a token but found none"
  | unexpectedToken found => s!"Unexpected token {found.describe}"
  | expected kind found => s!"Expected '{kind.display}' but got {found.describe}"

end ParseError

/-- The empty span behind the last token. -/
def endSpan (tokens : List Token) : Span :=
  match tokens.getLast? with
  | none => .empty 0
  | some token => .empty token.span.stop

namespace Grammar

/-- The kind of the next token; at the end of the line, `endOfInput`. -/
def nextKind : List Token → TokenKind
  | [] => .endOfInput
  | token :: _ => token.kind

/-- Takes a token of the given kind, or nothing. -/
def expect (kind : TokenKind) (stop : Span) : List Token → Except ParseError Token × List Token
  | [] => (.error (.expected kind (.nothing stop)), [])
  | token :: rest =>
    if token.kind = kind then (.ok token, rest)
    else (.error (.expected kind (.token token)), token :: rest)

/-- Takes one argument. Any other token is taken too, and refused. -/
def argument (stop : Span) : List Token → Except ParseError Int × List Token
  | [] => (.error (.missingToken stop), [])
  | token :: rest =>
    match token.kind, token.value with
    | .integer, some value => (.ok value, rest)
    | _, _ => (.error (.unexpectedToken (.token token)), rest)

/-- Takes arguments up to the first one that no comma follows, or up to a closing bracket. -/
def arguments : List Token → Except ParseError (List Int) × List Token
  | [] => (.ok [], [])
  | token :: rest =>
    if token.kind = .rightParen then (.ok [], token :: rest)
    else
      match token.kind, token.value with
      | .integer, some value =>
        match rest with
        | [] => (.ok [value], [])
        | next :: rest =>
          if next.kind = .comma then
            let later := arguments rest
            (later.1.map (value :: ·), later.2)
          else (.ok [value], next :: rest)
      | _, _ => (.error (.unexpectedToken (.token token)), rest)

/-- Takes the arguments of the function `name` and the closing bracket behind them. -/
def callOf (name : String) (stop : Span) (tokens : List Token) :
    Except ParseError Instruction × List Token :=
  match arguments tokens with
  | (.error e, rest) => (.error e, rest)
  | (.ok values, rest) =>
    let closing := expect .rightParen stop rest
    (closing.1.map fun _ => .call name values, closing.2)

/-- Takes an instruction behind the given names, the last one first. A chain of names is walked
in a loop, and the instruction is built from its end once that is reached. -/
def chain (stop : Span) (names : List String) :
    List Token → Except ParseError Instruction × List Token
  | [] => (.error (.missingToken stop), [])
  | token :: rest =>
    if token.kind ≠ .keyword then (.error (.unexpectedToken (.token token)), rest)
    else
      match rest with
      | [] => (.ok (Instruction.within names (.property token.text)), [])
      | next :: rest =>
        match next.kind with
        | .leftParen =>
          let call := callOf token.text stop rest
          (call.1.map (Instruction.within names), call.2)
        | .dot => chain stop (token.text :: names) rest
        | .endOfInput => (.ok (Instruction.within names (.property token.text)), next :: rest)
        | _ => (.error (.unexpectedToken (.token next)), next :: rest)

/-- Takes an instruction. -/
def instruction (stop : Span) (tokens : List Token) : Except ParseError Instruction × List Token :=
  chain stop [] tokens

/-- Refuses tokens that are left over, unless the options allow them. -/
def finish (options : ParserOptions) : List Token → Except ParseError Unit
  | [] => .ok ()
  | token :: _ =>
    if options.requireEndOfInput then .error (.expected .endOfInput (.token token)) else .ok ()

/-- Takes an instruction and whatever the options say may follow it. -/
def command (options : ParserOptions) (stop : Span) (tokens : List Token) :
    Except ParseError Instruction × List Token :=
  match instruction stop tokens with
  | (.error e, rest) => (.error e, rest)
  | (.ok result, rest) => ((finish options rest).map fun _ => result, rest)

end Grammar

/-! ## Whole lines -/

/-- Why a list of tokens is not read. -/
inductive ParseFailure
  | options (conflict : OptionsConflict)
  | parse (error : ParseError)
deriving DecidableEq

/-- Why a line is not read. -/
inductive LineFailure
  | lex (error : LexError)
  | options (conflict : OptionsConflict)
  | parse (error : ParseError)
deriving DecidableEq

/-- The instruction a list of tokens stands for. -/
def parse (tokens : List Token) (options : Option ParserOptions := none)
    (mode : Option ParseMode := none) : Except ParseFailure Instruction :=
  match ParserOptions.resolve options mode with
  | .error conflict => .error (.options conflict)
  | .ok options =>
    match (Grammar.command options (endSpan tokens) tokens).1 with
    | .error e => .error (.parse e)
    | .ok instruction => .ok instruction

/-- The instruction a line stands for; a line that is not made of tokens is refused first. -/
def parseText (text : String) (options : Option ParserOptions := none)
    (mode : Option ParseMode := none) : Except LineFailure Instruction :=
  match tokenize text with
  | .error e => .error (.lex e)
  | .ok tokens =>
    match parse tokens options mode with
    | .error (.options conflict) => .error (.options conflict)
    | .error (.parse e) => .error (.parse e)
    | .ok instruction => .ok instruction

end CoinConsole
