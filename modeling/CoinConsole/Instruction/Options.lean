import CoinConsole.Text.Quoted

/-!
# Parsing modes

A strict reader wants the instruction to fill the whole line. A permissive one stops behind it
and ignores what is left.
-/

namespace CoinConsole

/-- How much a reader tolerates. -/
inductive ParseMode
  | strict
  | permissive
deriving DecidableEq

namespace ParseMode

/-- The word for a mode. -/
def label : ParseMode → String
  | strict => "strict"
  | permissive => "permissive"

/-- The mode a word stands for; case matters. -/
def ofLabel? : String → Option ParseMode
  | "strict" => some strict
  | "permissive" => some permissive
  | _ => none

end ParseMode

/-- What names no parsing mode: no word at all, or a word for none of them. -/
inductive UnknownMode
  | blank
  | word (text : String)
deriving DecidableEq

/-- The wording of the error. -/
def UnknownMode.message : UnknownMode → String
  | blank => "None is not a valid ParseMode"
  | word text => s!"{Text.quoted text} is not a valid ParseMode"

/-- The mode a word stands for. -/
def ParseMode.read : Option String → Except UnknownMode ParseMode
  | none => .error .blank
  | some text =>
    match ParseMode.ofLabel? text with
    | none => .error (.word text)
    | some mode => .ok mode

/-- What a reader demands of its input. -/
structure ParserOptions where
  mode : ParseMode := .strict
  requireEndOfInput : Bool := true
deriving DecidableEq

/-- The options of a mode: only a permissive reader may leave tokens over. -/
def ParserOptions.forMode (mode : ParseMode) : ParserOptions :=
  { mode, requireEndOfInput := decide (mode ≠ .permissive) }

/-- Options and a mode were both given. -/
inductive OptionsConflict
  | bothGiven
deriving DecidableEq

/-- The wording of the error. -/
def OptionsConflict.message : OptionsConflict → String
  | bothGiven => "Pass either options or mode, not both"

/-- The options in force when the caller gives options, a mode or neither. -/
def ParserOptions.resolve :
    Option ParserOptions → Option ParseMode → Except OptionsConflict ParserOptions
  | some _, some _ => .error .bothGiven
  | some options, none => .ok options
  | none, some mode => .ok (.forMode mode)
  | none, none => .ok {}

end CoinConsole
