import CoinConsole.Text.Blank
import CoinConsole.Text.DecimalDigit

/-!
# Numerals

Reading integers in base ten. A numeral is an optional sign and then digits, where one underscore
may stand between two digits; blanks around it do not count. Leading zeros are digits like any
other, and a numeral of more than `maxNumeralDigits` digits is refused whatever its value.
-/

namespace CoinConsole.Text

/-- The most digits a numeral may have. -/
def maxNumeralDigits : Nat := 4300

/-- The values of the digits of an unsigned numeral, most significant first. -/
def readDigits : List Char → Option (List Nat)
  | [] => none
  | c :: rest =>
    match decimalDigit? c, rest with
    | none, _ => none
    | some d, [] => some [d]
    | some d, '_' :: rest => (readDigits rest).map (d :: ·)
    | some d, rest => (readDigits rest).map (d :: ·)

/-- The number with the given decimal digits, most significant first. -/
def ofDigits (digits : List Nat) : Nat := digits.foldl (fun n d => 10 * n + d) 0

/-- The value of an unsigned numeral. -/
def readNatural (cs : List Char) : Option Nat :=
  match readDigits cs with
  | none => none
  | some digits => if digits.length ≤ maxNumeralDigits then some (ofDigits digits) else none

/-- The value of a numeral with an optional sign. -/
def readSigned : List Char → Option Int
  | '-' :: rest => (readNatural rest).map fun n => -(n : Int)
  | '+' :: rest => (readNatural rest).map fun n => (n : Int)
  | rest => (readNatural rest).map fun n => (n : Int)

/-- The blanks that may stand around a numeral: all but the four separators of records. -/
def isNumeralBlank (c : Char) : Bool := isBlank c && !(0x1C ≤ c.toNat && c.toNat ≤ 0x1F)

/-- The integer a text stands for, if it is a numeral. -/
def readInteger (text : String) : Option Int := readSigned (trimEnds isNumeralBlank text.toList)

end CoinConsole.Text
