import CoinConsole.Text.Printable

/-!
# Quoted text

A text between quotes, on one line and without ambiguity. Single quotes are used unless the text
holds a single quote and no double one. Inside, the quote itself and the backslash are escaped,
as is every character that is not printable: by name where it has a short one, and otherwise by
its code point in two, four or eight hexadecimal digits.
-/

namespace CoinConsole.Text

/-- The quote put around `text`. -/
def quoteFor (cs : List Char) : Char := if cs.contains '\'' && !cs.contains '"' then '"' else '\''

/-- The hexadecimal digits of `n`, filled with zeros to `width`. -/
def hexDigits (width n : Nat) : List Char := (Nat.toDigits 16 n).leftpad width '0'

/-- How a character is written between quotes of the kind `quote`. -/
def escapeChar (quote c : Char) : List Char :=
  if c = quote ∨ c = '\\' then ['\\', c]
  else if c = '\n' then ['\\', 'n']
  else if c = '\r' then ['\\', 'r']
  else if c = '\t' then ['\\', 't']
  else if isPrintable c then [c]
  else if c.toNat < 0x100 then '\\' :: 'x' :: hexDigits 2 c.toNat
  else if c.toNat < 0x10000 then '\\' :: 'u' :: hexDigits 4 c.toNat
  else '\\' :: 'U' :: hexDigits 8 c.toNat

/-- The characters of a quoted text. -/
def quoteChars (cs : List Char) : List Char :=
  quoteFor cs :: cs.flatMap (escapeChar (quoteFor cs)) ++ [quoteFor cs]

/-- The text in quotes. -/
def quoted (text : String) : String := String.ofList (quoteChars text.toList)

end CoinConsole.Text
