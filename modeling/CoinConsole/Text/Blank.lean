import CoinConsole.Text.CodeRun

/-!
# Blanks

The characters that separate tokens and are dropped from the ends of a line: the spaces of
Unicode, the line and paragraph separators, and the control characters that move the print
position or separate records.
-/

namespace CoinConsole.Text

/-- The code points that are blank. -/
def blankRuns : CodeRuns :=
  [(0x9, 0xD), (0x1C, 0x20), (0x85, 0x85), (0xA0, 0xA0), (0x1680, 0x1680), (0x2000, 0x200A),
   (0x2028, 0x2029), (0x202F, 0x202F), (0x205F, 0x205F), (0x3000, 0x3000)]

/-- Whether `c` is blank. -/
def isBlank (c : Char) : Bool := blankRuns.covers c

/-- The list without the elements satisfying `p` at its two ends. -/
def trimEnds (p : Char → Bool) (cs : List Char) : List Char :=
  ((cs.dropWhile p).reverse.dropWhile p).reverse

/-- The text without the blanks at its two ends. -/
def strip (text : String) : String := String.ofList (trimEnds isBlank text.toList)

end CoinConsole.Text
