/-!
# Runs of code points

A class of characters is kept as an increasing list of inclusive runs of code points, which is
how such classes are tabulated. Membership walks the list and stops at the first run that starts
beyond the code point it looks for.
-/

namespace CoinConsole.Text

/-- Inclusive runs of code points, in increasing order and apart from each other. -/
abbrev CodeRuns := List (Nat × Nat)

/-- Whether one of the runs holds the code point `n`. -/
def CodeRuns.holds : CodeRuns → Nat → Bool
  | [], _ => false
  | (first, last) :: rest, n =>
    if n < first then false else if n ≤ last then true else CodeRuns.holds rest n

/-- Whether the class described by `runs` has the character `c`. -/
def CodeRuns.covers (runs : CodeRuns) (c : Char) : Bool := runs.holds c.toNat

end CoinConsole.Text
