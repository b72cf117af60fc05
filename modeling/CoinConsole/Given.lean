/-!
# Values that may be left out

A caller who is asked for a value may say nothing about it, may leave it blank, or may give it. The
first means the default; the second is taken at its word, and is refused where a value is needed.
-/

namespace CoinConsole

/-- What a caller says about a value. -/
inductive Given (α : Type)
  | absent
  | blank
  | value (a : α)
deriving DecidableEq

/-- The value a caller has given, if it is one. -/
def Given.ofOption {α : Type} : Option α → Given α
  | none => absent
  | some a => value a

end CoinConsole
