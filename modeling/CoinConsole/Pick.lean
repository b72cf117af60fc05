/-!
# Indices from either end

An index counts from the front of a list, or from its end when it is negative: `-1` is the last
element. An index past the end and one before the front are told apart.
-/

namespace CoinConsole

/-- A negative index that reaches beyond the front of a list. -/
inductive IndexError
  | beforeFront
deriving DecidableEq

/-- The element at `index`, counted from the end if negative; `none` past the end. -/
def pick {α : Type} (xs : List α) (index : Int) : Except IndexError (Option α) :=
  if 0 ≤ index then .ok xs[index.toNat]?
  else if 0 ≤ xs.length + index then .ok xs[(xs.length + index).toNat]?
  else .error .beforeFront

end CoinConsole
