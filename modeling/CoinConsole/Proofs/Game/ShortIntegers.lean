import CoinConsole.Game.State

/-!
# Integers that can be shown

An integer is shown if it has few enough digits, whatever its sign (`showInteger_eq_ok_iff`). How
long the integers of a save file may be is another question, which its format decides.
-/

namespace CoinConsole

/-- The integer has no more digits than can be shown. -/
def IsShort (n : Int) : Prop := (Nat.toDigits 10 n.natAbs).length ≤ maxShownDigits

instance decidableIsShort (n : Int) : Decidable (IsShort n) :=
  inferInstanceAs (Decidable (_ ≤ _))

theorem isShort_iff_lt {n : Int} : IsShort n ↔ n.natAbs < Nat.pow 10 maxShownDigits := by
  rw [IsShort, Nat.length_toDigits_le_iff (by decide) (by decide), Nat.pow_eq]

theorem isShort_zero : IsShort 0 := by decide

theorem showInteger_of_isShort {n : Int} (h : IsShort n) : showInteger n = .ok (toString n) := by
  rw [showInteger, if_pos (isShort_iff_lt.mp h)]

theorem showInteger_of_not_isShort {n : Int} (h : ¬ IsShort n) :
    showInteger n = .error .tooManyDigits := by
  rw [showInteger, if_neg (mt isShort_iff_lt.mpr h)]

theorem showInteger_eq_ok_iff {n : Int} {shown : String} :
    showInteger n = .ok shown ↔ IsShort n ∧ toString n = shown := by
  by_cases h : IsShort n
  · simp [showInteger_of_isShort h, h]
  · simp [showInteger_of_not_isShort h, h]

/-- The integers of the state can be shown. -/
structure Root.IsShort (root : Root) : Prop where
  coins : CoinConsole.IsShort root.coins
  seconds : CoinConsole.IsShort root.clock.seconds

end CoinConsole
