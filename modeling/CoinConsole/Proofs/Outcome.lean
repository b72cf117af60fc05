/-!
# Outcomes of a step that may fail

What can be said about a mapped outcome without knowing whether it is a result or an error.
-/

namespace CoinConsole

theorem map_eq_ok_iff {ε α β : Type} {f : α → β} {x : Except ε α} {b : β} :
    x.map f = .ok b ↔ ∃ a, x = .ok a ∧ f a = b := by
  cases x <;> simp [Except.map]

theorem map_eq_error_iff {ε α β : Type} {f : α → β} {x : Except ε α} {e : ε} :
    x.map f = .error e ↔ x = .error e := by
  cases x <;> simp [Except.map]

theorem map_map {ε α β γ : Type} (f : β → γ) (g : α → β) (x : Except ε α) :
    (x.map g).map f = x.map (f ∘ g) := by
  cases x <;> rfl

theorem mapError_map {ε δ α β : Type} (f : α → β) (g : ε → δ) (x : Except ε α) :
    (x.map f).mapError g = (x.mapError g).map f := by
  cases x <;> rfl

end CoinConsole
