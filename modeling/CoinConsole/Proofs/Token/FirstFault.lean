import Mathlib
import CoinConsole.Proofs.Token.MaximalMunch

/-!
# The first fault of a line

A line that is not cut into tokens is refused for its first fault. What stands in front of the fault
is cut by maximal munch (`exists_cut_of_tokenize_error`). No lexeme there goes on with the fault,
and so none goes on when the line ends in front of it: the front of the line is read on its own.
Which error is reported depends on the fault alone. It is a character that starts nothing, or else a
number, the whole run of it, that is no numeral of 64 bits.
-/

namespace CoinConsole

namespace RefusedWith

variable {position : Nat} {c : Char} {rest : List Char} {error : LexError}

theorem eq_unknown_iff (h : RefusedWith position (c :: rest) error) :
    error = .unknownCharacter position (String.singleton c) ↔ StartsNothing c rest := by
  generalize heq : c :: rest = cs at h
  cases h with
  | unknown nothing =>
    cases heq
    exact iff_of_true rfl nothing
  | badNumber number stops refused =>
    exact iff_of_false (by simp) (number.not_startsNothing heq.symm)

/-- A text that starts with a character that could start something is refused for its number. -/
theorem exists_number (h : RefusedWith position (c :: rest) error)
    (hstarts : ¬ StartsNothing c rest) :
    ∃ run later, c :: rest = run ++ later ∧ NumberRun run ∧ StopsAt isNumberChar later ∧
      error = .badNumber position (String.ofList run) ∧
      ∀ value, Text.readInteger (String.ofList run) = some value →
        ¬ (minInteger ≤ value ∧ value ≤ maxInteger) := by
  generalize heq : c :: rest = cs at h
  cases h with
  | unknown nothing =>
    cases heq
    exact absurd nothing hstarts
  | badNumber number stops refused =>
    refine ⟨_, _, rfl, number, stops, rfl, fun value hvalue hrange => ?_⟩
    rw [readLiteral_eq_some_iff.mpr ⟨hvalue, hrange⟩] at refused
    cases refused

end RefusedWith

/-- A line that is refused is fine up to the place of the error: what stands in front of it is read.
The error is about the character there exactly if it is no blank and no token starts with it, that
is if it is no letter, no digit, no mark, and no minus sign in front of a digit. Otherwise it is
about the number that starts there, with all its digits and underscores, which is no numeral or does
not fit in 64 bits. -/
theorem tokenize_error_at_first_fault {text : String} {error : LexError}
    (h : tokenize text = .error error) :
    (∃ tokens, tokenize (String.ofList (text.toList.take error.position)) = .ok tokens) ∧
    ∃ c rest, text.toList.drop error.position = c :: rest ∧
      (error = .unknownCharacter error.position (String.singleton c) ↔ StartsNothing c rest) ∧
      (¬ StartsNothing c rest → ∃ run later, c :: rest = run ++ later ∧ NumberRun run ∧
        StopsAt isNumberChar later ∧ error = .badNumber error.position (String.ofList run) ∧
        ∀ value, Text.readInteger (String.ofList run) = some value →
          ¬ (minInteger ≤ value ∧ value ≤ maxInteger)) := by
  obtain ⟨cut, behind, htext, hreaches, hposition, hrefused⟩ := exists_cut_of_tokenize_error h
  have hfront : text.toList.take error.position = cut.text := by
    rw [htext, hposition, List.take_left]
  have hback : text.toList.drop error.position = behind := by
    rw [htext, hposition, List.drop_left]
  refine ⟨⟨cut.tokens 0, ?_⟩, ?_⟩
  · rw [hfront]
    exact hreaches.isMaximalMunch.tokenize_eq String.toList_ofList.symm
  · obtain ⟨c, rest, rfl⟩ := List.exists_cons_of_ne_nil hrefused.ne_nil
    exact ⟨c, rest, hback, hrefused.eq_unknown_iff, hrefused.exists_number⟩

/-- A minus sign at the end of the line starts nothing; the number in front of it is fine. Two
underscores in a row spoil the whole number they are in. -/
theorem tokenize_error_at_first_fault_minus_at_end :
    (tokenize "5-" = .error (.unknownCharacter 1 "-") ∧ (∃ tokens, tokenize "5" = .ok tokens) ∧
      StartsNothing '-' []) ∧
    (tokenize "x 1__0 y" = .error (.badNumber 2 "1__0") ∧ (∃ tokens, tokenize "x " = .ok tokens) ∧
      ∃ run later, "1__0 y".toList = run ++ later ∧ NumberRun run ∧
        StopsAt isNumberChar later ∧ String.ofList run = "1__0") := by
  have hminus : tokenize "5-" = .error (.unknownCharacter 1 "-") := by cbv
  have hnumber : tokenize "x 1__0 y" = .error (.badNumber 2 "1__0") := by cbv
  obtain ⟨hfive, c, rest, hback, hunknown, -⟩ := tokenize_error_at_first_fault hminus
  obtain ⟨hx, d, behind, hbehind, hiff, hrun⟩ := tokenize_error_at_first_fault hnumber
  have hdash : "5-".toList.drop 1 = ['-'] := rfl
  have hdigits : "x 1__0 y".toList.drop 2 = "1__0 y".toList := rfl
  refine ⟨⟨hminus, hfive, ?_⟩, hnumber, hx, ?_⟩
  · obtain ⟨rfl, rfl⟩ := List.cons.inj (hdash.symm.trans hback)
    exact hunknown.mp rfl
  · obtain ⟨run, later, hcut, hformed, hstops, heq, -⟩ := hrun fun h => by cases hiff.mpr h
    have htext : "1__0" = String.ofList run := (LexError.badNumber.inj heq).2
    exact ⟨run, later, (hdigits.symm.trans hbehind).trans hcut, hformed, hstops, htext.symm⟩

end CoinConsole
