import CoinConsole.Text.Numeral
import CoinConsole.Text.Letter

/-!
# Character classes are apart

The lexer asks of a character whether it is blank, then whether it is a letter, then whether it
starts a number. The order of these questions never matters: no character is in two of the
classes. Classes are tables of runs, so this is decided on the tables (`CodeRuns.apart`) and
carried over to characters (`CodeRuns.not_covers_of_apart`).
-/

namespace CoinConsole.Text

/-! ## Runs -/

/-- Whether no run of one list meets a run of the other. -/
def CodeRuns.apart (runs others : CodeRuns) : Bool :=
  runs.all fun r => others.all fun s => decide (r.2 < s.1 ∨ s.2 < r.1)

theorem CodeRuns.exists_mem_of_holds {runs : CodeRuns} {n : Nat} (h : runs.holds n = true) :
    ∃ run ∈ runs, run.1 ≤ n ∧ n ≤ run.2 := by
  induction runs with
  | nil => simp [CodeRuns.holds] at h
  | cons run rest ih =>
    obtain ⟨first, last⟩ := run
    rw [CodeRuns.holds] at h
    by_cases hlow : n < first
    · simp [hlow] at h
    · by_cases hhigh : n ≤ last
      · exact ⟨(first, last), by simp, Nat.le_of_not_lt hlow, hhigh⟩
      · rw [if_neg hlow, if_neg hhigh] at h
        obtain ⟨run, hmem, hrun⟩ := ih h
        exact ⟨run, by simp [hmem], hrun⟩

/-- A character of one class is in no class that lies apart from it. -/
theorem CodeRuns.not_covers_of_apart {runs others : CodeRuns} (h : runs.apart others = true)
    {c : Char} (hc : runs.covers c = true) : others.covers c = false := by
  rw [← Bool.not_eq_true]
  intro hother
  obtain ⟨r, hr, hr1, hr2⟩ := CodeRuns.exists_mem_of_holds hc
  obtain ⟨s, hs, hs1, hs2⟩ := CodeRuns.exists_mem_of_holds hother
  rw [CodeRuns.apart, List.all_eq_true] at h
  have hrs := List.all_eq_true.mp (h r hr) s hs
  rw [decide_eq_true_eq] at hrs
  omega

/-! ## Letters, digits and blanks -/

/-- The digits zero to nine of the Latin script. -/
def latinDigitRuns : CodeRuns := [(0x30, 0x39)]

theorem covers_latinDigitRuns {c : Char} (h : c.isDigit = true) :
    latinDigitRuns.covers c = true := by
  obtain ⟨hlow, hhigh⟩ := by simpa [Char.isDigit] using h
  have h48 : 0x30 ≤ c.toNat := hlow
  have h57 : c.toNat ≤ 0x39 := hhigh
  simp only [CodeRuns.covers, latinDigitRuns, CodeRuns.holds]
  rw [if_neg (by omega), if_pos h57]

theorem isBlank_eq_false_of_isLetter {c : Char} (h : isLetter c = true) : isBlank c = false :=
  CodeRuns.not_covers_of_apart (by decide +kernel : letterRuns.apart blankRuns = true) h

theorem isBlank_eq_false_of_isDigit {c : Char} (h : c.isDigit = true) : isBlank c = false :=
  CodeRuns.not_covers_of_apart (by decide) (covers_latinDigitRuns h)

/-- A blank is part of no name. -/
theorem isNameChar_eq_false_of_isBlank {c : Char} (h : isBlank c = true) :
    isNameChar c = false := by
  have hletter : isLetter c = false :=
    CodeRuns.not_covers_of_apart (by decide +kernel : blankRuns.apart letterRuns = true) h
  have hnumeric : numericRuns.covers c = false :=
    CodeRuns.not_covers_of_apart (by decide +kernel : blankRuns.apart numericRuns = true) h
  have hunderscore : c ≠ '_' := by
    rintro rfl
    exact absurd h (by decide)
  simp [isNameChar, isAlphanumeric, hletter, hnumeric, hunderscore]

theorem isLetter_eq_false_of_isDigit {c : Char} (h : c.isDigit = true) : isLetter c = false :=
  CodeRuns.not_covers_of_apart (by decide +kernel : latinDigitRuns.apart letterRuns = true)
    (covers_latinDigitRuns h)

end CoinConsole.Text
