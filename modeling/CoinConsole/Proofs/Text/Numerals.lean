import CoinConsole.Proofs.Text.Classes

/-!
# Numerals read back

Writing an integer in base ten and reading it again gives the integer (`readInteger_toString`),
as long as it has no more digits than a numeral may have. Plain runs of digits come first: on
them every detour of the reader (digits of other scripts, underscores, signs, blanks) is idle.
-/

namespace CoinConsole.Text

/-! ## Digits -/

theorem decimalDigit?_of_isDigit {c : Char} (h : c.isDigit = true) :
    decimalDigit? c = some (c.toNat - 48) := by
  obtain ⟨hlow, hhigh⟩ := by simpa [Char.isDigit] using h
  have h48 : 48 ≤ c.toNat := hlow
  have h57 : c.toNat ≤ 57 := hhigh
  have hfind : (decimalDigitRuns.find? fun run => decide (run.1 ≤ c.toNat ∧ c.toNat ≤ run.2))
      = some (0x30, 0x39) := by
    rw [decimalDigitRuns, List.find?_cons_of_pos]
    exact decide_eq_true ⟨h48, h57⟩
  rw [decimalDigit?, hfind, Option.map_some]
  congr 1
  exact Nat.mod_eq_of_lt (by omega)

theorem ne_underscore_of_isDigit {c : Char} (h : c.isDigit = true) : c ≠ '_' := by
  rintro rfl
  exact absurd h (by decide)

/-- A run of digits is read digit by digit. -/
theorem readDigits_of_isDigit {cs : List Char} (hne : cs ≠ []) (h : ∀ c ∈ cs, c.isDigit = true) :
    readDigits cs = some (cs.map fun c => c.toNat - 48) := by
  induction cs with
  | nil => exact absurd rfl hne
  | cons c rest ih =>
    have hc := decimalDigit?_of_isDigit (h c (by simp))
    cases rest with
    | nil => simp [readDigits, hc]
    | cons d rest =>
      have hd : d ≠ '_' := ne_underscore_of_isDigit (h d (by simp))
      have hrest := ih (by simp) fun x hx => h x (List.mem_cons_of_mem c hx)
      simpa [readDigits, hc, hd] using hrest

theorem ofDigits_map_eq_ofDigitChars (cs : List Char) :
    ofDigits (cs.map fun c => c.toNat - 48) = Nat.ofDigitChars 10 cs 0 := by
  rw [ofDigits, List.foldl_map, Nat.ofDigitChars_eq_foldl]
  rfl

/-! ## Natural numbers -/

theorem isDigit_of_mem_toDigits_ten {n : Nat} {c : Char} (h : c ∈ Nat.toDigits 10 n) :
    c.isDigit = true :=
  Nat.isDigit_of_mem_toDigits (by decide) (by decide) h

theorem readNatural_toDigits {n : Nat} (h : (Nat.toDigits 10 n).length ≤ maxNumeralDigits) :
    readNatural (Nat.toDigits 10 n) = some n := by
  rw [readNatural, readDigits_of_isDigit Nat.toDigits_ne_nil fun _ => isDigit_of_mem_toDigits_ten]
  simp only [List.length_map]
  rw [if_pos h, ofDigits_map_eq_ofDigitChars, Nat.ofDigitChars_ten_toDigits]

/-! ## Signs and blanks -/

theorem trimEnds_eq_self {p : Char → Bool} {cs : List Char} (h : ∀ c ∈ cs, p c = false) :
    trimEnds p cs = cs := by
  have hdrop : ∀ {ds : List Char}, (∀ c ∈ ds, p c = false) → ds.dropWhile p = ds := by
    intro ds hds
    cases ds with
    | nil => rfl
    | cons c rest => rw [List.dropWhile_cons_of_neg (by simp [hds c (by simp)])]
  rw [trimEnds, hdrop h, hdrop (fun c hc => h c (List.mem_reverse.mp hc)), List.reverse_reverse]

theorem isNumeralBlank_eq_false_of_isDigit {c : Char} (h : c.isDigit = true) :
    isNumeralBlank c = false := by
  rw [isNumeralBlank, isBlank_eq_false_of_isDigit h, Bool.false_and]

/-- A numeral that starts with a digit has no sign. -/
theorem readSigned_of_isDigit {c : Char} {rest : List Char} (h : c.isDigit = true) :
    readSigned (c :: rest) = (readNatural (c :: rest)).map fun n : Nat => (n : Int) := by
  have hsign : ∀ sign : Char, sign.isDigit = false → c ≠ sign := by
    rintro sign hsign rfl
    exact Bool.noConfusion (h.symm.trans hsign)
  rw [readSigned]
  · cases readNatural (c :: rest) <;> rfl
  · exact fun later heq => hsign '-' (by decide) (List.cons.inj heq).1
  · exact fun later heq => hsign '+' (by decide) (List.cons.inj heq).1

theorem readSigned_minus (cs : List Char) :
    readSigned ('-' :: cs) = (readNatural cs).map fun n : Nat => -(n : Int) := by
  rw [readSigned]
  cases readNatural cs <;> rfl

/-! ## Integers -/

/-- An integer is written as a minus sign, if it is negative, and the digits of its size. -/
theorem toList_toString (n : Int) :
    (toString n).toList =
      if 0 ≤ n then Nat.toDigits 10 n.natAbs else '-' :: Nat.toDigits 10 n.natAbs := by
  rw [Int.toString_eq_repr, Int.repr_eq_if]
  by_cases hn : 0 ≤ n
  · have hnat : n.toNat = n.natAbs := by omega
    rw [if_pos hn, if_pos hn, hnat, Nat.toList_repr]
  · have hnat : (-n).toNat = n.natAbs := by omega
    rw [if_neg hn, if_neg hn, hnat, String.toList_append, Nat.toList_repr]
    rfl

/-- Writing an integer and reading it again gives the integer. -/
theorem readInteger_toString {n : Int}
    (h : (Nat.toDigits 10 n.natAbs).length ≤ maxNumeralDigits) :
    readInteger (toString n) = some n := by
  have hblank : ∀ c ∈ Nat.toDigits 10 n.natAbs, isNumeralBlank c = false := fun c hc =>
    isNumeralBlank_eq_false_of_isDigit (isDigit_of_mem_toDigits_ten hc)
  have hread := readNatural_toDigits h
  rw [readInteger, toList_toString]
  by_cases hn : 0 ≤ n
  · rw [if_pos hn, trimEnds_eq_self hblank]
    obtain ⟨c, rest, hcs⟩ := List.exists_cons_of_ne_nil (Nat.toDigits_ne_nil (n := n.natAbs))
    have hdigit : c.isDigit = true := isDigit_of_mem_toDigits_ten (hcs ▸ List.mem_cons_self)
    rw [hcs] at hread ⊢
    rw [readSigned_of_isDigit hdigit, hread, Option.map_some, Int.natAbs_of_nonneg hn]
  · have hminus : ∀ c ∈ '-' :: Nat.toDigits 10 n.natAbs, isNumeralBlank c = false := by
      intro c hc
      rcases List.mem_cons.mp hc with rfl | hdigit
      · decide
      · exact hblank c hdigit
    rw [if_neg hn, trimEnds_eq_self hminus, readSigned_minus, hread, Option.map_some]
    congr 1
    omega

end CoinConsole.Text
