import CoinConsole.Proofs.Document.Grammar
import CoinConsole.Proofs.Text.Numerals
import CoinConsole.Proofs.Token.Lexeme

/-!
# Documents read back

The reader of documents takes whatever the grammar spells: a text that holds a document is read as
this document, if its arrays and objects are not nested too deep (`read_of_holds`). A routine is
said to cover what is spelled if it reads it wherever a number could end behind it; each routine
covers its part of the grammar if the routines it is built from do.
-/

namespace CoinConsole.Document

variable {rest : List Char} {signCounts : Bool}

/-! ## Layout -/

theorem skipLayout_append {chars : List Char} (h : IsLayout chars) :
    skipLayout (chars ++ rest) = skipLayout rest :=
  List.dropWhile_append_of_pos h

theorem skipLayout_cons {c : Char} (h : isLayout c = false) : skipLayout (c :: rest) = c :: rest :=
  List.dropWhile_cons_of_neg (by simp [h])

/-- A number ends in front of `rest`. -/
structure EndsNumber (rest : List Char) : Prop where
  stops : StopsAt Char.isDigit rest
  whole : startsFraction rest = false

theorem endsNumber_nil : EndsNumber [] := ⟨stopsAt_nil _, rfl⟩

theorem endsNumber_of_isLayout {c : Char} (h : isLayout c = true) : EndsNumber (c :: rest) := by
  have hc : c = ' ' ∨ c = '\n' ∨ c = '\r' ∨ c = '\t' := by
    simpa [isLayout, or_assoc] using h
  rcases hc with rfl | rfl | rfl | rfl <;> exact ⟨stopsAt_cons (by decide), rfl⟩

theorem EndsNumber.append {chars : List Char} (h : IsLayout chars) (hrest : EndsNumber rest) :
    EndsNumber (chars ++ rest) := by
  cases chars with
  | nil => exact hrest
  | cons c chars => exact endsNumber_of_isLayout (h c List.mem_cons_self)

/-! ## What a routine covers -/

/-- Whether a value, or a member of an object, may start with `c`. -/
def isOpener (c : Char) : Bool := !isLayout c && c != ']' && c != '\x7d'

/-- The routine reads `chars` as `value`. -/
structure Reader.Reads {α : Type} (item : Reader α) (value : α) (chars : List Char) : Prop where
  opens : ∃ c cs, chars = c :: cs ∧ isOpener c = true
  read : ∀ rest, EndsNumber rest → item (chars ++ rest) = some (value, rest)

/-- The routine reads whatever is spelled. -/
def Reader.Covers {α : Type} (item : Reader α) (spells : α → List Char → Prop) : Prop :=
  ∀ value chars, spells value chars → item.Reads value chars

section

variable {α : Type} {item : Reader α} {spells : α → List Char → Prop}

theorem Reader.Reads.exists_skipLayout {value : α} {chars : List Char} (h : item.Reads value chars)
    (rest : List Char) :
    ∃ c later, skipLayout (chars ++ rest) = c :: later ∧ isOpener c = true ∧
      chars ++ rest = c :: later := by
  obtain ⟨c, cs, rfl, hc⟩ := h.opens
  have hlayout : isLayout c = false := by
    simpa using (Bool.and_eq_true_iff.mp (Bool.and_eq_true_iff.mp hc).1).1
  exact ⟨c, cs ++ rest, skipLayout_cons hlayout, hc, rfl⟩

theorem Reader.Reads.skipLayout_append {value : α} {chars : List Char}
    (h : item.Reads value chars) (rest : List Char) :
    skipLayout (chars ++ rest) = chars ++ rest := by
  obtain ⟨c, later, hskip, -, hchars⟩ := h.exists_skipLayout rest
  rw [hskip, hchars]

/-- Of an item with layout around it, the layout behind it is left. -/
theorem Reader.Covers.read_padded (hitem : item.Covers spells) {value : α} {chars : List Char}
    (h : Padded spells value chars) (hrest : EndsNumber rest) :
    ∃ left, item (skipLayout (chars ++ rest)) = some (value, left) ∧
      skipLayout left = skipLayout rest := by
  obtain ⟨hfront, hspells, hback⟩ := h
  have hreads := hitem _ _ hspells
  refine ⟨_ ++ rest, ?_, skipLayout_append hback⟩
  rw [List.append_assoc, List.append_assoc, skipLayout_append hfront, hreads.skipLayout_append,
    hreads.read _ (hrest.append hback)]

/-! ## Sequences -/

/-- The character closes an array or an object. -/
def IsCloser (c : Char) : Prop := c = ']' ∨ c = '\x7d'

theorem IsCloser.endsNumber {c : Char} (h : IsCloser c) (rest : List Char) :
    EndsNumber (c :: rest) := by
  rcases h with rfl | rfl <;> exact ⟨stopsAt_cons (by decide), rfl⟩

theorem IsCloser.skipLayout_cons {c : Char} (h : IsCloser c) :
    skipLayout (c :: rest) = c :: rest := by
  rcases h with rfl | rfl <;> rfl

theorem IsCloser.ne_of_isOpener {c close : Char} (h : IsCloser close) (hc : isOpener c = true) :
    c ≠ close := by
  rintro rfl
  rcases h with rfl | rfl <;> revert hc <;> decide

theorem IsCloser.ne_comma {c : Char} (h : IsCloser c) : ',' ≠ c := by
  rcases h with rfl | rfl <;> decide

theorem endsNumber_comma (rest : List Char) : EndsNumber (',' :: rest) :=
  ⟨stopsAt_cons (by decide), rfl⟩

/-- What is listed is read item by item up to the closing mark. -/
theorem Reader.Covers.readItems_listed (hitem : item.Covers spells) {close : Char}
    (hclose : IsCloser close) {values : List α} {chars : List Char}
    (h : Listed spells values chars) (rest : List Char) {steps : Nat}
    (hsteps : values.length ≤ steps) :
    readItems item close steps (chars ++ close :: rest) = some (values, rest) := by
  -- each item uses up one step, and a comma or the closing mark ends it
  induction h generalizing steps with
  | single h =>
    obtain ⟨steps, rfl⟩ := Nat.exists_eq_add_one_of_ne_zero (Nat.ne_zero_of_lt hsteps)
    obtain ⟨left, hread, hleft⟩ := hitem.read_padded h (hclose.endsNumber rest)
    rw [hclose.skipLayout_cons] at hleft
    simp [readItems, hread, hleft]
  | @cons value values chars others h _ ih =>
    obtain ⟨steps, rfl⟩ := Nat.exists_eq_add_one_of_ne_zero (Nat.ne_zero_of_lt hsteps)
    obtain ⟨left, hread, hleft⟩ :=
      hitem.read_padded h (endsNumber_comma (others ++ close :: rest))
    rw [skipLayout_cons (by decide)] at hleft
    have hothers := ih (Nat.le_of_succ_le_succ hsteps)
    rw [List.append_assoc, List.cons_append]
    simp [readItems, hread, hleft, hclose.ne_comma, hothers]

/-- A sequence is refused if there is no item at its front, and it is not closed there. -/
theorem readSequence_eq_none {close : Char} {cs : List Char} (hitem : item (skipLayout cs) = none)
    (hclose : ∀ rest, skipLayout cs ≠ close :: rest) : readSequence item close cs = none := by
  rw [Document.readSequence]
  cases hskip : skipLayout cs with
  | nil => rfl
  | cons c rest =>
    have hc : c ≠ close := fun heq => hclose rest (heq ▸ hskip)
    simp [hc, readItems, hitem]

theorem Listed.exists_padded {values : List α} {chars : List Char}
    (h : Listed spells values chars) :
    ∃ value front back, Padded spells value front ∧ chars = front ++ back := by
  cases h with
  | single h => exact ⟨_, _, [], h, (List.append_nil _).symm⟩
  | cons h _ => exact ⟨_, _, _, h, rfl⟩

/-- A list has no more items than characters. -/
theorem Reader.Covers.length_le_of_listed (hitem : item.Covers spells) {values : List α}
    {chars : List Char} (h : Listed spells values chars) : values.length ≤ chars.length := by
  have hpadded : ∀ {value chars}, Padded spells value chars → 1 ≤ chars.length := by
    rintro value _ ⟨-, hspells, -⟩
    obtain ⟨c, cs, rfl, -⟩ := (hitem _ _ hspells).opens
    simp only [List.length_append, List.length_cons]
    omega
  induction h with
  | single h => exact hpadded h
  | cons h _ ih =>
    simp only [List.length_append, List.length_cons]
    omega

/-- A list starts, behind its layout, with an item. -/
theorem Reader.Covers.exists_skipLayout_listed (hitem : item.Covers spells) {values : List α}
    {chars : List Char} (h : Listed spells values chars) (rest : List Char) :
    ∃ c later, skipLayout (chars ++ rest) = c :: later ∧ isOpener c = true := by
  obtain ⟨value, front, back, ⟨hfront, hspells, -⟩, rfl⟩ := h.exists_padded
  obtain ⟨c, later, hskip, hc, -⟩ := (hitem _ _ hspells).exists_skipLayout (_ ++ (back ++ rest))
  refine ⟨c, later, ?_, hc⟩
  simp only [List.append_assoc]
  rw [skipLayout_append hfront, hskip]

/-- A sequence is read up to the closing mark. -/
theorem Reader.Covers.readSequence (hitem : item.Covers spells) {close : Char}
    (hclose : IsCloser close) {values : List α} {chars : List Char}
    (h : Sequence spells values chars) (rest : List Char) :
    readSequence item close (chars ++ close :: rest) = some (values, rest) := by
  cases h with
  | empty h =>
    rw [Document.readSequence, skipLayout_append h, hclose.skipLayout_cons]
    simp
  | listed h =>
    obtain ⟨c, later, hskip, hc⟩ := hitem.exists_skipLayout_listed h (close :: rest)
    have hlength : values.length ≤ (chars ++ close :: rest).length + 1 := by
      have := hitem.length_le_of_listed h
      rw [List.length_append]
      omega
    rw [Document.readSequence, hskip]
    simp only [hclose.ne_of_isOpener hc, if_false]
    exact hitem.readItems_listed hclose h rest hlength

end

/-! ## Texts -/

theorem hexValue?_of_isHexDigit {n : Nat} {c : Char} (h : IsHexDigit n c) :
    hexValue? c = some n := by
  obtain ⟨hn, hc⟩ := h
  have hdigits : ∀ n < 16, hexValue? n.digitChar = some n ∧
      hexValue? n.digitChar.toUpper = some n := by decide
  rcases hc with rfl | rfl
  · exact (hdigits n hn).1
  · exact (hdigits n hn).2

theorem readHex4_of_spellsUnit {n : Nat} {chars : List Char} (h : SpellsUnit n chars) :
    ∃ digits, chars = '\\' :: 'u' :: digits ∧
      ∀ rest, readHex4 (digits ++ rest) = some (n, rest) := by
  obtain ⟨h₁, h₂, h₃, h₄⟩ := h
  refine ⟨_, rfl, fun rest => ?_⟩
  simp [readHex4, hexValue?_of_isHexDigit h₁, hexValue?_of_isHexDigit h₂,
    hexValue?_of_isHexDigit h₃, hexValue?_of_isHexDigit h₄]

theorem joined_singleton {n : Nat} {chars : List Char} (h : Joined SpellsUnit [n] chars) :
    SpellsUnit n chars := by
  cases h with
  | cons h hothers =>
    cases hothers
    rwa [List.append_nil]

theorem readCodePoint_of_lt {c : Char} (hsmall : c.toNat < 0x10000) {digits : List Char}
    (hread : readHex4 (digits ++ rest) = some (c.toNat, rest)) :
    readCodePoint (digits ++ rest) = some (c, rest) := by
  have hvalid : c.toNat < 0xD800 ∨ 0xDFFF < c.toNat ∧ c.toNat < 0x110000 := c.valid
  have hhigh : isHighHalf c.toNat = false := by
    simp only [isHighHalf, Bool.and_eq_false_iff, decide_eq_false_iff_not]
    omega
  have hlow : isLowHalf c.toNat = false := by
    simp only [isLowHalf, Bool.and_eq_false_iff, decide_eq_false_iff_not]
    omega
  simp [readCodePoint, hread, hhigh, hlow]

theorem readCodePoint_of_pair {c : Char} (hlarge : 0x10000 ≤ c.toNat) {high low : List Char}
    (hreadhigh : ∀ rest,
      readHex4 (high ++ rest) = some (0xD800 + (c.toNat - 0x10000) / 0x400, rest))
    (hreadlow : ∀ rest,
      readHex4 (low ++ rest) = some (0xDC00 + (c.toNat - 0x10000) % 0x400, rest)) :
    readCodePoint (high ++ '\\' :: 'u' :: (low ++ rest)) = some (c, rest) := by
  have hvalid : c.toNat < 0xD800 ∨ 0xDFFF < c.toNat ∧ c.toNat < 0x110000 := c.valid
  have hhigh : isHighHalf (0xD800 + (c.toNat - 0x10000) / 0x400) = true := by
    simp only [isHighHalf, Bool.and_eq_true, decide_eq_true_eq]
    omega
  have hlow : isLowHalf (0xDC00 + (c.toNat - 0x10000) % 0x400) = true := by
    simp only [isLowHalf, Bool.and_eq_true, decide_eq_true_eq]
    omega
  have hvalue : 0x10000 + (0xD800 + (c.toNat - 0x10000) / 0x400 - 0xD800) * 0x400 +
      (0xDC00 + (c.toNat - 0x10000) % 0x400 - 0xDC00) = c.toNat := by
    omega
  simp only [readCodePoint, hreadhigh, hhigh, if_true, hreadlow, hlow, hvalue, Char.ofNat_toNat]

/-- The escapes of the units of a character are read as the character. -/
theorem readCodePoint_of_joined {c : Char} {chars : List Char}
    (h : Joined SpellsUnit (units c) chars) :
    ∃ digits, chars = '\\' :: 'u' :: digits ∧
      ∀ rest, readCodePoint (digits ++ rest) = some (c, rest) := by
  rw [units] at h
  split at h
  · next hsmall =>
    obtain ⟨digits, rfl, hread⟩ := readHex4_of_spellsUnit (joined_singleton h)
    exact ⟨digits, rfl, fun rest => readCodePoint_of_lt hsmall (hread rest)⟩
  · next hlarge =>
    cases h with
    | cons hfirst hsecond =>
      obtain ⟨low, rfl, hreadlow⟩ := readHex4_of_spellsUnit (joined_singleton hsecond)
      obtain ⟨high, rfl, hreadhigh⟩ := readHex4_of_spellsUnit hfirst
      refine ⟨high ++ '\\' :: 'u' :: low, rfl, fun rest => ?_⟩
      rw [List.append_assoc]
      exact readCodePoint_of_pair (Nat.not_lt.mp hlarge) hreadhigh hreadlow

/-- A character is read off the front of a text, whichever way it is spelled. -/
theorem readTextChars_of_spellsChar {c : Char} {chars : List Char} (h : SpellsChar c chars)
    (steps : Nat) (rest : List Char) :
    readTextChars (steps + 1) (chars ++ rest) =
      (readTextChars steps rest).map fun (cs, rest) => (c :: cs, rest) := by
  cases h with
  | plain h =>
    obtain ⟨⟨hquote, hslash⟩, hlow⟩ := by simpa [isPlain] using h
    rw [List.singleton_append, readTextChars]
    · simp [hslash, Nat.not_lt.mpr hlow]
    · exact hquote
    · exact fun _ heq => absurd heq hslash
    · exact fun _ _ heq => absurd heq hslash
  | @short letter c h =>
    have hescape : ∀ escape ∈ shortEscapes,
        escape.1 ≠ 'u' ∧ shortEscape? escape.1 = some escape.2 := by decide
    obtain ⟨hletter, hshort⟩ := hescape _ h
    rw [List.cons_append, List.singleton_append, readTextChars]
    · simp [hshort]
    · exact hletter
  | escaped h =>
    obtain ⟨digits, rfl, hread⟩ := readCodePoint_of_joined h
    rw [List.cons_append, List.cons_append, readTextChars, hread rest]

theorem readTextChars_of_joined {text chars : List Char} (h : Joined SpellsChar text chars)
    {steps : Nat} (hsteps : text.length < steps) :
    readTextChars steps (chars ++ '"' :: rest) = some (text, rest) := by
  induction h generalizing steps with
  | nil =>
    obtain ⟨steps, rfl⟩ := Nat.exists_eq_add_one_of_ne_zero (Nat.ne_zero_of_lt hsteps)
    rfl
  | cons h _ ih =>
    obtain ⟨steps, rfl⟩ := Nat.exists_eq_add_one_of_ne_zero (Nat.ne_zero_of_lt hsteps)
    rw [List.append_assoc, readTextChars_of_spellsChar h,
      ih (Nat.lt_of_succ_lt_succ hsteps)]
    rfl

theorem SpellsChar.ne_nil {c : Char} {chars : List Char} (h : SpellsChar c chars) :
    chars ≠ [] := by
  cases h with
  | plain => exact List.cons_ne_nil _ _
  | short => exact List.cons_ne_nil _ _
  | escaped h =>
    obtain ⟨digits, rfl, -⟩ := readCodePoint_of_joined h
    exact List.cons_ne_nil _ _

theorem Joined.length_le {text chars : List Char} (h : Joined SpellsChar text chars) :
    text.length ≤ chars.length := by
  induction h with
  | nil => exact Nat.le_refl _
  | cons h _ ih =>
    have := List.length_pos_iff.mpr h.ne_nil
    rw [List.length_cons, List.length_append]
    omega

theorem readText_of_spellsText {text : String} {chars : List Char} (h : SpellsText text chars) :
    ∃ cs, chars = '"' :: cs ∧ ∀ rest, readText (cs ++ rest) = some (text, rest) := by
  obtain ⟨h⟩ := h
  refine ⟨_, rfl, fun rest => ?_⟩
  have hlength := h.length_le
  rw [readText, List.append_assoc, List.singleton_append,
    readTextChars_of_joined h (by rw [List.length_append]; omega)]
  simp

/-! ## Integers -/

theorem exists_cons_toDigits (n : Nat) :
    ∃ c cs, Nat.toDigits 10 n = c :: cs ∧ c.isDigit = true := by
  obtain ⟨c, cs, hcs⟩ := List.exists_cons_of_ne_nil (Nat.toDigits_ne_nil (b := 10) (n := n))
  exact ⟨c, cs, hcs, Text.isDigit_of_mem_toDigits_ten (hcs ▸ List.mem_cons_self)⟩

theorem digitsValue_toDigits (n : Nat) : digitsValue (Nat.toDigits 10 n) = n := by
  have h : digitsValue (Nat.toDigits 10 n) = Nat.ofDigitChars 10 (Nat.toDigits 10 n) 0 :=
    Nat.ofDigitChars_eq_foldl.symm
  rw [h, Nat.ofDigitChars_ten_toDigits]

/-- The digits of a number other than zero start with another digit than zero. -/
theorem head?_toDigits_ne_zero {n : Nat} (hn : n ≠ 0) :
    (Nat.toDigits 10 n).head? ≠ some '0' := by
  induction n using Nat.strongRecOn with
  | ind n ih =>
    rw [Nat.toDigits_eq_if (by decide)]
    by_cases hsmall : n < 10
    · simp [hsmall, hn]
    · have hfront := ih (n / 10) (by omega) (by omega)
      obtain ⟨d, ds, hds, -⟩ := exists_cons_toDigits (n / 10)
      rw [if_neg hsmall, hds]
      rwa [hds] at hfront

/-- No numeral has a zero in front of other digits. -/
theorem not_leadingZero_toDigits (n : Nat) :
    ¬ ((Nat.toDigits 10 n).head? = some '0' ∧ 1 < (Nat.toDigits 10 n).length) := by
  rintro ⟨hhead, hlength⟩
  by_cases hn : n = 0
  · simp [hn] at hlength
  · exact head?_toDigits_ne_zero hn hhead

/-- Zero with a sign has more digits than zero, but few enough. -/
theorem signDigits_add_length_toDigits_le {negative : Bool} {n : Nat}
    (h : IsReadable signCounts (if negative then -(n : Int) else n)) :
    signDigits signCounts negative + (Nat.toDigits 10 n).length ≤ maxWholeDigits := by
  rw [IsReadable] at h
  cases negative with
  | false =>
    have hn : decide ((n : Int) < 0) = false := by simp
    rwa [if_neg Bool.false_ne_true, hn, Int.natAbs_natCast] at h
  | true =>
    rcases Nat.eq_zero_or_pos n with rfl | hn
    · cases signCounts <;> decide
    · simpa [hn] using h

theorem readUnsigned_toDigits (negative : Bool) {n : Nat}
    (hshort : IsReadable signCounts (if negative then -(n : Int) else n))
    (hrest : EndsNumber rest) :
    readUnsigned signCounts negative (Nat.toDigits 10 n ++ rest) =
      some (integer (if negative then -(n : Int) else n), rest) := by
  have hdigits : ∀ c ∈ Nat.toDigits 10 n, c.isDigit = true := fun _ =>
    Text.isDigit_of_mem_toDigits_ten
  have hlength := Nat.not_lt.mpr (signDigits_add_length_toDigits_le hshort)
  simp only [readUnsigned, takeWhile_append_of_stopsAt hdigits hrest.stops,
    dropWhile_append_of_stopsAt hdigits hrest.stops]
  rw [if_neg Nat.toDigits_ne_nil, if_neg (not_leadingZero_toDigits n), if_neg hlength,
    hrest.whole, digitsValue_toDigits]
  simp

theorem readNumber_of_isDigit {c : Char} (h : c.isDigit = true) :
    readNumber signCounts (c :: rest) = readUnsigned signCounts false (c :: rest) := by
  have hminus : c ≠ '-' := by
    rintro rfl
    simp at h
  rw [readNumber]
  · exact fun later heq => hminus (List.cons.inj heq).1
  · exact fun later heq => hminus (List.cons.inj heq).1

theorem readNumber_minus {c : Char} (h : c.isDigit = true) :
    readNumber signCounts ('-' :: c :: rest) = readUnsigned signCounts true (c :: rest) := by
  rw [readNumber]
  rintro later ⟨⟩
  simp at h

/-- An integer starts with a digit or a minus sign. -/
theorem SpellsInteger.exists_cons {value : Int} {chars : List Char}
    (h : SpellsInteger signCounts value chars) :
    ∃ c cs, chars = c :: cs ∧ (c.isDigit = true ∨ c = '-') := by
  cases h with
  | @unsigned n =>
    obtain ⟨c, cs, hcs, hc⟩ := exists_cons_toDigits n
    exact ⟨c, cs, hcs, Or.inl hc⟩
  | negative => exact ⟨'-', _, rfl, Or.inr rfl⟩

theorem readNumber_of_spellsInteger {value : Int} {chars : List Char}
    (h : SpellsInteger signCounts value chars) (hrest : EndsNumber rest) :
    readNumber signCounts (chars ++ rest) = some (integer value, rest) := by
  cases h with
  | @unsigned n h =>
    have hread := readUnsigned_toDigits false h hrest
    obtain ⟨c, cs, hcs, hc⟩ := exists_cons_toDigits n
    rw [hcs, List.cons_append] at hread ⊢
    rw [readNumber_of_isDigit hc, hread]
    rfl
  | @negative n h =>
    have hread := readUnsigned_toDigits true h hrest
    obtain ⟨c, cs, hcs, hc⟩ := exists_cons_toDigits n
    rw [List.cons_append]
    rw [hcs, List.cons_append] at hread ⊢
    rw [readNumber_minus hc, hread]
    rfl

/-- What starts like a number is read as one. -/
theorem readValue_of_number {c : Char} (depth : Nat) (h : c.isDigit = true ∨ c = '-') :
    readValue signCounts depth (c :: rest) = readNumber signCounts (c :: rest) := by
  have hne : ∀ mark : Char, mark.isDigit = false → mark ≠ '-' → c ≠ mark := by
    rintro mark hdigit hminus rfl
    simp [hdigit, hminus] at h
  rw [readValue]
  all_goals exact fun later heq => hne _ (by decide) (by decide) (List.cons.inj heq).1

/-! ## Values -/

theorem isOpener_of_number {c : Char} (h : c.isDigit = true ∨ c = '-') : isOpener c = true := by
  rcases h with hdigit | rfl
  · have hne : ∀ mark : Char, mark.isDigit = false → c ≠ mark := by
      rintro mark hmark rfl
      exact Bool.noConfusion (hdigit.symm.trans hmark)
    simp [isOpener, isLayout, hne]
  · decide

theorem takeWord_append (word rest : List Char) : takeWord word (word ++ rest) = some rest := by
  induction word with
  | nil => rfl
  | cons c word ih => simp [takeWord, ih]

theorem readWord_append (word : String) (value : Document) (rest : List Char) :
    readWord word value (word.toList ++ rest) = some (value, rest) := by
  rw [readWord, takeWord_append]
  rfl

/-- Values that are no arrays and no objects are read at every depth. -/
theorem covers_scalar (depth : Nat) :
    (readValue signCounts depth).Covers (SpellsScalar signCounts) := by
  intro document chars h
  cases h with
  | null =>
    refine ⟨⟨_, _, rfl, by decide⟩, fun rest _ => ?_⟩
    cases depth <;> exact readWord_append "null" null rest
  | true =>
    refine ⟨⟨_, _, rfl, by decide⟩, fun rest _ => ?_⟩
    cases depth <;> exact readWord_append "true" (boolean true) rest
  | false =>
    refine ⟨⟨_, _, rfl, by decide⟩, fun rest _ => ?_⟩
    cases depth <;> exact readWord_append "false" (boolean false) rest
  | integer h =>
    obtain ⟨c, cs, hcs, hc⟩ := h.exists_cons
    refine ⟨⟨c, cs, hcs, isOpener_of_number hc⟩, fun rest hrest => ?_⟩
    have hread := readNumber_of_spellsInteger h hrest
    rw [hcs, List.cons_append] at hread ⊢
    rw [readValue_of_number depth hc, hread]
  | string h =>
    obtain ⟨cs, rfl, hread⟩ := readText_of_spellsText h
    refine ⟨⟨_, _, rfl, by decide⟩, fun rest _ => ?_⟩
    rw [List.cons_append, readValue, hread rest]
    rfl

/-- What comes of a member is up to its value, once name and colon are there. -/
theorem readMember_append (value : Reader Document) {name : String} {chars front : List Char}
    (hname : SpellsText name chars) (hfront : IsLayout front) (rest : List Char) :
    readMember value (chars ++ (front ++ ':' :: rest)) =
      (value (skipLayout rest)).map fun (value, rest) => ((name, value), rest) := by
  obtain ⟨cs, rfl, hread⟩ := readText_of_spellsText hname
  have hcolon : isLayout ':' = false := by decide
  rw [List.cons_append, readMember, hread]
  simp only [skipLayout_append hfront, skipLayout_cons hcolon]

/-- Members are read if their values are. -/
theorem covers_member {value : Reader Document} {spells : Document → List Char → Prop}
    (hvalue : value.Covers spells) : (readMember value).Covers (SpellsMember spells) := by
  rintro _ _ ⟨hname, hfront, hback, h⟩
  have hreads := hvalue _ _ h
  obtain ⟨cs, rfl, -⟩ := readText_of_spellsText hname
  refine ⟨⟨_, _, rfl, by decide⟩, fun rest hrest => ?_⟩
  simp only [List.append_assoc, List.cons_append (a := ':')]
  rw [readMember_append value hname hfront, skipLayout_append hback, hreads.skipLayout_append,
    hreads.read rest hrest]
  rfl

/-- Arrays and objects are read if their values are read with one level less. -/
theorem covers_compound {depth : Nat} {spells : Document → List Char → Prop}
    (hvalue : (readValue signCounts depth).Covers spells) :
    (readValue signCounts (depth + 1)).Covers (SpellsCompound spells) := by
  intro document chars h
  cases h with
  | array h =>
    refine ⟨⟨_, _, rfl, by decide⟩, fun rest _ => ?_⟩
    have hread := hvalue.readSequence (Or.inl rfl) h rest
    rw [List.cons_append, List.append_assoc, List.singleton_append, readValue, hread]
    rfl
  | object h =>
    refine ⟨⟨_, _, rfl, by decide⟩, fun rest _ => ?_⟩
    have hread := (covers_member hvalue).readSequence (Or.inr rfl) h rest
    rw [List.cons_append, List.append_assoc, List.singleton_append, readValue, hread]
    rfl

/-- What is spelled with so many levels is read with as many. -/
theorem covers_spells (depth : Nat) :
    (readValue signCounts depth).Covers (Spells signCounts depth) := by
  induction depth with
  | zero => exact covers_scalar 0
  | succ depth ih =>
    rintro document chars (h | h)
    · exact covers_scalar (depth + 1) document chars h
    · exact covers_compound ih document chars h

/-! ## Nesting -/

/-- Arrays within arrays, the innermost of them empty, in `level + 1` levels. -/
def nested : Nat → Document
  | 0 => array []
  | level + 1 => array [nested level]

/-- The characters of arrays within arrays. -/
def nestedChars (levels : Nat) : List Char :=
  List.replicate levels '[' ++ List.replicate levels ']'

theorem spells_nested (level : Nat) :
    Spells signCounts (level + 1) (nested level) (nestedChars (level + 1)) := by
  induction level with
  | zero => exact Or.inr (.array (.empty isLayout_nil))
  | succ level ih =>
    have hchars : nestedChars (level + 2) = '[' :: (nestedChars (level + 1) ++ [']']) := by
      rw [nestedChars, List.replicate_succ, List.replicate_succ' (n := level + 1), nestedChars]
      simp
    rw [hchars]
    exact Or.inr (.array (.listed (.single (padded_self ih))))

/-- Arrays are refused that are opened in too many levels, of which the last may hold nothing. -/
theorem readValue_replicate_eq_none {depth levels : Nat} (h : depth + 1 < levels)
    (rest : List Char) :
    readValue signCounts depth (List.replicate levels '[' ++ rest) = none := by
  induction depth generalizing levels with
  | zero =>
    obtain ⟨levels, rfl⟩ := Nat.exists_eq_add_of_le' h
    rfl
  | succ depth ih =>
    obtain ⟨levels, rfl⟩ := Nat.exists_eq_add_one_of_ne_zero (Nat.ne_zero_of_lt h)
    have hdeep : depth + 1 < levels := Nat.lt_of_succ_lt_succ h
    have hbare : skipLayout (List.replicate levels '[' ++ rest) =
        List.replicate levels '[' ++ rest := by
      obtain ⟨levels, rfl⟩ := Nat.exists_eq_add_one_of_ne_zero (Nat.ne_zero_of_lt hdeep)
      rfl
    have hsequence : readSequence (readValue signCounts depth) ']'
        (List.replicate levels '[' ++ rest) = none := by
      refine readSequence_eq_none (by rw [hbare, ih hdeep]) ?_
      obtain ⟨levels, rfl⟩ := Nat.exists_eq_add_one_of_ne_zero (Nat.ne_zero_of_lt hdeep)
      rw [hbare]
      simp [List.replicate_succ]
    rw [List.replicate_succ, List.cons_append, readValue, hsequence]
    rfl

/-! ## Main result -/

/-- A text that holds a document with few enough levels is read as this document. -/
theorem read_of_holds {document : Document} {text : String}
    (h : Holds signCounts maxDepth document text) :
    read signCounts text = some document := by
  obtain ⟨left, hread, hleft⟩ := (covers_spells maxDepth).read_padded h endsNumber_nil
  rw [List.append_nil] at hread
  have hend : skipLayout left = [] := hleft
  simp [Document.read, hread, hend]

end CoinConsole.Document
