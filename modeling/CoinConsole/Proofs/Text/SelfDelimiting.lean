import Mathlib
import CoinConsole.Document.Reader
import CoinConsole.Proofs.Text.LineBreaks

/-!
# Texts that tell where they end

A way of writing values is self-delimiting if what is written can be told from whatever stands
behind it (`IsSelfDelimiting`). Two values that are written alike are then equal, and so are two
sequences of values that are written one after the other.

Numerals need a mark behind them that is no digit (`isSelfDelimiting_natural`). Quoted texts need
nothing (`isSelfDelimiting_quoteChars`): the kind of quote is the first character, every character
between the quotes can be read back from its escape (`unescape_escapeChar`), and no escape starts
with the quote.
-/

namespace CoinConsole.Text

/-- What is written tells where it ends, whatever stands behind it. -/
def IsSelfDelimiting {α : Type} (write : α → List Char) : Prop :=
  ∀ ⦃a b : α⦄ ⦃rest later : List Char⦄, write a ++ rest = write b ++ later → a = b ∧ rest = later

/-! ## Ways of writing -/

section

variable {α : Type} {write : α → List Char}

/-- What can be read off the front of a text is self-delimiting. -/
theorem isSelfDelimiting_of_read {read : List Char → Option (α × List Char)}
    (h : ∀ a rest, read (write a ++ rest) = some (a, rest)) : IsSelfDelimiting write := by
  intro a b rest later heq
  have hread := h a rest
  rw [heq, h b later, Option.some.injEq, Prod.mk.injEq] at hread
  exact ⟨hread.1.symm, hread.2.symm⟩

/-- Texts of one length are told apart by their characters. -/
theorem isSelfDelimiting_of_length {length : Nat} (hlength : ∀ a, (write a).length = length)
    (hinjective : Function.Injective write) : IsSelfDelimiting write := by
  intro a b rest later heq
  obtain ⟨hwrite, hrest⟩ := List.append_inj heq ((hlength a).trans (hlength b).symm)
  exact ⟨hinjective hwrite, hrest⟩

/-- Texts of characters of one class are ended by a mark that is not in it. -/
theorem isSelfDelimiting_of_all {p : Char → Bool} {mark : Char} (hmark : p mark = false)
    (hall : ∀ a, ∀ c ∈ write a, p c = true) (hinjective : Function.Injective write) :
    IsSelfDelimiting fun a => write a ++ [mark] := by
  have hread : ∀ a rest, (write a ++ [mark] ++ rest).takeWhile p = write a := by
    intro a rest
    rw [List.append_assoc, List.takeWhile_append_of_pos (hall a), List.singleton_append,
      List.takeWhile_cons_of_neg (by simp [hmark]), List.append_nil]
  intro a b rest later heq
  have hwrite : write a = write b := by rw [← hread a rest, heq, hread b later]
  obtain rfl := hinjective hwrite
  exact ⟨rfl, List.append_cancel_left heq⟩

/-- Values that are written one after the other are told apart. -/
theorem IsSelfDelimiting.flatMap_injective (h : IsSelfDelimiting write)
    (hne : ∀ a, write a ≠ []) : Function.Injective fun values : List α => values.flatMap write := by
  intro values others heq
  induction values generalizing others with
  | nil =>
    cases others with
    | nil => rfl
    | cons b others => exact absurd (List.append_eq_nil_iff.mp heq.symm).1 (hne b)
  | cons a values ih =>
    cases others with
    | nil => exact absurd (List.append_eq_nil_iff.mp heq).1 (hne a)
    | cons b others =>
      obtain ⟨rfl, hrest⟩ := h heq
      rw [ih hrest]

/-- Sequences are ended by a mark that starts none of the texts in them. -/
theorem IsSelfDelimiting.flatMap (h : IsSelfDelimiting write) {mark : Char}
    (hmark : ∀ a rest, write a ≠ mark :: rest) (hne : ∀ a, write a ≠ []) :
    IsSelfDelimiting fun values : List α => values.flatMap write ++ [mark] := by
  have hstart : ∀ (a : α) (front rest later : List Char),
      write a ++ front ++ [mark] ++ rest ≠ [] ++ [mark] ++ later := by
    intro a front rest later heq
    obtain ⟨c, cs, hwrite⟩ := List.exists_cons_of_ne_nil (hne a)
    rw [hwrite] at heq
    obtain ⟨rfl, -⟩ := List.cons.inj heq
    exact hmark a cs hwrite
  intro values others rest later heq
  induction values generalizing others with
  | nil =>
    cases others with
    | nil => exact ⟨rfl, (List.cons.inj heq).2⟩
    | cons b others => exact absurd heq.symm (hstart b _ later rest)
  | cons a values ih =>
    cases others with
    | nil => exact absurd heq (hstart a _ rest later)
    | cons b others =>
      simp only [List.flatMap_cons, List.append_assoc] at heq
      obtain ⟨rfl, hrest⟩ := h heq
      rw [← List.append_assoc, ← List.append_assoc] at hrest
      obtain ⟨rfl, hlater⟩ := ih hrest
      exact ⟨rfl, hlater⟩

end

/-! ## Numerals -/

theorem toDigits_injective : Function.Injective (Nat.toDigits 10) := by
  intro m n h
  rw [← Nat.ofDigitChars_ten_toDigits (n := m), h, Nat.ofDigitChars_ten_toDigits]

theorem isSelfDelimiting_natural {mark : Char} (hmark : mark.isDigit = false) :
    IsSelfDelimiting fun n : Nat => Nat.toDigits 10 n ++ [mark] :=
  isSelfDelimiting_of_all hmark (fun _ _ => isDigit_of_mem_toDigits_ten) toDigits_injective

/-! ## Code points -/

/-- The number with the given hexadecimal digits, most significant first. -/
def ofHexDigits (digits : List Char) : Nat :=
  digits.foldl (fun n c => 16 * n + (Document.hexValue? c).getD 0) 0

theorem hexValue?_digitChar : ∀ d < 16, Document.hexValue? d.digitChar = some d := by decide

theorem ofHexDigits_concat (digits : List Char) (c : Char) :
    ofHexDigits (digits ++ [c]) = 16 * ofHexDigits digits + (Document.hexValue? c).getD 0 := by
  rw [ofHexDigits, List.foldl_append]
  rfl

theorem ofHexDigits_toDigits (n : Nat) : ofHexDigits (Nat.toDigits 16 n) = n := by
  induction n using Nat.strongRecOn with
  | _ n ih =>
    rw [Nat.toDigits_eq_if (by decide)]
    split
    · next hsmall =>
      rw [ofHexDigits, List.foldl_cons, List.foldl_nil, hexValue?_digitChar n hsmall]
      simp
    · next hlarge =>
      have hdigit := hexValue?_digitChar (n % 16) (Nat.mod_lt n (by decide))
      rw [ofHexDigits_concat, ih (n / 16) (by omega), hdigit, Option.getD_some]
      omega

theorem ofHexDigits_replicate_append (count : Nat) (digits : List Char) :
    ofHexDigits (List.replicate count '0' ++ digits) = ofHexDigits digits := by
  have hzero : Document.hexValue? '0' = some 0 := by decide
  induction count with
  | zero => rfl
  | succ count ih =>
    rw [List.replicate_succ, List.cons_append, ofHexDigits, List.foldl_cons, hzero]
    exact ih

theorem ofHexDigits_hexDigits (width n : Nat) : ofHexDigits (hexDigits width n) = n := by
  rw [hexDigits, List.leftpad, ofHexDigits_replicate_append, ofHexDigits_toDigits]

theorem length_hexDigits {width n : Nat} (hwidth : 0 < width) (h : n < 16 ^ width) :
    (hexDigits width n).length = width := by
  rw [hexDigits, List.length_leftpad]
  exact Nat.max_eq_left ((Nat.length_toDigits_le_iff (by decide) hwidth).mpr h)

/-! ## Escapes -/

/-- Reads the character whose code point is written in `width` digits. -/
def readCode (width : Nat) (cs : List Char) : Option (Char × List Char) :=
  some (Char.ofNat (ofHexDigits (cs.take width)), cs.drop width)

/-- Reads the character that is written behind a backslash. -/
def readEscaped : List Char → Option (Char × List Char)
  | [] => none
  | 'n' :: rest => some ('\n', rest)
  | 'r' :: rest => some ('\r', rest)
  | 't' :: rest => some ('\t', rest)
  | 'x' :: rest => readCode 2 rest
  | 'u' :: rest => readCode 4 rest
  | 'U' :: rest => readCode 8 rest
  | c :: rest => some (c, rest)

/-- Reads a character between quotes. -/
def unescape : List Char → Option (Char × List Char)
  | [] => none
  | c :: rest => if c = '\\' then readEscaped rest else some (c, rest)

theorem readCode_hexDigits {width : Nat} {c : Char} (hwidth : 0 < width)
    (h : c.toNat < 16 ^ width) (rest : List Char) :
    readCode width (hexDigits width c.toNat ++ rest) = some (c, rest) := by
  have hlength := length_hexDigits hwidth h
  rw [readCode, List.take_left' hlength, List.drop_left' hlength, ofHexDigits_hexDigits,
    Char.ofNat_toNat]

/-- The kinds of quotes. -/
def IsQuote (c : Char) : Prop := c = '\'' ∨ c = '"'

theorem isQuote_quoteFor (cs : List Char) : IsQuote (quoteFor cs) := by
  rw [quoteFor]
  split
  · exact .inr rfl
  · exact .inl rfl

/-- A character between quotes is read back. -/
theorem unescape_escapeChar {quote : Char} (hquote : IsQuote quote) (c : Char)
    (rest : List Char) : unescape (escapeChar quote c ++ rest) = some (c, rest) := by
  have hsize : c.toNat < 0x110000 := by
    have hvalid : c.toNat < 0xD800 ∨ 0xDFFF < c.toNat ∧ c.toNat < 0x110000 := c.valid
    omega
  unfold escapeChar
  split
  · next hescaped =>
    -- the quotes and the backslash are none of the letters that have a meaning behind a backslash
    rcases hescaped with rfl | rfl
    · rcases hquote with rfl | rfl <;> rfl
    · rfl
  · next hplain =>
    split
    · next hc => subst hc; rfl
    split
    · next hc => subst hc; rfl
    split
    · next hc => subst hc; rfl
    split
    · rw [List.singleton_append, unescape, if_neg fun hc => hplain (.inr hc)]
    split
    · next hsmall => exact readCode_hexDigits (by decide) hsmall rest
    split
    · next hmedium => exact readCode_hexDigits (by decide) hmedium rest
    · exact readCode_hexDigits (by decide) (Nat.lt_of_lt_of_le hsize (by decide)) rest

/-- An escape starts with a backslash, and a character without one is not the quote. -/
theorem escapeChar_cases (quote c : Char) :
    (∃ back, escapeChar quote c = '\\' :: back) ∨ c ≠ quote ∧ escapeChar quote c = [c] := by
  unfold escapeChar
  split
  · exact .inl ⟨[c], rfl⟩
  · next hplain =>
    split
    · exact .inl ⟨['n'], rfl⟩
    split
    · exact .inl ⟨['r'], rfl⟩
    split
    · exact .inl ⟨['t'], rfl⟩
    split
    · exact .inr ⟨fun hc => hplain (.inl hc), rfl⟩
    split
    · exact .inl ⟨'x' :: hexDigits 2 c.toNat, rfl⟩
    split
    · exact .inl ⟨'u' :: hexDigits 4 c.toNat, rfl⟩
    · exact .inl ⟨'U' :: hexDigits 8 c.toNat, rfl⟩

theorem escapeChar_ne_nil (quote c : Char) : escapeChar quote c ≠ [] := by
  rcases escapeChar_cases quote c with ⟨back, hback⟩ | ⟨-, hself⟩
  · exact hback ▸ List.cons_ne_nil _ _
  · exact hself ▸ List.cons_ne_nil _ _

/-- What is written between quotes never starts with the quote. -/
theorem escapeChar_ne_cons {quote : Char} (hquote : IsQuote quote) (c : Char)
    (rest : List Char) : escapeChar quote c ≠ quote :: rest := by
  intro h
  rcases escapeChar_cases quote c with ⟨back, hback⟩ | ⟨hne, hself⟩
  · obtain ⟨rfl, -⟩ := List.cons.inj (hback.symm.trans h)
    rcases hquote with hsingle | hdouble
    · exact absurd hsingle (by decide)
    · exact absurd hdouble (by decide)
  · exact hne (List.cons.inj (hself.symm.trans h)).1

/-! ## Quoted texts -/

theorem isSelfDelimiting_quoteChars : IsSelfDelimiting quoteChars := by
  intro text other rest later h
  simp only [quoteChars, List.cons_append, List.cons.injEq] at h
  obtain ⟨hquote, h⟩ := h
  have hkind := isQuote_quoteFor other
  have hescape := isSelfDelimiting_of_read (unescape_escapeChar hkind)
  have hbody := hescape.flatMap (escapeChar_ne_cons hkind) (escapeChar_ne_nil _)
  rw [hquote] at h
  exact hbody h

end CoinConsole.Text
