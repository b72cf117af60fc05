import CoinConsole.Proofs.Text.Numerals
import CoinConsole.Text.Quoted

/-!
# Texts on a single line

A text is on a single line if it has none of the characters at which texts are cut into lines
(`IsSingleLine`). Line breaks are blanks, so whatever has no blank is on a single line, and they are
not printable, so they are escaped between quotes: a text in quotes is on a single line whatever it
holds (`isSingleLine_quoted`).
-/

namespace CoinConsole.Text

/-! ## Line breaks -/

/-- The characters at which a text is cut into lines. -/
def lineBreaks : List Char :=
  ['\n', '\x0b', '\x0c', '\r', '\x1c', '\x1d', '\x1e', '\u0085', '\u2028', '\u2029']

theorem isBlank_of_mem_lineBreaks : ∀ c ∈ lineBreaks, isBlank c = true :=
  List.all_eq_true.mp (by decide : lineBreaks.all isBlank = true)

theorem isPrintable_of_mem_lineBreaks : ∀ c ∈ lineBreaks, isPrintable c = false :=
  fun c hc => eq_false_of_ne_true
    (List.any_eq_false.mp (by decide +kernel : lineBreaks.any isPrintable = false) c hc)

theorem not_mem_lineBreaks_of_isBlank {c : Char} (h : isBlank c = false) : c ∉ lineBreaks := by
  intro hbreak
  rw [isBlank_of_mem_lineBreaks c hbreak] at h
  cases h

theorem not_mem_lineBreaks_of_isPrintable {c : Char} (h : isPrintable c = true) :
    c ∉ lineBreaks := by
  intro hbreak
  rw [isPrintable_of_mem_lineBreaks c hbreak] at h
  cases h

/-- A text without line breaks. -/
def IsSingleLine (text : String) : Prop := ∀ c ∈ text.toList, c ∉ lineBreaks

instance (text : String) : Decidable (IsSingleLine text) :=
  List.decidableBAll (fun c => c ∉ lineBreaks) text.toList

/-- A text that makes a line: it is not empty and has no line breaks. -/
structure IsLine (text : String) : Prop where
  ne_empty : text ≠ ""
  single : IsSingleLine text

instance (text : String) : Decidable (IsLine text) :=
  decidable_of_iff (text ≠ "" ∧ IsSingleLine text)
    ⟨fun h => ⟨h.1, h.2⟩, fun h => ⟨h.ne_empty, h.single⟩⟩

/-! ## Texts put together -/

theorem isSingleLine_append {front back : String} :
    IsSingleLine (front ++ back) ↔ IsSingleLine front ∧ IsSingleLine back := by
  rw [IsSingleLine, String.toList_append, List.forall_mem_append]
  rfl

theorem IsSingleLine.append {front back : String} (hfront : IsSingleLine front)
    (hback : IsSingleLine back) : IsSingleLine (front ++ back) :=
  isSingleLine_append.mpr ⟨hfront, hback⟩

theorem IsLine.append {front back : String} (hfront : IsLine front)
    (hback : IsSingleLine back) : IsLine (front ++ back) := by
  refine ⟨fun hempty => hfront.ne_empty ?_, hfront.single.append hback⟩
  exact (String.append_eq_empty_iff.mp hempty).1

/-- Texts with something between them are on a single line if each of them is. -/
theorem isSingleLine_intercalate {between : String} (hbetween : IsSingleLine between)
    {texts : List String} :
    IsSingleLine (between.intercalate texts) ↔ ∀ text ∈ texts, IsSingleLine text := by
  induction texts with
  | nil => simp [IsSingleLine]
  | cons text rest ih =>
    cases rest with
    | nil => simp
    | cons next rest =>
      rw [String.intercalate_cons_cons, isSingleLine_append, isSingleLine_append, ih]
      simp only [List.forall_mem_cons, hbetween, and_true]

/-! ## Texts without blanks -/

theorem isSingleLine_of_isBlank {text : String} (h : ∀ c ∈ text.toList, isBlank c = false) :
    IsSingleLine text :=
  fun c hc => not_mem_lineBreaks_of_isBlank (h c hc)

theorem not_mem_lineBreaks_of_isDigit {c : Char} (h : c.isDigit = true) : c ∉ lineBreaks :=
  not_mem_lineBreaks_of_isBlank (isBlank_eq_false_of_isDigit h)

theorem isSingleLine_natural (n : Nat) : IsSingleLine (toString n) := by
  intro c hc
  rw [Nat.toString_eq_repr, Nat.toList_repr] at hc
  exact not_mem_lineBreaks_of_isDigit (isDigit_of_mem_toDigits_ten hc)

theorem isSingleLine_integer (n : Int) : IsSingleLine (toString n) := by
  intro c hc
  rw [toList_toString] at hc
  split at hc
  · exact not_mem_lineBreaks_of_isDigit (isDigit_of_mem_toDigits_ten hc)
  · rcases List.mem_cons.mp hc with rfl | hdigit
    · decide
    · exact not_mem_lineBreaks_of_isDigit (isDigit_of_mem_toDigits_ten hdigit)

/-! ## Quoted texts -/

theorem exists_of_mem_toDigits {base n : Nat} (hbase : 1 < base) {c : Char}
    (h : c ∈ Nat.toDigits base n) : ∃ d < base, c = Nat.digitChar d := by
  induction n using Nat.strongRecOn with
  | _ n ih =>
    rw [Nat.toDigits_eq_if hbase] at h
    split at h
    · next hsmall => exact ⟨n, hsmall, List.mem_singleton.mp h⟩
    · next hlarge =>
      rcases List.mem_append.mp h with hfront | hlast
      · exact ih (n / base) (Nat.div_lt_self (by omega) hbase) hfront
      · exact ⟨n % base, Nat.mod_lt n (by omega), List.mem_singleton.mp hlast⟩

theorem not_mem_lineBreaks_of_mem_hexDigits {width n : Nat} {c : Char}
    (h : c ∈ hexDigits width n) : c ∉ lineBreaks := by
  have hdigits : ∀ d < 16, Nat.digitChar d ∉ lineBreaks := by decide
  rw [hexDigits, List.leftpad] at h
  rcases List.mem_append.mp h with hfill | hdigit
  · rw [List.eq_of_mem_replicate hfill]
    decide
  · obtain ⟨d, hd, rfl⟩ := exists_of_mem_toDigits (by decide) hdigit
    exact hdigits d hd

/-- A character written by its code point has no line break. -/
theorem not_mem_lineBreaks_of_mem_codePoint {mark : Char} (hmark : mark ∉ lineBreaks)
    (width n : Nat) : ∀ d ∈ '\\' :: mark :: hexDigits width n, d ∉ lineBreaks := by
  simp only [List.forall_mem_cons]
  exact ⟨by decide, hmark, fun d => not_mem_lineBreaks_of_mem_hexDigits⟩

/-- What a character becomes between quotes has no line break, whatever the character is. -/
theorem not_mem_lineBreaks_of_mem_escapeChar {quote : Char} (hquote : quote ∉ lineBreaks)
    (c : Char) : ∀ d ∈ escapeChar quote c, d ∉ lineBreaks := by
  have hshort : ∀ mark ∉ lineBreaks, ∀ d ∈ ['\\', mark], d ∉ lineBreaks := by
    intro mark hmark
    simp only [List.forall_mem_cons, List.not_mem_nil, false_implies, implies_true, and_true]
    exact ⟨by decide, hmark⟩
  unfold escapeChar
  split
  · next hescaped =>
    refine hshort c ?_
    rcases hescaped with rfl | rfl
    · exact hquote
    · decide
  · split
    · exact hshort 'n' (by decide)
    split
    · exact hshort 'r' (by decide)
    split
    · exact hshort 't' (by decide)
    split
    · next hprintable =>
      rw [List.forall_mem_singleton]
      exact not_mem_lineBreaks_of_isPrintable hprintable
    -- a line break without a short name is not printable, so it is written by its code point
    split
    · exact not_mem_lineBreaks_of_mem_codePoint (by decide) 2 _
    split
    · exact not_mem_lineBreaks_of_mem_codePoint (by decide) 4 _
    · exact not_mem_lineBreaks_of_mem_codePoint (by decide) 8 _

/-- A text in quotes is on a single line. -/
theorem isSingleLine_quoted (text : String) : IsSingleLine (quoted text) := by
  have hquote : quoteFor text.toList ∉ lineBreaks := by
    rw [quoteFor]
    split <;> decide
  intro c hc
  rw [quoted, String.toList_ofList, quoteChars, List.cons_append, List.mem_cons, List.mem_append,
    List.mem_flatMap, List.mem_singleton] at hc
  rcases hc with rfl | ⟨d, -, hd⟩ | rfl
  · exact hquote
  · exact not_mem_lineBreaks_of_mem_escapeChar hquote d c hd
  · exact hquote

end CoinConsole.Text
