import CoinConsole.Proofs.Text.SelfDelimiting
import CoinConsole.Token.Listing

/-!
# Listings can be read back

A listing of tokens has a line for each token, and no other line breaks, whatever the texts of the
tokens hold: they are shown in quotes, and so are the line breaks in them. There is one way to cut a
listing into lines (`Text.IsCutInto`), and the line of a token, together with its number, leaves no
doubt which token it is: every part of the line tells where it ends, also the quoted text, which may
look like the value behind it. So different lists of tokens have different listings.
-/

namespace CoinConsole

namespace Text

/-! ## Cutting texts into lines -/

/-- The text consists of the given lines, each ended by a line feed, and has no other line
breaks. -/
structure IsCutInto (text : String) (lines : List String) : Prop where
  joined : text = String.join (lines.map (· ++ "\n"))
  single : ∀ line ∈ lines, IsSingleLine line

theorem toList_join_lines (lines : List String) :
    (String.join (lines.map (· ++ "\n"))).toList =
      lines.flatMap fun line => line.toList ++ ['\n'] := by
  rw [String.toList_join, List.flatMap_map]
  simp only [String.toList_append]
  rfl

/-- A line without line breaks is ended by a line feed. -/
theorem isSelfDelimiting_singleLine :
    IsSelfDelimiting fun line : { line : String // IsSingleLine line } =>
      line.val.toList ++ ['\n'] := by
  have hmark : decide ('\n' ∉ lineBreaks) = false := by decide
  refine isSelfDelimiting_of_all hmark (fun line c hc => decide_eq_true (line.property c hc)) ?_
  intro line other h
  exact Subtype.ext (String.toList_inj.mp h)

/-- There is one way to cut a text into lines. -/
theorem IsCutInto.unique {text : String} {lines others : List String} (h : IsCutInto text lines)
    (hother : IsCutInto text others) : lines = others := by
  have hjoined := congrArg String.toList (h.joined.symm.trans hother.joined)
  rw [toList_join_lines, toList_join_lines] at hjoined
  have hsingle := h.single
  have hothers := hother.single
  lift lines to List { line : String // IsSingleLine line } using hsingle
  lift others to List { line : String // IsSingleLine line } using hothers
  rw [List.flatMap_map, List.flatMap_map] at hjoined
  rw [isSelfDelimiting_singleLine.flatMap_injective (by simp) hjoined]

end Text

/-! ## The parts of a line -/

namespace Token

/-- The number of a token in a listing. -/
def numberText (index : Nat) : String := String.ofList ((toString index).toList.leftpad 3 '0')

/-- The kind of a token in a listing. -/
def kindText (kind : TokenKind) : String := String.ofList (kind.label.toList.rightpad 8 ' ')

/-- The value of a token in a listing, if it has one. -/
def valueText : Option Int → String
  | none => ""
  | some value => " value=" ++ toString value

theorem listingLine_eq (index : Nat) (token : Token) :
    listingLine index token =
      numberText index ++ " " ++ kindText token.kind ++ " range=" ++ token.span.pairText ++
        " text=" ++ Text.quoted token.text ++ valueText token.value := by
  cases hvalue : token.value with
  | none => simp only [listingLine, hvalue]; rfl
  | some value => simp only [listingLine, hvalue]; rfl

/-! ## Every token has a line -/

theorem isLine_numberText (index : Nat) : Text.IsLine (numberText index) := by
  constructor
  · intro hempty
    have hlength := congrArg String.length hempty
    rw [numberText, String.length_ofList, List.length_leftpad] at hlength
    have hwidth : 3 ≤ max 3 (toString index).toList.length := Nat.le_max_left _ _
    rw [hlength] at hwidth
    exact absurd hwidth (by decide)
  · intro c hc
    rw [numberText, String.toList_ofList, List.leftpad] at hc
    rcases List.mem_append.mp hc with hfill | hdigit
    · rw [List.eq_of_mem_replicate hfill]
      decide
    · exact Text.isSingleLine_natural index c hdigit

theorem isSingleLine_kindText (kind : TokenKind) : Text.IsSingleLine (kindText kind) := by
  cases kind <;> decide

theorem isSingleLine_pairText (span : Span) : Text.IsSingleLine span.pairText := by
  have hopening : Text.IsSingleLine "(" := by decide
  have hstart := hopening.append (Text.isSingleLine_natural span.start)
  have hstop := (hstart.append (by decide : Text.IsSingleLine ", ")).append
    (Text.isSingleLine_natural span.stop)
  exact hstop.append (by decide : Text.IsSingleLine ")")

theorem isSingleLine_valueText (value : Option Int) : Text.IsSingleLine (valueText value) := by
  cases value with
  | none => decide
  | some value =>
    have hname : Text.IsSingleLine " value=" := by decide
    exact hname.append (Text.isSingleLine_integer value)

theorem isLine_listingLine (index : Nat) (token : Token) :
    Text.IsLine (listingLine index token) := by
  have hkind := ((isLine_numberText index).append (by decide : Text.IsSingleLine " ")).append
    (isSingleLine_kindText token.kind)
  have hspan := (hkind.append (by decide : Text.IsSingleLine " range=")).append
    (isSingleLine_pairText token.span)
  have htext := (hspan.append (by decide : Text.IsSingleLine " text=")).append
    (Text.isSingleLine_quoted token.text)
  rw [listingLine_eq]
  exact htext.append (isSingleLine_valueText token.value)

/-! ## A line belongs to one token -/

theorem isSelfDelimiting_kindText :
    Text.IsSelfDelimiting fun kind => (kindText kind).toList := by
  have hlength : ∀ kind, (kindText kind).toList.length = 8 := by
    intro kind
    cases kind <;> decide
  have hfind : ∀ kind, TokenKind.all.find? (fun other => kindText other == kindText kind) =
      some kind := by
    intro kind
    cases kind <;> decide
  refine Text.isSelfDelimiting_of_length hlength fun kind other h => ?_
  have hfound := hfind kind
  rw [String.toList_inj.mp h, hfind other] at hfound
  exact (Option.some.inj hfound).symm

theorem toList_pairText (span : Span) :
    span.pairText.toList =
      '(' :: (Nat.toDigits 10 span.start ++ [','] ++
        ' ' :: (Nat.toDigits 10 span.stop ++ [')'])) := by
  have htext : span.pairText =
      "(" ++ toString span.start ++ ", " ++ toString span.stop ++ ")" := rfl
  simp only [htext, String.toList_append, Nat.toString_eq_repr, Nat.toList_repr]
  simp

theorem isSelfDelimiting_pairText :
    Text.IsSelfDelimiting fun span : Span => span.pairText.toList := by
  have hcomma := Text.isSelfDelimiting_natural (by decide : ','.isDigit = false)
  have hclosing := Text.isSelfDelimiting_natural (by decide : ')'.isDigit = false)
  rintro ⟨start, stop, hle⟩ ⟨start', stop', hle'⟩ rest later h
  simp only [toList_pairText, List.cons_append, List.cons.injEq, true_and] at h
  rw [List.append_assoc (Nat.toDigits 10 start ++ [',']),
    List.append_assoc (Nat.toDigits 10 start' ++ [','])] at h
  obtain ⟨rfl, hstop⟩ := hcomma h
  obtain ⟨rfl, hrest⟩ := hclosing (List.cons.inj hstop).2
  exact ⟨rfl, hrest⟩

theorem valueText_injective : Function.Injective valueText := by
  have hne : ∀ value : Int, valueText (some value) ≠ "" := by
    intro value hempty
    exact absurd (String.append_eq_empty_iff.mp hempty).1 (by decide)
  intro value other h
  cases value with
  | none =>
    cases other with
    | none => rfl
    | some other => exact absurd h.symm (hne other)
  | some value =>
    cases other with
    | none => exact absurd h (hne value)
    | some other =>
      have hchars := congrArg String.toList h
      simp only [valueText, String.toList_append] at hchars
      have hvalue := String.toList_inj.mp (List.append_cancel_left hchars)
      rw [Int.repr_inj.mp hvalue]

/-- The line of a token shows which token it is. -/
theorem listingLine_injective (index : Nat) : Function.Injective (listingLine index) := by
  rintro ⟨kind, span, text, value⟩ ⟨kind', span', text', value'⟩ h
  have hchars := congrArg String.toList h
  simp only [listingLine_eq, String.toList_append, List.append_assoc, List.append_cancel_left_eq,
    Text.quoted, String.toList_ofList] at hchars
  obtain ⟨rfl, hspan⟩ := isSelfDelimiting_kindText hchars
  obtain ⟨rfl, htext⟩ := isSelfDelimiting_pairText (List.append_cancel_left hspan)
  obtain ⟨htext, hvalue⟩ := Text.isSelfDelimiting_quoteChars (List.append_cancel_left htext)
  rw [String.toList_inj.mp htext, valueText_injective (String.toList_inj.mp hvalue)]

/-! ## Main result -/

theorem length_listingFrom (index : Nat) (tokens : List Token) :
    (listingFrom index tokens).length = tokens.length := by
  induction tokens generalizing index with
  | nil => rfl
  | cons token rest ih => rw [listingFrom, List.length_cons, List.length_cons, ih]

theorem isLine_of_mem_listingFrom {index : Nat} {tokens : List Token} {line : String}
    (h : line ∈ listingFrom index tokens) : Text.IsLine line := by
  induction tokens generalizing index with
  | nil => cases h
  | cons token rest ih =>
    rcases List.mem_cons.mp h with rfl | hrest
    · exact isLine_listingLine index token
    · exact ih hrest

theorem isCutInto_listing (tokens : List Token) :
    Text.IsCutInto (listing tokens) (listingFrom 0 tokens) :=
  ⟨rfl, fun _ hline => (isLine_of_mem_listingFrom hline).single⟩

theorem listingFrom_injective (index : Nat) : Function.Injective (listingFrom index) := by
  intro tokens others h
  induction tokens generalizing index others with
  | nil =>
    cases others with
    | nil => rfl
    | cons other others => cases h
  | cons token rest ih =>
    cases others with
    | nil => cases h
    | cons other others =>
      obtain ⟨hline, hrest⟩ := List.cons.inj h
      rw [listingLine_injective index hline, ih (index + 1) hrest]

/-- A listing has one line for each token. There is no other way to cut it into lines, and no other
list of tokens has the same listing. -/
theorem listing_lines_unambiguous (tokens : List Token) :
    (listingFrom 0 tokens).length = tokens.length ∧
    (∀ line ∈ listingFrom 0 tokens, Text.IsLine line) ∧
    (∀ lines, Text.IsCutInto (listing tokens) lines ↔ lines = listingFrom 0 tokens) ∧
    (∀ others, listing others = listing tokens ↔ others = tokens) := by
  have hcut := isCutInto_listing tokens
  refine ⟨length_listingFrom 0 tokens, fun line => isLine_of_mem_listingFrom, fun lines => ⟨?_, ?_⟩,
    fun others => ⟨fun h => ?_, fun h => h ▸ rfl⟩⟩
  · exact fun h => h.unique hcut
  · rintro rfl
    exact hcut
  · have hothers := isCutInto_listing others
    rw [h] at hothers
    exact listingFrom_injective 0 (hothers.unique hcut)

/-- A text that looks like a text and a value behind it is shown between other quotes, and a line
break is shown as two characters. -/
theorem listing_lines_unambiguous_imitation :
    let one : Token := ⟨.integer, .ofLength 0 1, "1", some 1⟩
    let imitation : Token := ⟨.integer, .ofLength 0 1, "1' value=1", none⟩
    let lineFeed : Token := ⟨.keyword, .ofLength 2 1, "\n", none⟩
    listing [one, lineFeed] =
      "000 INT      range=(0, 1) text='1' value=1\n001 KEYWORD  range=(2, 3) text='\\n'\n" ∧
    listing [imitation, lineFeed] =
      "000 INT      range=(0, 1) text=\"1' value=1\"\n001 KEYWORD  range=(2, 3) text='\\n'\n" ∧
    listing [one, lineFeed] ≠ listing [imitation, lineFeed] ∧
    Text.IsLine (listingLine 0 imitation) := by
  intro one imitation lineFeed
  obtain ⟨-, hlines, -, hequal⟩ := listing_lines_unambiguous [imitation, lineFeed]
  have hne : [one, lineFeed] ≠ [imitation, lineFeed] := by decide
  exact ⟨by decide +kernel, by decide +kernel, fun h => hne ((hequal [one, lineFeed]).mp h),
    hlines (listingLine 0 imitation) List.mem_cons_self⟩

end Token

end CoinConsole
