import Mathlib
import CoinConsole.Proofs.Token.MaximalMunch

/-!
# Blanks divide a line

No lexeme takes in a blank, and none is told by what stands behind one. So a blank divides a line
into two that are read on their own (`tokenize_of_front`), and a fault in front of it is found
whatever stands behind it (`tokenize_of_front_error`). The scanner knows where it is but does not
look at it: the same characters later in a line are read as the same tokens, or refused with the
same error, moved by as much (`scan_add`).
-/

namespace CoinConsole

/-! ## Reading at a later place -/

/-- The error with its place moved by `offset` positions to the right. -/
def LexError.shift (error : LexError) (offset : Nat) : LexError :=
  match error with
  | unknownCharacter position char => unknownCharacter (position + offset) char
  | badNumber position text => badNumber (position + offset) text

/-- The lexer with its place moved by `offset` positions to the right. -/
def Lexer.shift (lexer : Lexer) (offset : Nat) : Lexer :=
  { lexer with position := lexer.position + offset }

/-- What is read, with all places moved by `offset` positions to the right. -/
def shiftReading (offset : Nat) :
    Except LexError (List Token) → Except LexError (List Token)
  | .ok tokens => .ok (tokens.map (·.shift offset))
  | .error e => .error (e.shift offset)

theorem Span.shift_ofLength (start length offset : Nat) :
    (Span.ofLength start length).shift offset = Span.ofLength (start + offset) length := by
  simp only [shift, ofLength, Span.mk.injEq, true_and]
  omega

theorem Lexeme.shift_token (lexeme : Lexeme) (position offset : Nat) :
    (lexeme.token position).shift offset = lexeme.token (position + offset) := by
  rw [Token.shift, token, token, Span.shift_ofLength]

theorem shiftReading_cons (offset : Nat) (token : Token) (later : Except LexError (List Token)) :
    shiftReading offset (later.map (token :: ·)) =
      (shiftReading offset later).map (token.shift offset :: ·) := by
  cases later <;> rfl

/-- The scanner does not look at its place: it only adds to it. -/
theorem scan_add (position offset : Nat) (cs : List Char) :
    scan (position + offset) cs =
      (shiftReading offset (scan position cs).1, (scan position cs).2.shift offset) := by
  induction cs using front_induction generalizing position with
  | nothing =>
    rw [scan_nil, scan_nil]
    rfl
  | blank c rest hblank ih =>
    rw [scan_of_isBlank _ hblank, scan_of_isBlank _ hblank, ← ih, Nat.add_right_comm]
  | lexeme lexeme rest hmaximal ih =>
    rw [scan_lexeme _ lexeme hmaximal, scan_lexeme _ lexeme hmaximal, Nat.add_right_comm, ih,
      shiftReading_cons, lexeme.shift_token]
  | badNumber run rest hnumber hstops hrefused =>
    rw [scan_badNumber _ hnumber hstops hrefused, scan_badNumber _ hnumber hstops hrefused,
      Nat.add_right_comm]
    rfl
  | unknown c rest hblank hletter hnumber hmark =>
    rw [scan_unknown _ hblank hletter hnumber hmark, scan_unknown _ hblank hletter hnumber hmark]
    rfl

/-- A text that is read from a later place is read as from its start, moved. -/
theorem scan_eq_shiftReading (position : Nat) (text : String) :
    (scan position text.toList).1 = shiftReading position (tokenize text) := by
  have hscan := congrArg Prod.fst (scan_add 0 position text.toList)
  rwa [Nat.zero_add] at hscan

/-! ## In front of a blank -/

/-- A run that stops at the end of a text stops at a character behind it that is not of its class. -/
theorem StopsAt.append_cons {p : Char → Bool} {cs : List Char} {c : Char} (h : StopsAt p cs)
    (hc : p c = false) (behind : List Char) : StopsAt p (cs ++ c :: behind) := by
  cases cs with
  | nil => exact stopsAt_cons hc
  | cons first rest => exact h

section

variable {w : Char} (hw : Text.isBlank w = true) (behind : List Char)
include hw

/-- The lexemes of a text are as long as they can be in front of a blank too. -/
theorem Cut.Reaches.append_blank {cut : Cut} {rest : List Char} (h : cut.Reaches rest) :
    cut.Reaches (rest ++ w :: behind) := by
  induction cut with
  | last gap => exact h
  | piece gap lexeme later ih =>
    obtain ⟨hgap, hmaximal, hlater⟩ := h
    refine ⟨hgap, ?_, ih hlater⟩
    rw [← List.append_assoc]
    exact StopsAt.append_cons hmaximal (lexeme.kind.growsBy_eq_false_of_isBlank hw) behind

/-- A fault is the same fault in front of a blank: a number does not go on with it, and a minus
sign in front of it stands in front of no digit. -/
theorem RefusedWith.append_blank {position : Nat} {cs : List Char} {error : LexError}
    (h : RefusedWith position cs error) : RefusedWith position (cs ++ w :: behind) error := by
  have hnumber : isNumberChar w = false := TokenKind.integer.growsBy_eq_false_of_isBlank hw
  have hdigit : w.isDigit = false := (Bool.or_eq_false_iff.mp hnumber).1
  cases h with
  | unknown nothing =>
    obtain ⟨hblank, hletter, hstart, hmark, hminus⟩ := nothing
    exact .unknown ⟨hblank, hletter, hstart, hmark,
      fun heq => StopsAt.append_cons (hminus heq) hdigit behind⟩
  | badNumber number stops refused =>
    rw [List.append_assoc]
    exact .badNumber number (stops.append_cons hnumber behind) refused

end

theorem toList_append_singleton (a b : String) (w : Char) :
    (a ++ String.singleton w ++ b).toList = a.toList ++ w :: b.toList := by
  simp

section

variable {a : String} (b : String) {w : Char} (hw : Text.isBlank w = true)
include hw

/-- Behind a blank a line is read like a line of its own, further to the right. -/
theorem tokenize_of_front {tokens : List Token} (h : tokenize a = .ok tokens) :
    tokenize (a ++ String.singleton w ++ b) =
      (shiftReading (a.length + 1) (tokenize b)).map (tokens ++ ·) := by
  obtain ⟨cut, hmunch, htext, rfl⟩ := exists_cut_of_tokenize h
  have hreaches : cut.Reaches (w :: b.toList) :=
    (Cut.reaches_nil_iff.mpr hmunch).append_blank hw b.toList
  rw [tokenize, Lexer.tokenize, Lexer.ofText, toList_append_singleton, ← htext,
    hreaches.scan_append, scan_of_isBlank _ hw, Nat.zero_add, htext, String.length_toList,
    scan_eq_shiftReading]

/-- A line that is refused in front of a blank is refused whatever stands behind it. -/
theorem tokenize_of_front_error {error : LexError} (h : tokenize a = .error error) :
    tokenize (a ++ String.singleton w ++ b) = .error error := by
  obtain ⟨cut, rest, htext, hreaches, hposition, hrefused⟩ := exists_cut_of_tokenize_error h
  have hrefused' := (hrefused.append_blank hw b.toList).scan_eq
  rw [hposition] at hrefused'
  rw [tokenize, Lexer.tokenize, Lexer.ofText, toList_append_singleton, htext, List.append_assoc,
    (hreaches.append_blank hw b.toList).scan_append, Nat.zero_add, hrefused']
  rfl

end

theorem shiftReading_eq_ok_iff {offset : Nat} {reading : Except LexError (List Token)}
    {tokens : List Token} :
    shiftReading offset reading = .ok tokens ↔
      ∃ read, reading = .ok read ∧ tokens = read.map (·.shift offset) := by
  cases reading <;> simp [shiftReading, eq_comm]

theorem shiftReading_eq_error_iff {offset : Nat} {reading : Except LexError (List Token)}
    {error : LexError} :
    shiftReading offset reading = .error error ↔
      ∃ e, reading = .error e ∧ error = e.shift offset := by
  cases reading <;> simp [shiftReading, eq_comm]

/-! ## Main result -/

/-- A blank divides a line into two. If the front is read, the line is read exactly if the back
is, as the tokens of the front and then those of the back, and it is refused exactly if the back
is, with the error of the back; the places of the back are moved by what stands in front of it. If
the front is refused, the line is refused with the same error at the same place. -/
theorem tokenize_append_blank (a b : String) {w : Char} (hw : Text.isBlank w = true) :
    (∀ tokens, tokenize a = .ok tokens →
      (∀ all, tokenize (a ++ String.singleton w ++ b) = .ok all ↔
        ∃ later, tokenize b = .ok later ∧ all = tokens ++ later.map (·.shift (a.length + 1))) ∧
      ∀ error, tokenize (a ++ String.singleton w ++ b) = .error error ↔
        ∃ e, tokenize b = .error e ∧ error = e.shift (a.length + 1)) ∧
    ∀ error, tokenize a = .error error →
      tokenize (a ++ String.singleton w ++ b) = .error error := by
  refine ⟨fun tokens h => ⟨fun all => ?_, fun error => ?_⟩, fun error h => ?_⟩
  · rw [tokenize_of_front b hw h, map_eq_ok_iff]
    simp only [shiftReading_eq_ok_iff]
    constructor
    · rintro ⟨-, ⟨later, hlater, rfl⟩, rfl⟩
      exact ⟨later, hlater, rfl⟩
    · rintro ⟨later, hlater, rfl⟩
      exact ⟨_, ⟨later, hlater, rfl⟩, rfl⟩
  · rw [tokenize_of_front b hw h, map_eq_error_iff, shiftReading_eq_error_iff]
  · exact tokenize_of_front_error b hw h

set_option maxRecDepth 4000 in
/-- A minus sign is no part of the number behind a blank, a number that is refused is refused at
its new place, and a name and a number are two tokens. -/
theorem tokenize_append_blank_minus :
    tokenize "5- 3" = .error (.unknownCharacter 1 "-") ∧
      tokenize "add 1_" = .error (.badNumber 4 "1_") ∧
      tokenize "add 12" = .ok
        [⟨.keyword, .ofLength 0 3, "add", none⟩, ⟨.integer, .ofLength 4 2, "12", some 12⟩] := by
  have hminus : tokenize "5-" = .error (.unknownCharacter 1 "-") := by cbv
  have hname : tokenize "add" = .ok [⟨.keyword, .ofLength 0 3, "add", none⟩] := by cbv
  have hbad : tokenize "1_" = .error (.badNumber 0 "1_") := by cbv
  have hnumber : tokenize "12" = .ok [⟨.integer, .ofLength 0 2, "12", some 12⟩] := by cbv
  have hspace : Text.isBlank ' ' = true := rfl
  obtain ⟨-, hrefused⟩ := tokenize_append_blank "5-" "3" hspace
  obtain ⟨hfront, -⟩ := tokenize_append_blank "add" "1_" hspace
  obtain ⟨hread, -⟩ := tokenize_append_blank "add" "12" hspace
  refine ⟨hrefused _ hminus, ?_, ?_⟩
  · exact ((hfront _ hname).2 _).mpr ⟨_, hbad, rfl⟩
  · exact ((hread _ hname).1 _).mpr ⟨_, hnumber, rfl⟩

end CoinConsole
