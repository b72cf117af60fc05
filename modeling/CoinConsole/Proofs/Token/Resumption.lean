import Mathlib
import CoinConsole.Proofs.Token.Concatenation

/-!
# Reading that is taken up again

A lexer can be asked for its tokens any number of times, whatever has come of it before. All it
keeps from one call to the next is its place in the line (`Lexer.IsIn`), so each call reads what is
left of the line as if it were a line of its own (`Lexer.IsIn.answer_eq`). A call ends at the end of
the line, in front of an unknown character, or behind a refused number (`Lexer.CallCourse`). In the
first two cases the lexer is settled: it answers the same ever after. A number has characters, so
the third case comes to an end too (`Lexer.answer_succ_eq`).
-/

namespace CoinConsole

/-! ## Where a fault leaves the lexer -/

/-- The number of characters that the scanner passes over when it refuses them. -/
def LexError.passed : LexError → Nat
  | unknownCharacter _ _ => 0
  | badNumber _ text => text.length

namespace RefusedWith

variable {position : Nat} {cs : List Char} {error : LexError}

/-- A refused number is passed over, an unknown character is not. -/
theorem snd_scan (h : RefusedWith position cs error) :
    (scan position cs).2 =
      { position := position + error.passed, rest := cs.drop error.passed } := by
  cases h with
  | unknown nothing =>
    obtain ⟨hblank, hletter, hnumber, hmark⟩ := startsNothing_iff.mp nothing
    rw [scan_unknown position hblank hletter hnumber hmark]
    rfl
  | badNumber number stops refused =>
    rw [scan_badNumber position number stops refused, LexError.passed, String.length_ofList,
      List.drop_left]

theorem passed_le (h : RefusedWith position cs error) : error.passed ≤ cs.length := by
  cases h with
  | unknown => exact Nat.zero_le _
  | badNumber => simp [LexError.passed]

end RefusedWith

namespace Lexer

/-! ## One call -/

/-- The lexer with `count` characters more behind it. -/
def forward (lexer : Lexer) (count : Nat) : Lexer :=
  { position := lexer.position + count, rest := lexer.rest.drop count }

/-- How a call can go: what it answers, and how many characters it leaves behind. -/
inductive CallCourse (lexer : Lexer) : Except LexError (List Token) → Nat → Prop
  | finished (tokens : List Token) : CallCourse lexer (.ok tokens) lexer.rest.length
  | refused {front : Nat} {error : LexError} (fits : front ≤ lexer.rest.length)
      (refused : RefusedWith (lexer.position + front) (lexer.rest.drop front) error) :
      CallCourse lexer (.error error) (front + error.passed)

/-- Every call takes one of the courses. -/
theorem callCourse_tokenize (lexer : Lexer) :
    ∃ count, lexer.tokenize.2 = lexer.forward count ∧ lexer.CallCourse lexer.tokenize.1 count := by
  obtain ⟨position, cs⟩ := lexer
  obtain ⟨cut, rest, rfl, hreaches, rfl | ⟨error, herror⟩⟩ := exists_cut cs position
  · refine ⟨cut.text.length, ?_, ?_⟩
    · rw [tokenize, List.append_nil, hreaches.isMaximalMunch.scan_text, forward, List.drop_length]
    · rw [tokenize, List.append_nil, hreaches.isMaximalMunch.scan_text]
      exact .finished _
  · have hdrop : (cut.text ++ rest).drop cut.text.length = rest := List.drop_left
    refine ⟨cut.text.length + error.passed, ?_, ?_⟩
    · rw [tokenize, hreaches.scan_append, herror.snd_scan, forward, ← List.drop_drop, hdrop,
        Nat.add_assoc]
    · rw [tokenize, hreaches.scan_append, herror.scan_eq]
      exact .refused (by simp) (hdrop.symm ▸ herror)

section

variable {lexer : Lexer} {answer : Except LexError (List Token)} {count : Nat}

theorem CallCourse.count_le (h : lexer.CallCourse answer count) : count ≤ lexer.rest.length := by
  cases h with
  | finished => exact Nat.le_refl _
  | refused fits refused =>
    have hpassed := refused.passed_le
    rw [List.length_drop] at hpassed
    omega

/-- The lexer answers every call with `answer` and stays where it is. -/
def IsSettled (lexer : Lexer) (answer : Except LexError (List Token)) : Prop :=
  lexer.tokenize = (answer, lexer)

theorem isSettled_of_rest_eq_nil (h : lexer.rest = []) : lexer.IsSettled (.ok []) := by
  obtain ⟨position, cs⟩ := lexer
  subst h
  exact scan_nil position

/-- A call that succeeds leaves nothing to read. -/
theorem rest_of_ok {tokens : List Token} (h : lexer.tokenize.1 = .ok tokens) :
    lexer.tokenize.2.rest = [] := by
  obtain ⟨count, hnext, hcourse⟩ := lexer.callCourse_tokenize
  rw [h] at hcourse
  cases hcourse with
  | finished => rw [hnext, forward, List.drop_length]

/-- In front of an unknown character the lexer is settled. -/
theorem isSettled_of_unknown {p : Nat} {char : String}
    (h : lexer.tokenize.1 = .error (.unknownCharacter p char)) :
    lexer.tokenize.2.position = p ∧
      lexer.tokenize.2.IsSettled (.error (.unknownCharacter p char)) := by
  obtain ⟨count, hnext, hcourse⟩ := lexer.callCourse_tokenize
  rw [h] at hcourse
  cases hcourse with
  | @refused front _ fits refused =>
    have hstay : lexer.tokenize.2 = ⟨lexer.position + front, lexer.rest.drop front⟩ := hnext
    have hplace : p = lexer.position + front := refused.position_eq
    rw [hstay]
    exact ⟨hplace.symm, Prod.ext refused.scan_eq refused.snd_scan⟩

/-- Behind a refused number there is less to read. -/
theorem position_of_badNumber {p : Nat} {raw : String}
    (h : lexer.tokenize.1 = .error (.badNumber p raw)) :
    lexer.tokenize.2.position = p + raw.length ∧ 0 < raw.length ∧
      lexer.tokenize.2.rest.length < lexer.rest.length := by
  obtain ⟨count, hnext, hcourse⟩ := lexer.callCourse_tokenize
  rw [h] at hcourse
  cases hcourse with
  | @refused front _ fits refused =>
    have hplace : p = lexer.position + front := refused.position_eq
    have hraw : 0 < raw.length := by
      generalize lexer.rest.drop front = cs at refused
      cases refused with
      | badNumber number =>
        rw [String.length_ofList]
        exact List.length_pos_iff.mpr number.ne_nil
    have hpassed := refused.passed_le
    simp only [LexError.passed, List.length_drop] at hpassed
    rw [hnext, hplace]
    refine ⟨(Nat.add_assoc _ _ _).symm, hraw, ?_⟩
    simp only [forward, LexError.passed, List.length_drop]
    omega

/-! ## The place of the lexer -/

/-- The lexer stands in the line, and what it has left to read is what follows its place. -/
structure IsIn (lexer : Lexer) (text : String) : Prop where
  position_le : lexer.position ≤ text.length
  rest_eq : lexer.rest = text.toList.drop lexer.position

theorem isIn_ofText (text : String) : (ofText text).IsIn text := ⟨Nat.zero_le _, rfl⟩

namespace IsIn

variable {text : String}

theorem length_rest (h : lexer.IsIn text) :
    lexer.position + lexer.rest.length = text.length := by
  have hplace := h.position_le
  rw [h.rest_eq, List.length_drop, String.length_toList]
  omega

theorem isAtEnd_iff (h : lexer.IsIn text) :
    lexer.isAtEnd = true ↔ lexer.position = text.length := by
  have hlength := h.length_rest
  rw [isAtEnd, List.isEmpty_iff, ← List.length_eq_zero_iff]
  omega

theorem forward (h : lexer.IsIn text) (hcount : count ≤ lexer.rest.length) :
    (lexer.forward count).IsIn text := by
  have hlength := h.length_rest
  refine ⟨?_, ?_⟩
  · show lexer.position + count ≤ text.length
    omega
  · rw [Lexer.forward, h.rest_eq, List.drop_drop]

/-- A call leaves the lexer in the line, and not in front of where it was. -/
theorem tokenize (h : lexer.IsIn text) :
    lexer.tokenize.2.IsIn text ∧ lexer.position ≤ lexer.tokenize.2.position := by
  obtain ⟨count, hnext, hcourse⟩ := lexer.callCourse_tokenize
  rw [hnext]
  exact ⟨h.forward hcourse.count_le, Nat.le_add_right _ _⟩

/-- A call reads what follows the place of the lexer like a line of its own. -/
theorem answer_eq (h : lexer.IsIn text) :
    lexer.tokenize.1 = shiftReading lexer.position
      (CoinConsole.tokenize (String.ofList (text.toList.drop lexer.position))) := by
  rw [Lexer.tokenize, h.rest_eq, ← scan_eq_shiftReading, String.toList_ofList]

end IsIn

end

/-! ## Call after call -/

/-- The lexer after a number of calls. -/
def after (lexer : Lexer) : Nat → Lexer
  | 0 => lexer
  | n + 1 => (lexer.after n).tokenize.2

/-- What a call answers, the first one having the number zero. -/
def answer (lexer : Lexer) (n : Nat) : Except LexError (List Token) := (lexer.after n).tokenize.1

theorem after_add (lexer : Lexer) (n k : Nat) : lexer.after (n + k) = (lexer.after n).after k := by
  induction k with
  | zero => rfl
  | succ k ih => exact congrArg (fun reached => reached.tokenize.2) ih

theorem answer_add (lexer : Lexer) (n k : Nat) :
    lexer.answer (n + k) = (lexer.after n).answer k := by
  rw [answer, after_add, answer]

theorem answer_succ (lexer : Lexer) (n : Nat) :
    lexer.answer (n + 1) = lexer.tokenize.2.answer n := by
  rw [Nat.add_comm]
  exact lexer.answer_add 1 n

theorem IsSettled.after_eq {lexer : Lexer} {answer : Except LexError (List Token)}
    (h : lexer.IsSettled answer) (n : Nat) : lexer.after n = lexer := by
  induction n with
  | zero => rfl
  | succ n ih => rw [after, ih, h]

theorem IsSettled.answer_eq {lexer : Lexer} {answer : Except LexError (List Token)}
    (h : lexer.IsSettled answer) (n : Nat) : lexer.answer n = answer := by
  rw [Lexer.answer, h.after_eq, h]

theorem isIn_after (text : String) (n : Nat) : ((ofText text).after n).IsIn text := by
  induction n with
  | zero => exact isIn_ofText text
  | succ n ih => exact ih.tokenize.1

/-- After as many calls as there are characters to read the answers do not change any more. -/
theorem answer_succ_eq {lexer : Lexer} {n : Nat} (h : lexer.rest.length ≤ n) :
    lexer.answer (n + 1) = lexer.answer n := by
  -- a call either settles the lexer or leaves it less to read
  induction hlength : lexer.rest.length using Nat.strongRecOn generalizing lexer n with
  | ind length ih =>
    have hsettled : ∀ {outcome}, lexer.tokenize.2.IsSettled outcome →
        lexer.answer 0 = outcome ∨ 0 < n → lexer.answer (n + 1) = lexer.answer n := by
      intro outcome hnext hfirst
      rw [answer_succ, hnext.answer_eq]
      cases n with
      | zero => exact (hfirst.resolve_right (Nat.lt_irrefl 0)).symm
      | succ n => rw [answer_succ, hnext.answer_eq]
    cases houtcome : lexer.tokenize.1 with
    | ok tokens =>
      refine hsettled (isSettled_of_rest_eq_nil (rest_of_ok houtcome)) ?_
      rcases Nat.eq_zero_or_pos n with rfl | hn
      · have hnothing : lexer.rest = [] := List.length_eq_zero_iff.mp (Nat.le_zero.mp h)
        exact Or.inl ((isSettled_of_rest_eq_nil hnothing).answer_eq 0)
      · exact Or.inr hn
    | error e =>
      cases e with
      | unknownCharacter p char =>
        exact hsettled (isSettled_of_unknown houtcome).2 (Or.inl houtcome)
      | badNumber p raw =>
        obtain ⟨-, -, hless⟩ := position_of_badNumber houtcome
        obtain ⟨m, rfl⟩ := Nat.exists_eq_add_one_of_ne_zero (by omega : n ≠ 0)
        rw [lexer.answer_succ (m + 1), lexer.answer_succ m]
        exact ih _ (hlength ▸ hless) (Nat.le_of_lt_succ (Nat.lt_of_lt_of_le hless h)) rfl

theorem answer_eq_of_le {lexer : Lexer} {n : Nat} (h : lexer.rest.length ≤ n) :
    lexer.answer n = lexer.answer lexer.rest.length := by
  induction n, h using Nat.le_induction with
  | base => rfl
  | succ n hn ih => rw [answer_succ_eq hn, ih]

end Lexer

/-! ## Main result -/

/-- A lexer can be called again and again. Before and after every call it stands in the line, no
call moves it back, and each answers what is read from its place to the end of the line as a line
of its own, with all places moved. A call that succeeds leaves it at the end, and every later one
has no tokens. An unknown character leaves it there, and every later call fails in the same way. A
refused number is left behind, so the calls get on: after as many calls as the line has characters
the answers do not change. -/
theorem lexer_resumes (text : String) (n : Nat) :
    let lexer := (Lexer.ofText text).after n
    let next := (Lexer.ofText text).after (n + 1)
    let answer := (Lexer.ofText text).answer
    lexer.position ≤ next.position ∧ next.position ≤ text.length ∧
    answer n = shiftReading lexer.position
      (tokenize (String.ofList (text.toList.drop lexer.position))) ∧
    (∀ tokens, answer n = .ok tokens →
      next.isAtEnd = true ∧ next.position = text.length ∧ ∀ later > n, answer later = .ok []) ∧
    (∀ p char, answer n = .error (.unknownCharacter p char) →
      next.position = p ∧ ∀ later ≥ n, answer later = .error (.unknownCharacter p char)) ∧
    (∀ p raw, answer n = .error (.badNumber p raw) →
      next.position = p + raw.length ∧ p < next.position) ∧
    ∀ later ≥ text.length, answer later = answer text.length := by
  intro lexer next answer
  have hlexer : lexer.IsIn text := Lexer.isIn_after text n
  have hnext : next.IsIn text := Lexer.isIn_after text (n + 1)
  have hlater : ∀ {outcome}, next.IsSettled outcome → ∀ k > n, answer k = outcome := by
    intro outcome hsettled k hk
    obtain ⟨more, rfl⟩ := Nat.exists_eq_add_of_le (Nat.succ_le_of_lt hk)
    exact ((Lexer.ofText text).answer_add (n + 1) more).trans (hsettled.answer_eq more)
  refine ⟨hlexer.tokenize.2, hnext.position_le, hlexer.answer_eq, fun tokens h => ?_,
    fun p char h => ?_, fun p raw h => ?_, fun later h => ?_⟩
  · have hrest : next.rest = [] := Lexer.rest_of_ok h
    have hend : next.isAtEnd = true := List.isEmpty_iff.mpr hrest
    exact ⟨hend, hnext.isAtEnd_iff.mp hend, hlater (Lexer.isSettled_of_rest_eq_nil hrest)⟩
  · obtain ⟨hposition, hsettled⟩ := Lexer.isSettled_of_unknown h
    refine ⟨hposition, fun k hk => ?_⟩
    rcases Nat.eq_or_lt_of_le hk with rfl | hk
    · exact h
    · exact hlater hsettled k hk
  · obtain ⟨hposition, hraw, -⟩ := Lexer.position_of_badNumber h
    refine ⟨hposition, ?_⟩
    rw [show next.position = p + raw.length from hposition]
    omega
  · have hlength : (Lexer.ofText text).rest.length = text.length := String.length_toList
    rw [← hlength] at h ⊢
    exact Lexer.answer_eq_of_le h

/-- A refused number is left behind, and the unknown character behind it is met again and again. -/
theorem lexer_resumes_number_and_unknown :
    let lexer := Lexer.ofText "1_ $"
    lexer.answer 0 = .error (.badNumber 0 "1_") ∧ (lexer.after 1).position = 2 ∧
      lexer.answer 1 = .error (.unknownCharacter 3 "$") ∧ (lexer.after 2).position = 3 ∧
      ∀ later ≥ 1, lexer.answer later = .error (.unknownCharacter 3 "$") := by
  intro lexer
  have hfirst : lexer.answer 0 = .error (.badNumber 0 "1_") := by cbv
  have hsecond : lexer.answer 1 = .error (.unknownCharacter 3 "$") := by cbv
  obtain ⟨-, -, -, -, -, hnumber, -⟩ := lexer_resumes "1_ $" 0
  obtain ⟨-, -, -, -, hunknown, -, -⟩ := lexer_resumes "1_ $" 1
  obtain ⟨hposition, hlater⟩ := hunknown 3 "$" hsecond
  exact ⟨hfirst, (hnumber 0 "1_" hfirst).1, hsecond, hposition, hlater⟩

end CoinConsole
