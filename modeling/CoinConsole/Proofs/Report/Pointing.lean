import Mathlib
import CoinConsole.Proofs.Game.Pipeline
import CoinConsole.Proofs.Instruction.ViablePrefix

/-!
# Diagnostics point at their cause

A line that cannot be read is reported with a span of the line. The span covers the characters the
error is about: the character or the number that starts no token, or the token out of place. Only
when something is missing there are none, and then the span is empty and stands behind the last
token, with nothing but blanks after it (`PointsAtCause`). A span of the lexer covers the fault that
stands behind the cut of what is fine (`RefusedWith.slice_eq`); those of the parser are taken over
from tokens, which cover their own characters.
-/

namespace CoinConsole

/-! ## Errors of the lexer -/

/-- The characters that start no token. -/
def LexError.lexeme : LexError → String
  | unknownCharacter _ char => char
  | badNumber _ text => text

/-- An error covers its characters in a text that is refused with it behind `before`. -/
theorem RefusedWith.slice_eq {before cs : List Char} {error : LexError}
    (h : RefusedWith before.length cs error) :
    error.span.start < error.span.stop ∧ error.span.stop ≤ (before ++ cs).length ∧
      error.span.slice (before ++ cs) = error.lexeme.toList := by
  cases h with
  | @badNumber run rest number =>
    have hpos := List.length_pos_iff.mpr number.ne_nil
    have hspan : (LexError.badNumber before.length (String.ofList run)).span
        = .ofLength before.length run.length := by simp [LexError.span]
    rw [hspan, Span.slice_ofLength]
    simp [LexError.lexeme, Span.ofLength, hpos]
  | @unknown c rest =>
    have hspan : (LexError.unknownCharacter before.length (String.singleton c)).span
        = .ofLength before.length [c].length := rfl
    have hslice : (Span.ofLength before.length [c].length).slice (before ++ c :: rest) = [c] :=
      Span.slice_ofLength before [c] rest
    rw [hspan, hslice]
    simp [LexError.lexeme, Span.ofLength]

/-! ## Behind the last token -/

/-- Behind the last token of a cut there are only blanks. -/
theorem Cut.IsMaximalMunch.exists_gap_behind {cut : Cut} (h : cut.IsMaximalMunch)
    (position : Nat) :
    ∃ front gap, cut.text = front ++ gap ∧ (∀ c ∈ gap, Text.isBlank c = true) ∧
      (cut.tokens position = [] → front = []) ∧
      ∀ last ∈ (cut.tokens position).getLast?, last.span.stop = position + front.length := by
  induction cut generalizing position with
  | last gap => exact ⟨[], gap, rfl, h, fun _ => rfl, by simp [tokens]⟩
  | piece gap lexeme later ih =>
    obtain ⟨front, behind, htext, hbehind, hnone, hlast⟩ :=
      ih h.2.2 (position + gap.length + lexeme.chars.length)
    refine ⟨gap ++ (lexeme.chars ++ front), behind, ?_, hbehind, by simp [tokens], ?_⟩
    · simp only [text, htext, List.append_assoc]
    · intro last hmem
      rw [tokens] at hmem
      cases htokens : later.tokens (position + gap.length + lexeme.chars.length) with
      | nil =>
        rw [htokens] at hmem
        obtain rfl := Option.some.inj hmem
        simp [Lexeme.token, Span.ofLength, hnone htokens, Nat.add_assoc]
      | cons token tokens =>
        rw [htokens, List.getLast?_cons_cons, ← htokens] at hmem
        simp [hlast last hmem, Nat.add_assoc]

/-- The end of the line is reported behind the last token, in front of blanks only. -/
theorem isBlank_behind_endSpan {text : String} {tokens : List Token}
    (h : tokenize text = .ok tokens) :
    (endSpan tokens).stop ≤ text.length ∧
      ∀ c ∈ text.toList.drop (endSpan tokens).start, Text.isBlank c = true := by
  obtain ⟨cut, hmunch, htext, rfl⟩ := exists_cut_of_tokenize h
  obtain ⟨front, gap, hcut, hgap, hnone, hlast⟩ := hmunch.exists_gap_behind 0
  have hspan : endSpan (cut.tokens 0) = .empty front.length := by
    rcases endSpan_eq (cut.tokens 0) with ⟨htokens, hspan⟩ | ⟨last, hmem, hspan⟩
    · rw [hspan, hnone htokens, List.length_nil]
    · rw [hspan, hlast last hmem, Nat.zero_add]
  have hchars : text.toList = front ++ gap := htext.symm.trans hcut
  have hlength : text.length = front.length + gap.length := by
    rw [← String.length_toList, hchars, List.length_append]
  rw [hspan, hlength, hchars]
  refine ⟨Nat.le_add_right _ _, ?_⟩
  rwa [Span.empty, List.drop_left]

/-! ## Errors of the parser -/

/-- An error of the parser holds one of the tokens, or says what is missing behind them. -/
theorem Grammar.carries_or_misses {options : ParserOptions} {stop : Span} {tokens : List Token}
    {error : ParseError} (h : (command options stop tokens).1 = .error error) :
    (∃ token ∈ tokens, error.Carries token) ∨ error.Misses stop := by
  rw [command] at h
  split at h
  · next e rest hread =>
    obtain rfl := Except.error.inj h
    cases blames_of_instruction (congrArg Prod.fst hread) with
    | spoiled front back hgood hbad hcarries => exact Or.inl ⟨_, by simp, hcarries⟩
    | missing hgood hmisses => exact Or.inr hmisses
  · next result rest hread =>
    -- an instruction was read, so the error is about what is left behind it
    obtain ⟨d, rfl, -, -⟩ := exists_derivation_of_ok hread
    rw [map_eq_error_iff] at h
    cases rest with
    | nil => exact absurd h (by simp [finish])
    | cons token rest =>
      rw [finish] at h
      split at h
      · obtain rfl := Except.error.inj h
        exact Or.inl ⟨token, by simp, Or.inr ⟨_, rfl⟩⟩
      · exact absurd h (by simp)

/-! ## Errors that end the reading of a line -/

/-- What an error is about, as it stands in the line: the characters the lexer refuses, or the token
the parser holds. -/
def ReportedError.lexeme? : ReportedError → Option String
  | lex e => some e.lexeme
  | parse (.missingToken _) => none
  | parse (.unexpectedToken found) => found.token?.map (·.text)
  | parse (.expected _ found) => found.token?.map (·.text)
  | handle _ => none
  | save _ => none

/-- The span covers what the error is about. If that is something missing, the span is empty and
stands behind the last token, or at the start of a line without tokens, in front of blanks only. -/
inductive PointsAtCause (text : String) (error : ReportedError) (span : Span) : Prop
  | covers {lexeme : String} (about : error.lexeme? = some lexeme) (proper : span.start < span.stop)
      (slice : span.slice text.toList = lexeme.toList) : PointsAtCause text error span
  | behind {tokens : List Token}
      (about : error = .parse (.missingToken span) ∨
        error = .parse (.expected .rightParen (.nothing span)))
      (read : tokenize text = .ok tokens)
      (place : tokens = [] ∧ span = .empty 0 ∨
        ∃ last, tokens.getLast? = some last ∧ span = .empty last.span.stop)
      (blank : ∀ c ∈ text.toList.drop span.start, Text.isBlank c = true) :
      PointsAtCause text error span

theorem ParseError.Carries.lexeme?_eq {error : ParseError} {token : Token}
    (h : error.Carries token) : ReportedError.lexeme? (.parse error) = some token.text := by
  rcases h with rfl | ⟨kind, rfl⟩ <;> rfl

theorem pointsAtCause_lex {text : String} {error : LexError} (h : tokenize text = .error error) :
    error.span.stop ≤ text.length ∧ PointsAtCause text (.lex error) error.span := by
  obtain ⟨cut, rest, htext, -, hposition, hrefused⟩ := exists_cut_of_tokenize_error h
  rw [hposition] at hrefused
  obtain ⟨hproper, hstop, hslice⟩ := hrefused.slice_eq
  rw [← htext] at hstop hslice
  exact ⟨String.length_toList ▸ hstop, .covers rfl hproper hslice⟩

theorem pointsAtCause_token {text : String} {tokens : List Token} {token : Token}
    {error : ParseError} (h : tokenize text = .ok tokens) (hmem : token ∈ tokens)
    (hcarries : error.Carries token) :
    error.span.stop ≤ text.length ∧ PointsAtCause text (.parse error) error.span := by
  obtain ⟨cut, -, htext, rfl⟩ := exists_cut_of_tokenize h
  obtain ⟨-, hproper, hstop⟩ := Cut.span_of_mem_tokens hmem
  have hslice := Cut.slice_of_mem_tokens [] hmem
  rw [List.nil_append, htext] at hslice
  rw [htext, Nat.zero_add, String.length_toList] at hstop
  rw [hcarries.span_eq]
  exact ⟨hstop, .covers hcarries.lexeme?_eq hproper hslice⟩

theorem pointsAtCause_missing {text : String} {tokens : List Token} {error : ParseError}
    (h : tokenize text = .ok tokens) (hmisses : error.Misses (endSpan tokens)) :
    error.span.stop ≤ text.length ∧ PointsAtCause text (.parse error) error.span := by
  obtain ⟨hstop, hblank⟩ := isBlank_behind_endSpan h
  rw [hmisses.span_eq]
  refine ⟨hstop, .behind ?_ h (endSpan_eq tokens) hblank⟩
  rcases hmisses with rfl | rfl
  · exact Or.inl rfl
  · exact Or.inr rfl

/-- The error with which reading a line ends, in the lexer or in the parser. -/
inductive EndsReading (text : String) (options : Option ParserOptions) (mode : Option ParseMode) :
    ReportedError → Prop
  | lex {error : LexError} (refused : tokenize text = .error error) :
      EndsReading text options mode (.lex error)
  | parse {tokens : List Token} {error : ParseError} (read : tokenize text = .ok tokens)
      (refused : parse tokens options mode = .error (.parse error)) :
      EndsReading text options mode (.parse error)

section

variable {text : String} {root : Root} {options : Option ParserOptions} {mode : Option ParseMode}

theorem pointsAtCause_of_endsReading {error : ReportedError}
    (h : EndsReading text options mode error) :
    error.span.stop ≤ text.length ∧ PointsAtCause text error error.span := by
  cases h with
  | lex hlex => exact pointsAtCause_lex hlex
  | parse hread hparse =>
    rw [parse] at hparse
    split at hparse
    · exact absurd hparse (by simp)
    · split at hparse
      · next e hcommand =>
        obtain rfl := ParseFailure.parse.inj (Except.error.inj hparse)
        rcases Grammar.carries_or_misses hcommand with ⟨token, hmem, hcarries⟩ | hmisses
        · exact pointsAtCause_token hread hmem hcarries
        · exact pointsAtCause_missing hread hmisses
      · exact absurd hparse (by simp)

/-- A diagnostic that is not about the game itself comes from the error that ended the reading. -/
theorem exists_endsReading_of_diagnostic {outcome : Outcome} {diagnostic : Diagnostic}
    (hrun : runCommand text root options mode = .ok outcome)
    (hmem : diagnostic ∈ outcome.result.diagnostics)
    (hcategory : diagnostic.category ≠ some Category.handle.label) :
    ∃ error, EndsReading text options mode error ∧ error.toDiagnostic = diagnostic := by
  have hrefused : ∀ (instruction : Option Instruction) (error : ReportedError),
      diagnostic ∈ (Outcome.refused text instruction error root).result.diagnostics →
      error.toDiagnostic = diagnostic :=
    fun instruction error h => (List.mem_singleton.mp h).symm
  cases hlex : tokenize text with
  | error e =>
    rw [runCommand_of_lexError root hlex] at hrun
    obtain rfl := Except.ok.inj hrun
    exact ⟨_, .lex hlex, hrefused _ _ hmem⟩
  | ok tokens =>
    cases hparse : parse tokens options mode with
    | error failure =>
      cases failure with
      | options conflict =>
        rw [runCommand_of_conflict root hlex hparse] at hrun
        exact absurd hrun (by simp)
      | parse e =>
        rw [runCommand_of_parseError root hlex hparse] at hrun
        obtain rfl := Except.ok.inj hrun
        exact ⟨_, .parse hlex hparse, hrefused _ _ hmem⟩
    | ok instruction =>
      -- the line could be read, so what is reported is about the game
      rw [runCommand_of_instruction root hlex hparse] at hrun
      obtain rfl := Except.ok.inj hrun
      cases hhandle : (root.handle instruction).1 with
      | error e =>
        have hended := endedBy_of_handleError text hhandle
        rw [hended.result, List.mem_singleton] at hmem
        exact absurd (hmem ▸ hended.category_eq) hcategory
      | ok value =>
        rw [(yields_of_value text hhandle).result] at hmem
        exact absurd hmem List.not_mem_nil

end

/-! ## Main result -/

/-- Every diagnostic about how a line is written lies within the line and points at the cause of the
error it comes from: at the characters that are refused or out of place, or, if something is
missing, at the end of the last token, behind which there are only blanks. -/
theorem syntax_diagnostic_points_at_cause {text : String} {root : Root}
    {options : Option ParserOptions} {mode : Option ParseMode} {outcome : Outcome}
    {diagnostic : Diagnostic} (hrun : runCommand text root options mode = .ok outcome)
    (hmem : diagnostic ∈ outcome.result.diagnostics)
    (hcategory : diagnostic.category = some Category.lexer.label ∨
      diagnostic.category = some Category.parser.label) :
    diagnostic.span.start ≤ diagnostic.span.stop ∧ diagnostic.span.stop ≤ text.length ∧
      ∃ error, EndsReading text options mode error ∧ diagnostic = error.toDiagnostic ∧
        PointsAtCause text error diagnostic.span := by
  have hgame : diagnostic.category ≠ some Category.handle.label := by
    rcases hcategory with h | h <;> rw [h] <;> decide
  obtain ⟨error, hends, rfl⟩ := exists_endsReading_of_diagnostic hrun hmem hgame
  obtain ⟨hstop, hpoints⟩ := pointsAtCause_of_endsReading hends
  exact ⟨error.toDiagnostic.span.start_le_stop, hstop, error, hends, rfl, hpoints⟩

set_option maxRecDepth 4000 in
/-- A number that is none, a token out of place, and a bracket that is missing in front of two
blanks. -/
theorem syntax_diagnostic_points_number_token_end :
    (∃ error, EndsReading "add(1__0)" none (some .strict) error ∧
      PointsAtCause "add(1__0)" error (.ofLength 4 4)) ∧
    (∃ error, EndsReading "coins  add" none (some .permissive) error ∧
      PointsAtCause "coins  add" error (.ofLength 7 3)) ∧
    ∃ error, EndsReading "add(5  " none (some .strict) error ∧
      PointsAtCause "add(5  " error (.empty 5) := by
  have hpoints : ∀ {text : String} {mode : ParseMode} {span : Span} (error : ReportedError),
      runLine text {} mode = .refused text none error {} → error.span = span →
      (error.toDiagnostic.category = some Category.lexer.label ∨
        error.toDiagnostic.category = some Category.parser.label) →
      ∃ cause, EndsReading text none (some mode) cause ∧ PointsAtCause text cause span := by
    rintro text mode _ error hrefused rfl hcategory
    have hmem : error.toDiagnostic ∈ (runLine text {} mode).result.diagnostics := by
      rw [hrefused]
      exact List.mem_singleton_self _
    obtain ⟨-, -, cause, hends, -, hpoints⟩ :=
      syntax_diagnostic_points_at_cause (runCommand_mode text {} mode) hmem hcategory
    exact ⟨cause, hends, hpoints⟩
  have hnumber : tokenize "add(1__0)" = .error (.badNumber 4 "1__0") := by cbv
  have hnames : tokenize "coins  add" =
      .ok [⟨.keyword, .ofLength 0 5, "coins", none⟩, ⟨.keyword, .ofLength 7 3, "add", none⟩] := by
    cbv
  have hcall : tokenize "add(5  " =
      .ok [⟨.keyword, .ofLength 0 3, "add", none⟩, ⟨.leftParen, .ofLength 3 1, "(", none⟩,
        ⟨.integer, .ofLength 4 1, "5", some 5⟩] := by
    cbv
  have hlength : "1__0".length = 4 := by decide
  refine ⟨?_, ?_, ?_⟩
  · exact hpoints (.lex (.badNumber 4 "1__0")) (by rw [runLine, hnumber])
      (by rw [ReportedError.span, LexError.span, hlength]) (Or.inl rfl)
  · exact hpoints (.parse (.unexpectedToken (.token ⟨.keyword, .ofLength 7 3, "add", none⟩)))
      (by rw [runLine, hnames]; rfl) rfl (Or.inr rfl)
  · exact hpoints (.parse (.expected .rightParen (.nothing (.empty 5))))
      (by rw [runLine, hcall]; rfl) rfl (Or.inr rfl)

end CoinConsole
