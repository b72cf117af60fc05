import Mathlib
import CoinConsole.Proofs.Game.Pipeline
import CoinConsole.Proofs.Instruction.Unplaced

/-!
# Layout does not matter

The blanks around the tokens of a line say nothing. A line may be laid out anew, with blanks in
front of its first token and behind its last one, and some between any two (`LaidOut`): it is read
as the same tokens at other places (`tokenize_laidOut`), and places reach nothing but the spans of
diagnostics. So the line does what it did before (`Outcome.meaning`).

A blank between two tokens is needed, since neighbours may grow together; one is always enough,
because no lexeme takes in a blank (`TokenKind.growsBy_eq_false_of_isBlank`).
-/

namespace CoinConsole

/-! ## Laying out tokens -/

/-- The texts of the tokens in order, with blanks behind each of them, and at least one blank
between two. -/
inductive Spaced : List Token → List Char → Prop
  | nothing : Spaced [] []
  | token (token : Token) {rest : List Token} {gap cs : List Char}
      (blank : ∀ c ∈ gap, Text.isBlank c = true) (apart : rest ≠ [] → gap ≠ [])
      (later : Spaced rest cs) : Spaced (token :: rest) (token.text.toList ++ (gap ++ cs))

/-- The characters are the tokens laid out anew, with blanks in front of the first one if need
be. -/
def LaidOut (tokens : List Token) (cs : List Char) : Prop :=
  ∃ gap spaced, (∀ c ∈ gap, Text.isBlank c = true) ∧ Spaced tokens spaced ∧ cs = gap ++ spaced

/-- A lexeme in front of a gap is as long as it can be. -/
theorem Lexeme.isMaximal_gap (lexeme : Lexeme) {gap cs : List Char}
    (h : ∀ c ∈ gap, Text.isBlank c = true) (hlast : gap = [] → cs = []) :
    lexeme.IsMaximal (gap ++ cs) := by
  cases gap with
  | nil =>
    rw [hlast rfl]
    exact stopsAt_nil _
  | cons c gap =>
    exact stopsAt_cons (lexeme.kind.growsBy_eq_false_of_isBlank (h c List.mem_cons_self))

theorem Lexeme.unplaced_token (lexeme : Lexeme) (position other : Nat) :
    (lexeme.token position).unplaced = (lexeme.token other).unplaced := rfl

/-- Lexemes that are laid out anew are cut apart again. -/
theorem exists_cut_of_spaced {tokens : List Token} {spaced gap : List Char}
    (h : Spaced tokens spaced) (hgap : ∀ c ∈ gap, Text.isBlank c = true)
    (hlexemes : ∀ token ∈ tokens, ∃ (lexeme : Lexeme) (start : Nat), lexeme.token start = token)
    (position : Nat) :
    ∃ cut : Cut, cut.IsMaximalMunch ∧ cut.text = gap ++ spaced ∧
      (cut.tokens position).map Token.unplaced = tokens.map Token.unplaced := by
  induction h generalizing gap position with
  | nothing => exact ⟨.last gap, hgap, by rw [Cut.text, List.append_nil], rfl⟩
  | @token token rest behind cs hblank hapart hlater ih =>
    obtain ⟨lexeme, start, rfl⟩ := hlexemes token List.mem_cons_self
    obtain ⟨cut, hmunch, htext, htokens⟩ :=
      ih hblank (fun token hmem => hlexemes token (List.mem_cons_of_mem _ hmem))
        (position + gap.length + lexeme.chars.length)
    have hlast : behind = [] → cs = [] := by
      intro hbehind
      cases hlater with
      | nothing => rfl
      | token => exact absurd hbehind (hapart (List.cons_ne_nil _ _))
    have hchars : (lexeme.token start).text.toList = lexeme.chars := String.toList_ofList
    refine ⟨.piece gap lexeme cut, ⟨hgap, ?_, hmunch⟩, ?_, ?_⟩
    · rw [htext]
      exact lexeme.isMaximal_gap hblank hlast
    · rw [Cut.text, htext, hchars]
    · rw [Cut.tokens, List.map_cons, List.map_cons, htokens, lexeme.unplaced_token]

/-- A line that is laid out anew is read as the same tokens, at other places. -/
theorem tokenize_laidOut {text other : String} {tokens : List Token}
    (h : tokenize text = .ok tokens) (hlaid : LaidOut tokens other.toList) :
    ∃ others, tokenize other = .ok others ∧
      others.map Token.unplaced = tokens.map Token.unplaced := by
  obtain ⟨gap, spaced, hgap, hspaced, hother⟩ := hlaid
  obtain ⟨cut, hmunch, htext, htokens⟩ :=
    exists_cut_of_spaced hspaced hgap (fun _ hmem => exists_lexeme_of_tokenize h hmem) 0
  exact ⟨_, hmunch.tokenize_eq (htext.trans hother.symm), htokens⟩

/-! ## What a line does -/

/-- The diagnostic with its span forgotten. -/
def Diagnostic.unplaced (diagnostic : Diagnostic) : Diagnostic :=
  { diagnostic with span := .empty 0 }

/-- What a line does: how it is understood and answered, what the player is shown, and the game
after it. -/
structure Meaning where
  instruction : Option Instruction
  value : Option Value
  diagnostics : List Diagnostic
  shown : Except ShowError String
  root : Root

/-- What a line has done, wherever in the line it was written. -/
def Outcome.meaning (outcome : Outcome) : Meaning :=
  { instruction := outcome.result.instruction
    value := outcome.result.value
    diagnostics := outcome.result.diagnostics.map Diagnostic.unplaced
    shown := outcome.result.render
    root := outcome.root }

/-- The diagnostic of a parse error is the same at every place, but for the place itself. -/
theorem ParseError.toDiagnostic_unplaced (e : ParseError) :
    (ReportedError.parse e.unplaced).toDiagnostic.unplaced =
      (ReportedError.parse e).toDiagnostic.unplaced := by
  have hmessage : (ReportedError.parse e.unplaced).message = (ReportedError.parse e).message :=
    e.message_unplaced
  have hcode : (ReportedError.parse e.unplaced).code = (ReportedError.parse e).code := by
    cases e <;> rfl
  simp only [ReportedError.toDiagnostic, Diagnostic.unplaced, hmessage, hcode]

/-- A line that is no instruction is refused in the same way wherever its error lies. -/
theorem Outcome.meaning_refused_unplaced (text other : String) (e : ParseError) (root : Root) :
    (Outcome.refused other none (.parse e.unplaced) root).meaning =
      (Outcome.refused text none (.parse e) root).meaning := by
  have hdiagnostic := e.toDiagnostic_unplaced
  have hshown : (ReportedError.parse e.unplaced).toDiagnostic.message =
      (ReportedError.parse e).toDiagnostic.message := e.message_unplaced
  simp only [meaning, refused, CommandResult.render, CommandResult.error?, List.head?_cons,
    List.map_cons, List.map_nil, hdiagnostic, hshown]

/-- An instruction does the same whatever text it was read from. -/
theorem meaning_runInstruction (text other : String) (instruction : Instruction) (root : Root) :
    (runInstruction other instruction root).meaning =
      (runInstruction text instruction root).meaning := by
  cases hhandle : (root.handle instruction).1 with
  | error e =>
    rw [runInstruction_of_error other hhandle, runInstruction_of_error text hhandle]
    rfl
  | ok value =>
    rw [runInstruction_of_value other hhandle, runInstruction_of_value text hhandle]
    rfl

/-- What a line does, by what its tokens are read as. -/
def Meaning.ofReading (root : Root) :
    Except ParseFailure Instruction → Except OptionsConflict Meaning
  | .ok instruction => .ok (runInstruction "" instruction root).meaning
  | .error (.options conflict) => .error conflict
  | .error (.parse e) => .ok (Outcome.refused "" none (.parse e) root).meaning

/-- What a line does follows from its tokens without their places. -/
theorem map_meaning_runCommand {text : String} {tokens : List Token}
    (h : tokenize text = .ok tokens) (root : Root) (options : Option ParserOptions)
    (mode : Option ParseMode) :
    (runCommand text root options mode).map Outcome.meaning =
      Meaning.ofReading root ((parse tokens options mode).mapError ParseFailure.unplaced) := by
  cases hparse : parse tokens options mode with
  | ok instruction =>
    rw [runCommand_of_instruction root h hparse]
    exact congrArg Except.ok (meaning_runInstruction "" text instruction root)
  | error failure =>
    cases failure with
    | options conflict =>
      rw [runCommand_of_conflict root h hparse]
      rfl
    | parse e =>
      rw [runCommand_of_parseError root h hparse]
      exact congrArg Except.ok (Outcome.meaning_refused_unplaced text "" e root).symm

/-! ## Main result -/

/-- A line that is laid out anew is read as the same tokens, which differ in their spans alone, and
does the same to every game in either mode: it is understood as the same instruction, answered with
the same value or the same diagnostics up to their spans, shown as the same line, and leaves the
same game. A caller who is refused is refused for both. -/
theorem layout_keeps_meaning {text other : String} {tokens : List Token}
    (h : tokenize text = .ok tokens) (hlaid : LaidOut tokens other.toList) :
    (∃ others, tokenize other = .ok others ∧
      others.map Token.unplaced = tokens.map Token.unplaced) ∧
    (∀ root mode, ∃ outcome relaid, runCommand text root none (some mode) = .ok outcome ∧
      runCommand other root none (some mode) = .ok relaid ∧ relaid.meaning = outcome.meaning) ∧
    ∀ root options mode, (runCommand other root options mode).map Outcome.meaning =
      (runCommand text root options mode).map Outcome.meaning := by
  obtain ⟨others, hother, hplaces⟩ := tokenize_laidOut h hlaid
  have hmeaning : ∀ root options mode, (runCommand other root options mode).map Outcome.meaning =
      (runCommand text root options mode).map Outcome.meaning := by
    intro root options mode
    rw [map_meaning_runCommand h, map_meaning_runCommand hother,
      parse_congr_of_unplaced hplaces]
  refine ⟨⟨others, hother, hplaces⟩, fun root mode => ?_, hmeaning⟩
  have hmode := hmeaning root none (some mode)
  rw [runCommand_mode, runCommand_mode] at hmode
  exact ⟨_, _, runCommand_mode text root mode, runCommand_mode other root mode,
    Except.ok.inj hmode⟩

set_option maxRecDepth 4000 in
/-- Two of three coins are spent, however that is asked for. -/
theorem layout_keeps_meaning_spend :
    ∃ others outcome, tokenize "\tspend ( 2\n) " = .ok others ∧
      others.map (·.text) = ["spend", "(", "2", ")"] ∧
      runCommand "\tspend ( 2\n) " { coins := 3 } none (some .strict) = .ok outcome ∧
      outcome.meaning =
        ⟨some (.call "spend" [2]), some (.boolean true), [], .ok "true", { coins := 1 }⟩ := by
  have hspace : ∀ c ∈ [' '], Text.isBlank c = true := List.forall_mem_singleton.mpr rfl
  have hbreak : ∀ c ∈ ['\n'], Text.isBlank c = true := List.forall_mem_singleton.mpr rfl
  have htab : ∀ c ∈ ['\t'], Text.isBlank c = true := List.forall_mem_singleton.mpr rfl
  obtain ⟨tokens, htokens, htexts, hlaid⟩ : ∃ tokens, tokenize "spend(2)" = .ok tokens ∧
      tokens.map (·.text) = ["spend", "(", "2", ")"] ∧
      LaidOut tokens "\tspend ( 2\n) ".toList :=
    ⟨[⟨.keyword, .ofLength 0 5, "spend", none⟩, ⟨.leftParen, .ofLength 5 1, "(", none⟩,
      ⟨.integer, .ofLength 6 1, "2", some 2⟩, ⟨.rightParen, .ofLength 7 1, ")", none⟩],
      by cbv, rfl, ['\t'], _, htab,
      .token _ hspace (by simp) (.token _ hspace (by simp)
        (.token _ hbreak (by simp) (.token _ hspace (by simp) .nothing))),
      rfl⟩
  have hformed : (Instruction.call "spend" [2]).WellFormed := by decide +kernel
  obtain ⟨tokens', htokens', hparse⟩ := parseText_eq_ok_iff.mp (parseText_format hformed .strict)
  obtain ⟨⟨others, hothers, hplaces⟩, hmeaning, -⟩ := layout_keeps_meaning htokens hlaid
  obtain ⟨outcome, relaid, houtcome, hrelaid, hsame⟩ := hmeaning { coins := 3 } .strict
  have hrun := runCommand_of_instruction { coins := 3 } htokens' hparse
  obtain rfl := Except.ok.inj (houtcome.symm.trans hrun)
  refine ⟨others, relaid, hothers, ?_, hrelaid, hsame⟩
  have hsameTexts := congrArg (List.map fun token => token.text) hplaces
  rw [List.map_map, List.map_map] at hsameTexts
  exact hsameTexts.trans htexts

end CoinConsole
