import CoinConsole.Game.Command
import CoinConsole.Proofs.Instruction.RoundTrip

/-!
# The three steps of a line

A line is cut into tokens, the tokens are read as an instruction, and the instruction is carried
out; the first step that fails ends this. Only the last step touches the game, and an object that
refuses an instruction is left as it was (`Root.snd_handle_of_error`). So whatever error ends a
line, the error is all that is reported, and the game is the one before (`Outcome.EndedBy`).
-/

namespace CoinConsole

/-! ## Refused instructions -/

/-- A clock that refuses an instruction is left as it was. -/
theorem Clock.snd_handle_of_error {clock : Clock} {instruction : Instruction} {e : HandleError}
    (h : (clock.handle instruction).1 = .error e) : (clock.handle instruction).2 = clock := by
  unfold Clock.handle at h ⊢
  split
  · rfl
  · rfl
  · next arguments =>
    -- the clock moves only when there is an argument, and then it answers with a value
    cases harg : firstArgument arguments with
    | error e => simp
    | ok amount => simp [harg] at h
  · rfl

/-- A game that refuses an instruction is left as it was. -/
theorem Root.snd_handle_of_error {root : Root} {instruction : Instruction} {e : HandleError}
    (h : (root.handle instruction).1 = .error e) : (root.handle instruction).2 = root := by
  unfold Root.handle at h ⊢
  split
  · rfl
  · rfl
  · rfl
  · next rest =>
    have hclock : (root.clock.handle rest).2 = root.clock := Clock.snd_handle_of_error h
    simp [hclock]
  · next arguments =>
    cases harg : firstArgument arguments with
    | error e => simp
    | ok amount => simp [harg] at h
  · next arguments =>
    cases harg : firstArgument arguments with
    | error e => simp
    | ok amount => simp [harg] at h
  · simp at h
  · rfl

/-! ## Ended lines -/

/-- An error has ended the line: it is all that is reported, and the game is as it was. -/
structure Outcome.EndedBy (outcome : Outcome) (text : String) (instruction : Option Instruction)
    (error : ReportedError) (category : Category) (root : Root) : Prop where
  result : outcome.result =
    { source := text, instruction, value := none, diagnostics := [error.toDiagnostic] }
  category_eq : error.toDiagnostic.category = some category.label
  root_eq : outcome.root = root

/-- The line has been carried out with a value. -/
structure Outcome.Yields (outcome : Outcome) (text : String) (instruction : Instruction)
    (value : Value) (root : Root) : Prop where
  result : outcome.result =
    { source := text, instruction := some instruction, value := some value, diagnostics := [] }
  root_eq : outcome.root = root

theorem Outcome.endedBy_refused (text : String) (instruction : Option Instruction)
    (error : ReportedError) (root : Root) :
    (Outcome.refused text instruction error root).EndedBy text instruction error
      error.code.category root :=
  ⟨rfl, rfl, rfl⟩

/-- A result holds a value or one diagnostic, which is an error, and never both. -/
def CommandResult.IsDecided (result : CommandResult) : Prop :=
  (result.value ≠ none ∧ result.diagnostics = [] ∨
    result.value = none ∧ result.diagnostics.length = 1) ∧
  (result.hasErrors = true ↔ result.value = none)

theorem Outcome.EndedBy.isDecided {outcome : Outcome} {text : String}
    {instruction : Option Instruction} {error : ReportedError} {category : Category} {root : Root}
    (h : outcome.EndedBy text instruction error category root) : outcome.result.IsDecided := by
  rw [h.result]
  refine ⟨Or.inr ⟨rfl, rfl⟩, ?_⟩
  simp [CommandResult.hasErrors, CoinConsole.hasErrors, ReportedError.toDiagnostic]

theorem Outcome.Yields.isDecided {outcome : Outcome} {text : String} {instruction : Instruction}
    {value : Value} {root : Root} (h : outcome.Yields text instruction value root) :
    outcome.result.IsDecided := by
  rw [h.result]
  refine ⟨Or.inl ⟨by simp, rfl⟩, ?_⟩
  simp [CommandResult.hasErrors, CoinConsole.hasErrors]

/-! ## The steps -/

section

variable {text : String} {options : Option ParserOptions} {mode : Option ParseMode}

theorem runCommand_of_lexError {e : LexError} (root : Root) (h : tokenize text = .error e) :
    runCommand text root options mode = .ok (.refused text none (.lex e) root) := by
  simp [runCommand, parseText, h]

theorem runCommand_of_parseError {tokens : List Token} {e : ParseError} (root : Root)
    (hlex : tokenize text = .ok tokens) (h : parse tokens options mode = .error (.parse e)) :
    runCommand text root options mode = .ok (.refused text none (.parse e) root) := by
  simp [runCommand, parseText, hlex, h]

theorem runCommand_of_conflict {tokens : List Token} {conflict : OptionsConflict} (root : Root)
    (hlex : tokenize text = .ok tokens)
    (h : parse tokens options mode = .error (.options conflict)) :
    runCommand text root options mode = .error conflict := by
  simp [runCommand, parseText, hlex, h]

theorem runCommand_of_instruction {tokens : List Token} {instruction : Instruction} (root : Root)
    (hlex : tokenize text = .ok tokens) (h : parse tokens options mode = .ok instruction) :
    runCommand text root options mode = .ok (runInstruction text instruction root) := by
  simp [runCommand, parseText, hlex, h]

/-- Options and a mode are in conflict only if both are given. -/
theorem parse_eq_conflict_iff {tokens : List Token} {conflict : OptionsConflict} :
    parse tokens options mode = .error (.options conflict) ↔ options ≠ none ∧ mode ≠ none := by
  cases conflict
  cases options with
  | none =>
    cases mode <;> simp only [parse, ParserOptions.resolve] <;> split <;> simp
  | some given =>
    cases mode with
    | none => simp only [parse, ParserOptions.resolve]; split <;> simp
    | some mode => simp [parse, ParserOptions.resolve]

end

theorem runInstruction_of_error {instruction : Instruction} {root : Root} {e : HandleError}
    (text : String) (h : (root.handle instruction).1 = .error e) :
    runInstruction text instruction root = .refused text (some instruction) (.handle e) root := by
  have hroot := Root.snd_handle_of_error h
  have hhandle : root.handle instruction = (.error e, root) := Prod.ext h hroot
  simp [runInstruction, hhandle]

theorem runInstruction_of_value {instruction : Instruction} {root : Root} {value : Value}
    (text : String) (h : (root.handle instruction).1 = .ok value) :
    runInstruction text instruction root =
      .done text instruction value (root.handle instruction).2 := by
  have hhandle : root.handle instruction = (.ok value, (root.handle instruction).2) :=
    Prod.ext h rfl
  rw [runInstruction, hhandle]

theorem endedBy_of_handleError {instruction : Instruction} {root : Root} {e : HandleError}
    (text : String) (h : (root.handle instruction).1 = .error e) :
    (runInstruction text instruction root).EndedBy text (some instruction) (.handle e) .handle
      root := by
  rw [runInstruction_of_error text h]
  cases e <;> exact Outcome.endedBy_refused _ _ _ _

theorem yields_of_value {instruction : Instruction} {root : Root} {value : Value}
    (text : String) (h : (root.handle instruction).1 = .ok value) :
    (runInstruction text instruction root).Yields text instruction value
      (root.handle instruction).2 := by
  rw [runInstruction_of_value text h]
  exact ⟨rfl, rfl⟩

/-! ## Main result -/

/-- A line is run in three steps up to the first that fails. A caller who does not give both options
and a mode always gets a result, which holds a value or one diagnostic. A line that is not made of
tokens, tokens that are no instruction and an instruction that is refused each end the line with
their own error and leave the game as it was; only an instruction that is answered with a value
changes the game, and then as the answer says. A caller who gives both is told so if the line is
made of tokens, and never changes the game. -/
theorem runCommand_ends_at_first_failure (text : String) (root : Root)
    (options : Option ParserOptions) (mode : Option ParseMode) :
    (options = none ∨ mode = none →
      ∃ outcome, runCommand text root options mode = .ok outcome ∧ outcome.result.IsDecided) ∧
    (∀ e, tokenize text = .error e →
      ∃ outcome, runCommand text root options mode = .ok outcome ∧
        outcome.EndedBy text none (.lex e) .lexer root) ∧
    (∀ tokens e, tokenize text = .ok tokens → parse tokens options mode = .error (.parse e) →
      ∃ outcome, runCommand text root options mode = .ok outcome ∧
        outcome.EndedBy text none (.parse e) .parser root) ∧
    (∀ tokens instruction, tokenize text = .ok tokens →
      parse tokens options mode = .ok instruction →
      (∀ e, (root.handle instruction).1 = .error e →
        ∃ outcome, runCommand text root options mode = .ok outcome ∧
          outcome.EndedBy text (some instruction) (.handle e) .handle root) ∧
      (∀ value, (root.handle instruction).1 = .ok value →
        ∃ outcome, runCommand text root options mode = .ok outcome ∧
          outcome.Yields text instruction value (root.handle instruction).2)) ∧
    (options ≠ none → mode ≠ none →
      (∀ tokens, tokenize text = .ok tokens →
        runCommand text root options mode = .error .bothGiven) ∧
      rootAfter root (runCommand text root options mode) = root) := by
  have hlexed : ∀ e, tokenize text = .error e →
      ∃ outcome, runCommand text root options mode = .ok outcome ∧
        outcome.EndedBy text none (.lex e) .lexer root := by
    intro e hlex
    refine ⟨_, runCommand_of_lexError root hlex, ?_⟩
    cases e <;> exact Outcome.endedBy_refused _ _ _ _
  have hparsed : ∀ tokens e, tokenize text = .ok tokens →
      parse tokens options mode = .error (.parse e) →
      ∃ outcome, runCommand text root options mode = .ok outcome ∧
        outcome.EndedBy text none (.parse e) .parser root := by
    intro tokens e hlex hparse
    refine ⟨_, runCommand_of_parseError root hlex hparse, ?_⟩
    cases e <;> exact Outcome.endedBy_refused _ _ _ _
  refine ⟨fun hgiven => ?_, hlexed, hparsed, fun tokens instruction hlex hparse => ?_,
    fun hoptions hmode => ?_⟩
  · cases hlex : tokenize text with
    | error e =>
      obtain ⟨outcome, hrun, hended⟩ := hlexed e hlex
      exact ⟨outcome, hrun, hended.isDecided⟩
    | ok tokens =>
      cases hparse : parse tokens options mode with
      | error failure =>
        cases failure with
        | options conflict =>
          obtain ⟨hoptions, hmode⟩ := parse_eq_conflict_iff.mp hparse
          exact absurd hgiven (by simp [hoptions, hmode])
        | parse e =>
          obtain ⟨outcome, hrun, hended⟩ := hparsed tokens e hlex hparse
          exact ⟨outcome, hrun, hended.isDecided⟩
      | ok instruction =>
        refine ⟨_, runCommand_of_instruction root hlex hparse, ?_⟩
        cases hhandle : (root.handle instruction).1 with
        | error e => exact (endedBy_of_handleError text hhandle).isDecided
        | ok value => exact (yields_of_value text hhandle).isDecided
  · refine ⟨fun e hhandle => ?_, fun value hhandle => ?_⟩
    · exact ⟨_, runCommand_of_instruction root hlex hparse, endedBy_of_handleError text hhandle⟩
    · exact ⟨_, runCommand_of_instruction root hlex hparse, yields_of_value text hhandle⟩
  · have hconflict : ∀ tokens, tokenize text = .ok tokens →
        runCommand text root options mode = .error .bothGiven := fun tokens hlex =>
      runCommand_of_conflict root hlex (parse_eq_conflict_iff.mpr ⟨hoptions, hmode⟩)
    refine ⟨hconflict, ?_⟩
    cases hlex : tokenize text with
    | error e =>
      obtain ⟨outcome, hrun, hended⟩ := hlexed e hlex
      rw [hrun]
      exact hended.root_eq
    | ok tokens => rw [hconflict tokens hlex, rootAfter]

/-- What a player with three coins is told, in each of the ways a line can end. -/
theorem runCommand_add_lines :
    (∃ outcome, runCommand "$" { coins := 3 } none (some .strict) = .ok outcome ∧
      outcome.EndedBy "$" none (.lex (.unknownCharacter 0 "$")) .lexer { coins := 3 }) ∧
    (∃ outcome, runCommand "" { coins := 3 } none (some .strict) = .ok outcome ∧
      outcome.EndedBy "" none (.parse (.missingToken (endSpan []))) .parser { coins := 3 }) ∧
    (∃ outcome, runCommand "add()" { coins := 3 } none (some .strict) = .ok outcome ∧
      outcome.EndedBy "add()" (some (.call "add" []))
        (.handle (.wrongArgumentType "Int" 0)) .handle { coins := 3 }) ∧
    (∃ outcome, runCommand "add(2)" { coins := 3 } none (some .strict) = .ok outcome ∧
      outcome.result.IsDecided ∧
      outcome.Yields "add(2)" (.call "add" [2]) (.integer 5) { coins := 5 }) ∧
    runCommand "" { coins := 3 } (some {}) (some .strict) = .error .bothGiven := by
  have hmark : tokenize "$" = .error (.unknownCharacter 0 "$") :=
    congrArg Prod.fst (scan_unknown 0 (c := '$') rfl rfl rfl rfl)
  have hnothing : tokenize "" = .ok [] := congrArg Prod.fst (scan_nil 0)
  have hread : ∀ arguments, (Instruction.call "add" arguments).WellFormed →
      ∃ tokens, tokenize (Instruction.call "add" arguments).format = .ok tokens ∧
        parse tokens none (some .strict) = .ok (.call "add" arguments) :=
    fun arguments hformed => parseText_eq_ok_iff.mp (parseText_format hformed .strict)
  obtain ⟨-, hlexed, -⟩ := runCommand_ends_at_first_failure "$" { coins := 3 } none (some .strict)
  obtain ⟨-, -, hparsed, -⟩ :=
    runCommand_ends_at_first_failure "" { coins := 3 } none (some .strict)
  obtain ⟨-, -, -, hrefused, -⟩ :=
    runCommand_ends_at_first_failure "add()" { coins := 3 } none (some .strict)
  obtain ⟨hresult, -, -, hadded, -⟩ :=
    runCommand_ends_at_first_failure "add(2)" { coins := 3 } none (some .strict)
  obtain ⟨-, -, -, -, hboth⟩ :=
    runCommand_ends_at_first_failure "" { coins := 3 } (some {}) (some .strict)
  refine ⟨hlexed _ hmark, hparsed _ _ hnothing rfl, ?_, ?_,
    (hboth (by simp) (by simp)).1 _ hnothing⟩
  · obtain ⟨tokens, htokens, hparse⟩ := hread [] (by decide +kernel)
    exact (hrefused tokens _ htokens hparse).1 _ rfl
  · obtain ⟨tokens, htokens, hparse⟩ := hread [2] (by decide +kernel)
    obtain ⟨outcome, hrun, hyields⟩ := (hadded tokens _ htokens hparse).2 _ rfl
    obtain ⟨decided, hrun', hdecided⟩ := hresult (Or.inl rfl)
    obtain rfl := Except.ok.inj (hrun.symm.trans hrun')
    exact ⟨outcome, hrun, hdecided, hyields⟩

end CoinConsole
