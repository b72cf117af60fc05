import CoinConsole.Proofs.Console.Submission
import CoinConsole.Proofs.Game.Ledger
import CoinConsole.Proofs.Report.Pointing
import CoinConsole.Proofs.Text.LineBreaks

/-!
# Answers on one line

A player who types a line is answered with one line, and one line is logged about it. Much of what
was typed comes back in these two: the characters the lexer refuses, a token out of place, a name
that no object has, the instruction, and the whole text in quotes. None of it brings a line break
along, because a lexeme ends before the first blank (`Lexeme.isBlank_of_mem`), line breaks are
blanks, and quotes escape them.

Only a value with too many digits is neither shown nor logged. It is then one of the integers of the
game, so a game with short integers is answered exactly as long as they stay short
(`runCommand_answers_on_one_line`).
-/

namespace CoinConsole

open Text

/-! ## Lexemes have no blanks -/

/-- What the lexer refuses has no blank. -/
theorem RefusedWith.isBlank_of_mem {position : Nat} {cs : List Char} {error : LexError}
    (h : RefusedWith position cs error) : ∀ c ∈ error.lexeme.toList, isBlank c = false := by
  cases h with
  | unknown nothing => simpa [LexError.lexeme] using nothing.blank
  | badNumber number =>
    rw [LexError.lexeme, String.toList_ofList]
    exact fun c hc => number.isBlank_of_mem hc

theorem isSingleLine_token {text : String} {tokens : List Token} {token : Token}
    (h : tokenize text = .ok tokens) (hmem : token ∈ tokens) : IsSingleLine token.text := by
  obtain ⟨lexeme, start, rfl⟩ := exists_lexeme_of_tokenize h hmem
  refine isSingleLine_of_isBlank fun c hc => lexeme.isBlank_of_mem ?_
  rwa [Lexeme.token, String.toList_ofList] at hc

theorem isSingleLine_of_isName {name : String} (h : isName name = true) : IsSingleLine name := by
  let lexeme : Lexeme := ⟨.keyword, name.toList, none, spelled_of_isName h⟩
  exact isSingleLine_of_isBlank fun c hc => lexeme.isBlank_of_mem hc

/-! ## Errors are worded on one line -/

theorem isLine_lexError {text : String} {error : LexError} (h : tokenize text = .error error) :
    IsLine error.message := by
  obtain ⟨cut, rest, -, -, -, hrefused⟩ := exists_cut_of_tokenize_error h
  have hlexeme : IsSingleLine error.lexeme := isSingleLine_of_isBlank hrefused.isBlank_of_mem
  cases error with
  | unknownCharacter position char =>
    have hopening : IsLine "Unexpected char '" := by decide
    exact ((hopening.append hlexeme).append (by decide)).append (isSingleLine_natural position)
  | badNumber position text =>
    have hopening : IsLine "Failed to parse number '" := by decide
    exact ((hopening.append hlexeme).append (by decide)).append (isSingleLine_natural position)

theorem isSingleLine_describe {token : Token} (h : IsSingleLine token.text) :
    IsSingleLine (Found.token token).describe := by
  have hquote : IsSingleLine "'" := by decide
  exact (hquote.append h).append hquote

theorem TokenKind.isSingleLine_display (kind : TokenKind) : IsSingleLine kind.display := by
  cases kind <;> decide

/-- An error of the parser about a list of tokens holds one of them, or says what is missing. -/
theorem carries_or_misses_of_parse {tokens : List Token} {options : Option ParserOptions}
    {mode : Option ParseMode} {error : ParseError}
    (h : parse tokens options mode = .error (.parse error)) :
    (∃ token ∈ tokens, error.Carries token) ∨ error.Misses (endSpan tokens) := by
  rw [parse] at h
  split at h
  · cases h
  · split at h
    · next e hcommand =>
      obtain rfl := ParseFailure.parse.inj (Except.error.inj h)
      exact Grammar.carries_or_misses hcommand
    · cases h

theorem isLine_parseError {text : String} {tokens : List Token} {options : Option ParserOptions}
    {mode : Option ParseMode} {error : ParseError} (hlex : tokenize text = .ok tokens)
    (h : parse tokens options mode = .error (.parse error)) : IsLine error.message := by
  have hunexpected : IsLine "Unexpected token " := by decide
  have hexpected : IsLine "Expected '" := by decide
  rcases carries_or_misses_of_parse h with ⟨token, hmem, rfl | ⟨kind, rfl⟩⟩ | rfl | rfl
  · exact hunexpected.append (isSingleLine_describe (isSingleLine_token hlex hmem))
  · exact ((hexpected.append kind.isSingleLine_display).append (by decide)).append
      (isSingleLine_describe (isSingleLine_token hlex hmem))
  · show IsLine "Expected a token but found none"
    decide
  · have hnothing : IsSingleLine "none" := by decide
    exact ((hexpected.append (by decide)).append (by decide)).append hnothing

/-! ## Refusals of the game -/

theorem Instruction.name_mem_names (instruction : Instruction) :
    instruction.name ∈ instruction.names := by
  cases instruction <;> exact List.mem_cons_self

/-- The ways in which a game refuses an instruction: a function has not got the argument it takes,
or the names at the end of the instruction start with one that is not found. -/
inductive Instruction.Refused (instruction : Instruction) : HandleError → Prop
  | argument : Refused instruction (.wrongArgumentType "Int" 0)
  | member {typeName : String} {part : Instruction} (known : typeName ∈ ["Root", "Clock", "Int"])
      (within : part.names <:+ instruction.names) :
      Refused instruction (.memberNotFound typeName part)

section

variable {instruction : Instruction} {error : HandleError}

theorem Instruction.Refused.member_of {name : String} {rest : Instruction}
    (h : rest.Refused error) : (Instruction.member name rest).Refused error := by
  cases h with
  | argument => exact .argument
  | member known within => exact .member known (within.trans (List.suffix_cons name rest.names))

theorem Clock.refused_of_handle {clock : Clock}
    (h : (clock.handle instruction).1 = .error error) : instruction.Refused error := by
  unfold handle at h
  split at h
  · cases h
  · next rest =>
    obtain rfl := Except.error.inj h
    exact .member (by simp [Value.typeName]) (List.suffix_cons "seconds" rest.names)
  · next arguments =>
    cases arguments with
    | nil =>
      obtain rfl := Except.error.inj h
      exact .argument
    | cons amount more => cases h
  · obtain rfl := Except.error.inj h
    exact .member (by decide) List.suffix_rfl

theorem Root.refused_of_handle {root : Root}
    (h : (root.handle instruction).1 = .error error) : instruction.Refused error := by
  unfold handle at h
  split at h
  · cases h
  · next rest =>
    obtain rfl := Except.error.inj h
    exact .member (by simp [Value.typeName]) (List.suffix_cons "coins" rest.names)
  · cases h
  · exact (Clock.refused_of_handle h).member_of
  · next arguments =>
    cases arguments with
    | nil =>
      obtain rfl := Except.error.inj h
      exact .argument
    | cons amount more => cases h
  · next arguments =>
    cases arguments with
    | nil =>
      obtain rfl := Except.error.inj h
      exact .argument
    | cons amount more => cases h
  · cases h
  · obtain rfl := Except.error.inj h
    exact .member (by decide) List.suffix_rfl

/-- A refusal is worded on one line if the names in the instruction have no line breaks. -/
theorem Instruction.Refused.isLine_message (h : instruction.Refused error)
    (hnames : ∀ name ∈ instruction.names, IsSingleLine name) : IsLine error.message := by
  have hfunction : IsLine "Did not find any functions named '" := by decide
  have hproperty : IsLine "Did not find property '" := by decide
  cases h with
  | argument => decide
  | @member typeName part known within =>
    have htype : IsSingleLine typeName :=
      (by decide : ∀ name ∈ ["Root", "Clock", "Int"], IsSingleLine name) typeName known
    have hname : IsSingleLine part.name := hnames _ (within.subset part.name_mem_names)
    cases part with
    | call name arguments => exact ((hfunction.append hname).append (by decide)).append htype
    | property name => exact ((hproperty.append hname).append (by decide)).append htype
    | member name rest => exact ((hproperty.append hname).append (by decide)).append htype

end

/-! ## Instructions and values -/

theorem Instruction.isSingleLine_segments {instruction : Instruction}
    (hnames : ∀ name ∈ instruction.names, IsSingleLine name) :
    ∀ segment ∈ instruction.segments, IsSingleLine segment := by
  induction instruction with
  | property name => exact hnames
  | call name arguments =>
    have hlist : IsSingleLine (", ".intercalate (arguments.map toString)) := by
      rw [isSingleLine_intercalate (by decide), List.forall_mem_map]
      exact fun value _ => isSingleLine_integer value
    rw [segments, List.forall_mem_singleton]
    exact (((hnames name List.mem_cons_self).append (by decide)).append hlist).append (by decide)
  | member name rest ih =>
    rw [segments, List.forall_mem_cons]
    rw [names, List.forall_mem_cons] at hnames
    exact ⟨hnames.1, ih hnames.2⟩

theorem Instruction.isSingleLine_format {instruction : Instruction}
    (hnames : ∀ name ∈ instruction.names, IsSingleLine name) : IsSingleLine instruction.format := by
  rw [format, isSingleLine_intercalate (by decide)]
  exact isSingleLine_segments hnames

theorem isLine_integer (n : Int) : IsLine (toString n) := by
  refine ⟨fun hempty => ?_, isSingleLine_integer n⟩
  have hchars := Text.toList_toString n
  rw [hempty, String.toList_empty] at hchars
  split at hchars
  · exact Nat.toDigits_ne_nil hchars.symm
  · cases hchars

theorem Value.isLine_text {value : Value} {shown : String} (h : value.text = .ok shown) :
    IsLine shown := by
  cases value with
  | null =>
    obtain rfl := Except.ok.inj h
    decide
  | integer n =>
    obtain ⟨-, rfl⟩ := showInteger_eq_ok_iff.mp h
    exact isLine_integer n
  | boolean b =>
    cases b <;> obtain rfl := Except.ok.inj h <;> decide

/-- A game with short integers that answers with a value that can be shown keeps its integers
short. -/
theorem Root.isShort_handle {root : Root} {instruction : Instruction} {value : Value}
    {shown : String} (hshort : root.IsShort) (h : (root.handle instruction).1 = .ok value)
    (hshown : value.text = .ok shown) : (root.handle instruction).2.IsShort := by
  have hbooks := root.books_handle instruction
  rw [h] at hbooks
  generalize (root.handle instruction).2 = next at hbooks ⊢
  cases hbooks with
  | adds amount more => exact ⟨(showInteger_eq_ok_iff.mp hshown).1, hshort.seconds⟩
  | pays amount more enough =>
    refine ⟨?_, hshort.seconds⟩
    have hcoins := isShort_iff_lt.mp hshort.coins
    refine isShort_iff_lt.mpr (Nat.lt_of_le_of_lt ?_ hcoins)
    dsimp only
    omega
  | declines => exact hshort
  | resets => exact ⟨isShort_zero, hshort.seconds⟩
  | advances amount more forward => exact ⟨hshort.coins, (showInteger_eq_ok_iff.mp hshown).1⟩
  | idles => exact hshort

/-! ## What is told about a line -/

/-- How a record tells of the line that is shown: behind the instruction that was carried out, or
behind the text that was typed and the code of the error. -/
inductive CommandResult.RecordedAs (result : CommandResult) (line : String) : String → Prop
  | done (instruction : Instruction) (read : result.instruction = some instruction)
      (fine : result.diagnostics = []) : RecordedAs result line s!"{instruction.format} -> {line}"
  | failed (diagnostic : Diagnostic) (refused : result.diagnostics = [diagnostic]) :
      RecordedAs result line
        s!"Command {quoted result.source} failed with {diagnostic.code}: {line}"

namespace Outcome

/-- The player is shown `line`, and one record is made, whose message is `message`; each of the two
fills a line. -/
structure Tells (outcome : Outcome) (line message : String) : Prop where
  render : outcome.result.render = .ok line
  record : outcome.record = some { level := .debug, logger, message }
  recorded : outcome.result.RecordedAs line message
  line_isLine : IsLine line
  message_isLine : IsLine message

/-- The player is shown nothing and no record is made, because the value is an integer with too many
digits. -/
structure IsSilent (outcome : Outcome) : Prop where
  render : outcome.result.render = .error .tooManyDigits
  record : outcome.record = none
  value : ∃ n, outcome.result.value = some (.integer n) ∧ ¬ IsShort n

/-- The player is shown a line, and a record is made of it. -/
def IsTold (outcome : Outcome) : Prop := ∃ line message, outcome.Tells line message

variable {outcome : Outcome} {instruction : Instruction} {value : Value}

theorem IsSilent.not_isTold (h : outcome.IsSilent) : ¬ outcome.IsTold := by
  rintro ⟨line, message, htells⟩
  have hrender := htells.render
  rw [h.render] at hrender
  cases hrender

/-- The line and the record that are there are the ones that are told. -/
theorem IsTold.tells {line message : String} (h : outcome.IsTold)
    (hrender : outcome.result.render = .ok line)
    (hrecord : outcome.record = some { level := .debug, logger, message }) :
    outcome.Tells line message := by
  obtain ⟨line', message', htells⟩ := h
  obtain rfl := Except.ok.inj (htells.render.symm.trans hrender)
  have hsame := Option.some.inj (htells.record.symm.trans hrecord)
  obtain rfl : message' = message := congrArg Log.Record.message hsame
  exact htells

theorem isTold_refused (text : String) (root : Root) (instruction : Option Instruction)
    {error : ReportedError} (h : IsLine error.message) :
    (refused text instruction error root).IsTold := by
  have hopening : IsLine "Command " := by decide
  have hcode : IsSingleLine error.code.label := by cases error.code <;> decide
  have hmessage : IsLine
      s!"Command {quoted text} failed with {error.code.label}: {error.message}" :=
    ((((hopening.append (isSingleLine_quoted text)).append (by decide)).append hcode).append
      (by decide)).append h.single
  exact ⟨error.message, _, rfl, rfl, .failed error.toDiagnostic rfl, h, hmessage⟩

theorem isTold_done (text : String) (root : Root) {line : String}
    (hnames : ∀ name ∈ instruction.names, IsSingleLine name) (hvalue : value.text = .ok line) :
    (done text instruction value root).IsTold := by
  have hline := Value.isLine_text hvalue
  have hmessage : IsLine s!"{instruction.format} -> {line}" := by
    refine ⟨fun hempty => hline.ne_empty (String.append_eq_empty_iff.mp hempty).2, ?_⟩
    exact ((Instruction.isSingleLine_format hnames).append (by decide)).append hline.single
  refine ⟨line, _, hvalue, ?_, .done instruction rfl rfl, hline, hmessage⟩
  rw [done, hvalue]

theorem isSilent_done (text : String) (instruction : Instruction) (root : Root)
    {error : ShowError} (hvalue : value.text = .error error) :
    (done text instruction value root).IsSilent := by
  cases error
  refine ⟨hvalue, by rw [done, hvalue], ?_⟩
  cases value with
  | null => cases hvalue
  | integer n =>
    refine ⟨n, rfl, fun hshort => ?_⟩
    rw [Value.text, showInteger_of_isShort hshort] at hvalue
    cases hvalue
  | boolean b => cases b <;> cases hvalue

end Outcome

/-! ## Main result -/

/-- The outcome answers a player of the game `root`: the player is told of it, or there is nothing
that can be shown. If the integers of the game are short, the player is told exactly if they still
are. -/
structure Outcome.Answers (outcome : Outcome) (root : Root) : Prop where
  told_or_silent : outcome.IsTold ∨ outcome.IsSilent
  told_iff : root.IsShort → (outcome.IsTold ↔ outcome.root.IsShort)

/-- A refusal leaves the game as it was, so its integers are as short as before. -/
theorem Outcome.answers_refused (text : String) (root : Root) (instruction : Option Instruction)
    {error : ReportedError} (h : IsLine error.message) :
    (refused text instruction error root).Answers root := by
  have htold := isTold_refused text root instruction h
  exact ⟨Or.inl htold, fun hshort => iff_of_true htold hshort⟩

theorem answers_runInstruction (text : String) (root : Root) {instruction : Instruction}
    (hnames : ∀ name ∈ instruction.names, IsSingleLine name) :
    (runInstruction text instruction root).Answers root := by
  cases hhandle : (root.handle instruction).1 with
  | error error =>
    rw [runInstruction_of_error text hhandle]
    exact Outcome.answers_refused text root _
      ((Root.refused_of_handle hhandle).isLine_message hnames)
  | ok value =>
    rw [runInstruction_of_value text hhandle]
    cases hvalue : value.text with
    | ok line =>
      have htold := Outcome.isTold_done text (root.handle instruction).2 hnames hvalue
      exact ⟨Or.inl htold, fun hshort =>
        iff_of_true htold (Root.isShort_handle hshort hhandle hvalue)⟩
    | error error =>
      have hsilent := Outcome.isSilent_done text instruction (root.handle instruction).2 hvalue
      refine ⟨Or.inr hsilent, fun _ => iff_of_false hsilent.not_isTold fun hlast => ?_⟩
      obtain ⟨shown, hshown⟩ := Root.exists_text_of_value hhandle hlast
      rw [hvalue] at hshown
      cases hshown

theorem source_runInstruction (text : String) (instruction : Instruction) (root : Root) :
    (runInstruction text instruction root).result.source = text := by
  rw [runInstruction]
  split <;> rfl

/-- Whatever is typed, the player is shown one line and one record is made, neither of them empty or
with a line break, or the value has too many digits and neither is there. If the integers of the
game are short, the line and the record are there exactly if they are still short afterwards. -/
theorem runCommand_answers_on_one_line (text : String) (root : Root)
    {options : Option ParserOptions} {mode : Option ParseMode}
    (hgiven : options = none ∨ mode = none) :
    ∃ outcome, runCommand text root options mode = .ok outcome ∧ outcome.result.source = text ∧
      (outcome.IsTold ∨ outcome.IsSilent) ∧
      (root.IsShort → (outcome.IsTold ↔ outcome.root.IsShort)) := by
  obtain ⟨outcome, hrun, hsource, hanswers⟩ : ∃ outcome,
      runCommand text root options mode = .ok outcome ∧ outcome.result.source = text ∧
        outcome.Answers root := by
    cases hlex : tokenize text with
    | error error =>
      exact ⟨_, runCommand_of_lexError root hlex, rfl,
        Outcome.answers_refused text root none (isLine_lexError hlex)⟩
    | ok tokens =>
      cases hparse : parse tokens options mode with
      | error failure =>
        cases failure with
        | options conflict =>
          obtain ⟨hoptions, hmode⟩ := parse_eq_conflict_iff.mp hparse
          exact absurd hgiven (by simp [hoptions, hmode])
        | parse error =>
          exact ⟨_, runCommand_of_parseError root hlex hparse, rfl,
            Outcome.answers_refused text root none (isLine_parseError hlex hparse)⟩
      | ok instruction =>
        have hformed := wellFormed_of_parseText (parseText_eq_ok_iff.mpr ⟨tokens, hlex, hparse⟩)
        exact ⟨_, runCommand_of_instruction root hlex hparse, source_runInstruction _ _ _,
          answers_runInstruction text root fun name hname =>
            isSingleLine_of_isName (hformed.names name hname)⟩
  exact ⟨outcome, hrun, hsource, hanswers.told_or_silent, hanswers.told_iff⟩

/-- Two coins are earned; and a character that is refused is named without the line break behind
it, which the record quotes. -/
theorem runCommand_answers_on_one_line_earn_typo :
    (∃ outcome, runCommand "add(2)" { coins := 3 } none (some .strict) = .ok outcome ∧
      outcome.Tells "5" "add(2) -> 5") ∧
    ∃ outcome, runCommand "$\n" { coins := 3 } none (some .strict) = .ok outcome ∧
      outcome.Tells "Unexpected char '$' at 0"
        "Command '$\\n' failed with LEXER_UNKNOWN_CHARACTER: Unexpected char '$' at 0" := by
  have hread : parseText "add(2)" none (some .strict) = .ok (.call "add" [2]) :=
    parseText_format (by decide +kernel : (Instruction.call "add" [2]).WellFormed) .strict
  have hearned : runCommand "add(2)" { coins := 3 } none (some .strict) =
      .ok (.done "add(2)" (.call "add" [2]) (.integer 5) { coins := 5 }) := by
    rw [runCommand, hread]
    rfl
  have hshown : (Value.integer 5).text = .ok "5" := showInteger_of_isShort (by decide)
  have htypo : tokenize "$\n" = .error (.unknownCharacter 0 "$") :=
    congrArg Prod.fst (scan_unknown 0 (c := '$') rfl rfl rfl rfl)
  have hshort : ∀ coins ∈ [3, 5], ({ coins } : Root).IsShort := fun coins hcoins =>
    ⟨(by decide : ∀ n ∈ [3, 5], IsShort n) coins hcoins, isShort_zero⟩
  obtain ⟨earned, hearn, -, -, htold⟩ := runCommand_answers_on_one_line "add(2)" { coins := 3 }
    (Or.inl rfl : none = none ∨ some ParseMode.strict = none)
  obtain ⟨refused, hrefuse, -, -, htold'⟩ := runCommand_answers_on_one_line "$\n" { coins := 3 }
    (Or.inl rfl : none = none ∨ some ParseMode.strict = none)
  refine ⟨⟨earned, hearn, ?_⟩, refused, hrefuse, ?_⟩
  · obtain rfl := Except.ok.inj (hearned.symm.trans hearn)
    refine ((htold (hshort 3 (by decide))).mpr (hshort 5 (by decide))).tells hshown ?_
    rw [Outcome.done, hshown]
    rfl
  · obtain rfl := Except.ok.inj ((runCommand_of_lexError _ htypo).symm.trans hrefuse)
    exact ((htold' (hshort 3 (by decide))).mpr (hshort 3 (by decide))).tells rfl rfl

/-- A coin is added to a full purse: the coin is counted, but neither shown nor logged. -/
theorem not_isTold_full_purse :
    Console.fullPurse.IsShort ∧
      ∃ outcome, runCommand "add(1)" Console.fullPurse none (some .strict) = .ok outcome ∧
        outcome.root = { coins := (Nat.pow 10 maxShownDigits : Nat) } ∧
        outcome.result.render = .error .tooManyDigits ∧ outcome.record = none ∧
        ¬ outcome.IsTold := by
  obtain ⟨hshort, hlong⟩ := Console.isShort_fullPurse
  have hread : parseText "add(1)" none (some .strict) = .ok (.call "add" [1]) :=
    parseText_format (by decide +kernel : (Instruction.call "add" [1]).WellFormed) .strict
  have hvalue : (Value.integer (Console.fullPurse.coins + 1)).text = .error .tooManyDigits :=
    showInteger_of_not_isShort hlong
  have hrun : runCommand "add(1)" Console.fullPurse none (some .strict) =
      .ok (.done "add(1)" (.call "add" [1]) (.integer (Console.fullPurse.coins + 1))
        { coins := Console.fullPurse.coins + 1 }) := by
    rw [runCommand, hread]
    rfl
  have hsilent := Outcome.isSilent_done "add(1)" (.call "add" [1])
    { coins := Console.fullPurse.coins + 1 } hvalue
  exact ⟨hshort, _, hrun, congrArg (fun coins => Root.mk coins {}) Console.coins_fullPurse_add_one,
    hsilent.render, hsilent.record, hsilent.not_isTold⟩

end CoinConsole
