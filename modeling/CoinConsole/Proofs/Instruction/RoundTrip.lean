import CoinConsole.Proofs.Instruction.Reading
import CoinConsole.Proofs.Text.Numerals
import CoinConsole.Proofs.Token.MaximalMunch

/-!
# Instructions written and read back

Lines and instructions stand for each other. What a line is read as is well-formed: its names are
names and its arguments fit in 64 bits (`wellFormed_of_parseText`). And a well-formed instruction
is read back from the line it is written as, in either mode (`parseText_format`). The way there
follows the two layers: written names, integers and marks are lexemes, and the tokens of these
lexemes are the sentence of a derivation of the instruction (`scan_format`).
-/

namespace CoinConsole

/-! ## Well-formed instructions -/

/-- Whether a text is a name: a letter and name characters behind it. -/
def isName (text : String) : Bool :=
  match text.toList with
  | [] => false
  | c :: cs => Text.isLetter c && cs.all Text.isNameChar

/-- Whether an integer fits in 64 bits. -/
def IsArgument (value : Int) : Prop := minInteger ≤ value ∧ value ≤ maxInteger

instance (value : Int) : Decidable (IsArgument value) :=
  inferInstanceAs (Decidable (minInteger ≤ value ∧ value ≤ maxInteger))

/-- The names are names, and the arguments fit in 64 bits. -/
structure Instruction.WellFormed (instruction : Instruction) : Prop where
  names : ∀ name ∈ instruction.names, isName name = true
  arguments : ∀ value ∈ instruction.arguments, IsArgument value

instance (instruction : Instruction) : Decidable instruction.WellFormed :=
  decidable_of_iff ((∀ name ∈ instruction.names, isName name = true) ∧
      ∀ value ∈ instruction.arguments, IsArgument value)
    ⟨fun h => ⟨h.1, h.2⟩, fun h => ⟨h.names, h.arguments⟩⟩

theorem isName_ofList_cons {c : Char} {cs : List Char} :
    isName (String.ofList (c :: cs)) = true ↔
      Text.isLetter c = true ∧ ∀ d ∈ cs, Text.isNameChar d = true := by
  rw [isName, String.toList_ofList, Bool.and_eq_true, List.all_eq_true]

/-! ## Lexemes of names and integers -/

theorem Lexeme.isName_of_keyword (lexeme : Lexeme) (h : lexeme.kind = .keyword) :
    isName (String.ofList lexeme.chars) = true := by
  obtain ⟨kind, chars, value, spelled⟩ := lexeme
  obtain rfl : kind = .keyword := h
  cases spelled with
  | name head tail => exact isName_ofList_cons.mpr ⟨head, tail⟩
  | mark mark => exact absurd mark (by simp [TokenKind.mark?])

theorem Lexeme.isArgument_of_value (lexeme : Lexeme) {value : Int}
    (h : lexeme.value = some value) : IsArgument value := by
  obtain ⟨kind, chars, value', spelled⟩ := lexeme
  obtain rfl : value' = some value := h
  cases spelled with
  | number run numeral least greatest => exact ⟨least, greatest⟩

theorem spelled_of_isName {name : String} (h : isName name = true) :
    Spelled .keyword name.toList none := by
  rw [isName] at h
  split at h
  · exact absurd h Bool.false_ne_true
  · next c cs hname =>
    obtain ⟨head, tail⟩ := Bool.and_eq_true_iff.mp h
    rw [hname]
    exact .name head (List.all_eq_true.mp tail)

theorem numberRun_toDigits (n : Nat) {sign : List Char} (h : sign = [] ∨ sign = ['-']) :
    NumberRun (sign ++ Nat.toDigits 10 n) := by
  have hdigits : ∀ c ∈ Nat.toDigits 10 n, c.isDigit = true := fun _ =>
    Text.isDigit_of_mem_toDigits_ten
  obtain ⟨d, ds, hds⟩ := List.exists_cons_of_ne_nil (Nat.toDigits_ne_nil (n := n))
  rw [hds] at hdigits ⊢
  refine .mk sign d ds h (hdigits d List.mem_cons_self) fun c hc => ?_
  rw [isNumberChar, hdigits c (List.mem_cons_of_mem d hc), Bool.true_or]

/-- Integers of 64 bits are written with few enough digits to be read back. -/
theorem spelled_of_isArgument {value : Int} (h : IsArgument value) :
    Spelled .integer (toString value).toList (some value) := by
  have hsize : value.natAbs < 10 ^ Text.maxNumeralDigits := by
    have hlarge : 10 ^ 19 ≤ 10 ^ Text.maxNumeralDigits :=
      Nat.pow_le_pow_right (by decide) (by decide)
    obtain ⟨hleast, hgreatest⟩ := h
    rw [minInteger] at hleast
    rw [maxInteger] at hgreatest
    omega
  have hdigits := (Nat.length_toDigits_le_iff (by decide) (by decide)).mpr hsize
  refine .number ?_ ?_ h.1 h.2
  · rw [Text.toList_toString]
    split
    · exact numberRun_toDigits value.natAbs (Or.inl rfl)
    · exact numberRun_toDigits value.natAbs (Or.inr rfl)
  · rw [String.ofList_toList]
    exact Text.readInteger_toString hdigits

/-! ## What a line is read as -/

theorem exists_lexeme_of_tokenize {text : String} {tokens : List Token} {token : Token}
    (h : tokenize text = .ok tokens) (hmem : token ∈ tokens) :
    ∃ (lexeme : Lexeme) (start : Nat), lexeme.token start = token := by
  obtain ⟨cut, hmunch, -, rfl⟩ := exists_cut_of_tokenize h
  obtain ⟨front, lexeme, rest, -, -, -, rfl⟩ :=
    (Cut.reaches_nil_iff.mpr hmunch).exists_front_of_mem_tokens hmem
  exact ⟨lexeme, _, rfl⟩

/-- The instruction of a sentence is well-formed if the tokens are read from lexemes. -/
theorem Derivation.wellFormed_instruction {d : Derivation}
    (h : ∀ token ∈ d.yield, ∃ (lexeme : Lexeme) (start : Nat), lexeme.token start = token) :
    d.instruction.WellFormed := by
  constructor
  · intro name hname
    rw [d.names_instruction, nameTexts, List.mem_map] at hname
    obtain ⟨token, htoken, rfl⟩ := hname
    obtain ⟨hmem, hkind⟩ := List.mem_filter.mp htoken
    obtain ⟨lexeme, start, rfl⟩ := h token hmem
    exact lexeme.isName_of_keyword (of_decide_eq_true hkind)
  · intro value hvalue
    have hsome := List.mem_map_of_mem (f := some) hvalue
    rw [d.arguments_instruction, integerValues, List.mem_map] at hsome
    obtain ⟨token, htoken, htokenValue⟩ := hsome
    obtain ⟨lexeme, start, rfl⟩ := h token (List.mem_filter.mp htoken).1
    exact lexeme.isArgument_of_value htokenValue

theorem Grammar.exists_derivation_of_command_ok {options : ParserOptions} {stop : Span}
    {tokens : List Token} {result : Instruction}
    (h : (command options stop tokens).1 = .ok result) :
    ∃ (d : Derivation) (rest : List Token), tokens = d.yield ++ rest ∧ d.instruction = result := by
  rw [command] at h
  split at h
  · exact absurd h (by simp)
  · next read rest hread =>
    obtain ⟨_, -, rfl⟩ := map_eq_ok_iff.mp h
    obtain ⟨d, htokens, hresult, -⟩ := exists_derivation_of_ok hread
    exact ⟨d, rest, htokens, hresult⟩

theorem exists_derivation_of_parse {tokens : List Token} {options : Option ParserOptions}
    {mode : Option ParseMode} {result : Instruction}
    (h : parse tokens options mode = .ok result) :
    ∃ (d : Derivation) (rest : List Token), tokens = d.yield ++ rest ∧ d.instruction = result := by
  rw [parse] at h
  split at h
  · exact absurd h (by simp)
  · split at h
    · exact absurd h (by simp)
    · next instruction hcommand =>
      obtain rfl := Except.ok.inj h
      exact Grammar.exists_derivation_of_command_ok hcommand

/-- A line is read as an instruction if its tokens are. -/
theorem parseText_eq_ok_iff {text : String} {options : Option ParserOptions}
    {mode : Option ParseMode} {result : Instruction} :
    parseText text options mode = .ok result ↔
      ∃ tokens, tokenize text = .ok tokens ∧ parse tokens options mode = .ok result := by
  rw [parseText]
  cases tokenize text with
  | error e => simp
  | ok tokens =>
    simp only [Except.ok.injEq, exists_eq_left']
    cases hparse : parse tokens options mode with
    | error failure => cases failure <;> simp
    | ok instruction => simp

theorem wellFormed_of_parseText {text : String} {options : Option ParserOptions}
    {mode : Option ParseMode} {result : Instruction}
    (h : parseText text options mode = .ok result) : result.WellFormed := by
  obtain ⟨tokens, htokens, hparse⟩ := parseText_eq_ok_iff.mp h
  obtain ⟨d, rest, rfl, rfl⟩ := exists_derivation_of_parse hparse
  refine Derivation.wellFormed_instruction fun token htoken => ?_
  exact exists_lexeme_of_tokenize htokens (List.mem_append_left rest htoken)

/-! ## How an instruction is written -/

namespace Instruction

/-- The arguments, as a command line writes them. -/
def argumentsText (arguments : List Int) : List Char :=
  (", ".intercalate (arguments.map toString)).toList

theorem argumentsText_single (value : Int) : argumentsText [value] = (toString value).toList := by
  rw [argumentsText, List.map_singleton, String.intercalate_singleton]

theorem argumentsText_cons_cons (value next : Int) (rest : List Int) :
    argumentsText (value :: next :: rest) =
      (toString value).toList ++ ',' :: ' ' :: argumentsText (next :: rest) := by
  rw [argumentsText, List.map_cons, List.map_cons, String.intercalate_cons_cons,
    String.toList_append, String.toList_append, List.append_assoc]
  rfl

theorem toList_format_property (name : String) : (property name).format.toList = name.toList := by
  rw [format, segments, String.intercalate_singleton]

theorem toList_format_call (name : String) (arguments : List Int) :
    (call name arguments).format.toList =
      name.toList ++ '(' :: (argumentsText arguments ++ [')']) := by
  rw [format, segments, String.intercalate_singleton]
  simp only [String.toList_append, List.append_assoc]
  rfl

theorem segments_ne_nil (instruction : Instruction) : instruction.segments ≠ [] := by
  cases instruction <;> exact List.cons_ne_nil _ _

theorem toList_format_member (name : String) (rest : Instruction) :
    (member name rest).format.toList = name.toList ++ '.' :: rest.format.toList := by
  rw [format, segments, String.intercalate_cons_of_ne_nil rest.segments_ne_nil,
    String.toList_append, String.toList_append, List.append_assoc]
  rfl

end Instruction

/-! ## Reading what is written -/

theorem scan_lexeme_ok {position : Nat} (lexeme : Lexeme) {rest : List Char}
    {tokens : List Token} (maximal : lexeme.IsMaximal rest)
    (h : (scan (position + lexeme.chars.length) rest).1 = .ok tokens) :
    (scan position (lexeme.chars ++ rest)).1 = .ok (lexeme.token position :: tokens) := by
  rw [scan_lexeme position lexeme maximal]
  exact map_eq_ok_iff.mpr ⟨tokens, h, rfl⟩

/-- A name that no name character follows is a token with its text. -/
theorem scan_written_name {name : String} (hname : isName name = true) {rest : List Char}
    (stops : StopsAt Text.isNameChar rest) (position : Nat) :
    ∃ leaf : Leaf .keyword, leaf.token.text = name ∧
      ∀ {tokens}, (scan (position + name.toList.length) rest).1 = .ok tokens →
        (scan position (name.toList ++ rest)).1 = .ok (leaf.token :: tokens) := by
  let lexeme : Lexeme := ⟨.keyword, name.toList, none, spelled_of_isName hname⟩
  refine ⟨⟨lexeme.token position, rfl⟩, String.ofList_toList, fun h => ?_⟩
  exact scan_lexeme_ok lexeme stops h

/-- An integer that neither a digit nor an underscore follows is a token with its value. -/
theorem scan_written_integer {value : Int} (hvalue : IsArgument value) {rest : List Char}
    (stops : StopsAt isNumberChar rest) (position : Nat) :
    ∃ argument : Argument, argument.value = value ∧
      ∀ {tokens}, (scan (position + (toString value).toList.length) rest).1 = .ok tokens →
        (scan position ((toString value).toList ++ rest)).1 = .ok (argument.token :: tokens) := by
  let lexeme : Lexeme :=
    ⟨.integer, (toString value).toList, some value, spelled_of_isArgument hvalue⟩
  refine ⟨⟨lexeme.token position, value, rfl, rfl⟩, rfl, fun h => ?_⟩
  exact scan_lexeme_ok lexeme stops h

theorem scan_written_mark (kind : TokenKind) {c : Char} (mark : kind.mark? = some c)
    (rest : List Char) (position : Nat) :
    ∃ leaf : Leaf kind, ∀ {tokens}, (scan (position + 1) rest).1 = .ok tokens →
      (scan position (c :: rest)).1 = .ok (leaf.token :: tokens) := by
  let lexeme : Lexeme := ⟨kind, [c], none, .mark mark⟩
  have maximal : lexeme.IsMaximal rest := fun _ _ => growsBy_of_mark? mark
  exact ⟨⟨lexeme.token position, rfl⟩, fun h => scan_lexeme_ok lexeme maximal h⟩

theorem scan_closingBracket (position : Nat) :
    ∃ closing : Leaf .rightParen, (scan position [')']).1 = .ok [closing.token] := by
  obtain ⟨closing, hclosing⟩ := scan_written_mark .rightParen rfl [] position
  exact ⟨closing, hclosing (by rw [scan_nil])⟩

/-- Written arguments and their closing bracket are read as a list of these arguments. -/
theorem scan_argumentsText {arguments : List Int} (h : ∀ value ∈ arguments, IsArgument value)
    (position : Nat) :
    ∃ (list : Arguments) (closing : Leaf .rightParen), list.values = arguments ∧
      (scan position (Instruction.argumentsText arguments ++ [')'])).1 =
        .ok (list.yield ++ [closing.token]) := by
  induction arguments generalizing position with
  | nil =>
    obtain ⟨closing, hclosing⟩ := scan_closingBracket position
    exact ⟨none, closing, rfl, hclosing⟩
  | cons value rest ih =>
    have hvalue := h value List.mem_cons_self
    cases rest with
    | nil =>
      have hstops : StopsAt isNumberChar [')'] := stopsAt_cons (by decide)
      obtain ⟨argument, rfl, hargument⟩ := scan_written_integer hvalue hstops position
      obtain ⟨closing, hclosing⟩ :=
        scan_closingBracket (position + (toString argument.value).toList.length)
      refine ⟨.single argument, closing, rfl, ?_⟩
      rw [Instruction.argumentsText_single]
      exact hargument hclosing
    | cons next rest =>
      have hrest : ∀ value ∈ next :: rest, IsArgument value := fun v hv =>
        h v (List.mem_cons_of_mem value hv)
      have hstops : StopsAt isNumberChar
          (',' :: ' ' :: (Instruction.argumentsText (next :: rest) ++ [')'])) :=
        stopsAt_cons (by decide)
      obtain ⟨argument, rfl, hargument⟩ := scan_written_integer hvalue hstops position
      obtain ⟨comma, hcomma⟩ := scan_written_mark .comma rfl
        (' ' :: (Instruction.argumentsText (next :: rest) ++ [')']))
        (position + (toString argument.value).toList.length)
      obtain ⟨list, closing, hvalues, hscan⟩ :=
        ih hrest (position + (toString argument.value).toList.length + 1 + 1)
      refine ⟨list.push argument comma, closing, ?_, ?_⟩
      · rw [Arguments.values_push, hvalues]
      · rw [Instruction.argumentsText_cons_cons, List.append_assoc, List.cons_append,
          List.cons_append, Arguments.yield_push, List.cons_append, List.cons_append]
        refine hargument (hcomma ?_)
        -- the blank behind the comma is dropped
        rwa [scan_of_isBlank _ (by decide)]

/-- What is written for a well-formed instruction is read as the sentence of a derivation of it. -/
theorem scan_format {instruction : Instruction} (h : instruction.WellFormed) (position : Nat) :
    ∃ d : Derivation, d.instruction = instruction ∧
      (scan position instruction.format.toList).1 = .ok d.yield := by
  induction instruction generalizing position with
  | property name =>
    have hname := h.names name List.mem_cons_self
    obtain ⟨leaf, rfl, hleaf⟩ := scan_written_name hname (stopsAt_nil _) position
    refine ⟨.property leaf, rfl, ?_⟩
    rw [Instruction.toList_format_property, ← List.append_nil leaf.token.text.toList]
    exact hleaf (by rw [scan_nil])
  | call name arguments =>
    have hname := h.names name List.mem_cons_self
    have hstops : StopsAt Text.isNameChar ('(' :: (Instruction.argumentsText arguments ++ [')'])) :=
      stopsAt_cons (by decide)
    obtain ⟨leaf, rfl, hleaf⟩ := scan_written_name hname hstops position
    obtain ⟨opening, hopening⟩ := scan_written_mark .leftParen rfl
      (Instruction.argumentsText arguments ++ [')']) (position + leaf.token.text.toList.length)
    obtain ⟨list, closing, rfl, hlist⟩ :=
      scan_argumentsText h.arguments (position + leaf.token.text.toList.length + 1)
    refine ⟨.call leaf opening list closing, rfl, ?_⟩
    rw [Instruction.toList_format_call]
    exact hleaf (hopening hlist)
  | member name rest ih =>
    have hname := h.names name List.mem_cons_self
    have hrest : rest.WellFormed :=
      ⟨fun name hmem => h.names name (List.mem_cons_of_mem _ hmem), h.arguments⟩
    have hstops : StopsAt Text.isNameChar ('.' :: rest.format.toList) := stopsAt_cons (by decide)
    obtain ⟨leaf, rfl, hleaf⟩ := scan_written_name hname hstops position
    obtain ⟨dot, hdot⟩ := scan_written_mark .dot rfl rest.format.toList
      (position + leaf.token.text.toList.length)
    obtain ⟨d, rfl, hd⟩ := ih hrest (position + leaf.token.text.toList.length + 1)
    refine ⟨.member leaf dot d, rfl, ?_⟩
    rw [Instruction.toList_format_member]
    exact hleaf (hdot hd)

/-- A well-formed instruction is read back in either mode. -/
theorem parseText_format {instruction : Instruction} (h : instruction.WellFormed)
    (mode : ParseMode) : parseText instruction.format none (some mode) = .ok instruction := by
  obtain ⟨d, rfl, hscan⟩ := scan_format h 0
  refine parseText_eq_ok_iff.mpr ⟨d.yield, hscan, ?_⟩
  simp only [parse, ParserOptions.resolve, Grammar.command_yield]

/-! ## Main result -/

/-- What a line is read as is well-formed, and a well-formed instruction is what the line it is
written as is read as, in either mode. So different well-formed instructions are written
differently, and the instructions that lines are read as are the well-formed ones. -/
theorem parseText_format_inverse :
    (∀ text options mode instruction, parseText text options mode = .ok instruction →
      instruction.WellFormed) ∧
    (∀ instruction : Instruction, instruction.WellFormed →
      ∀ mode, parseText instruction.format none (some mode) = .ok instruction) ∧
    (∀ instruction other : Instruction, instruction.WellFormed → other.WellFormed →
      instruction.format = other.format → instruction = other) ∧
    (∀ mode instruction, (∃ text, parseText text none (some mode) = .ok instruction) ↔
      instruction.WellFormed) := by
  refine ⟨fun text options mode instruction h => wellFormed_of_parseText h,
    fun instruction h mode => parseText_format h mode, fun instruction other h hother heq => ?_,
    fun mode instruction => ⟨?_, fun h => ⟨_, parseText_format h mode⟩⟩⟩
  · have hread := parseText_format h .strict
    rw [heq] at hread
    exact Except.ok.inj (hread.symm.trans (parseText_format hother .strict))
  · rintro ⟨text, htext⟩
    exact wellFormed_of_parseText htext

/-- A chain that ends in a call with a negative argument. -/
theorem parseText_format_member_call :
    let instruction := Instruction.member "a" (.call "f" [1, -2])
    instruction.WellFormed ∧ instruction.format = "a.f(1, -2)" ∧
      (∀ mode, parseText "a.f(1, -2)" none (some mode) = .ok instruction) ∧
      ∀ other : Instruction, other.WellFormed → other.format = "a.f(1, -2)" →
        other = instruction := by
  intro instruction
  have hformed : instruction.WellFormed := by decide +kernel
  have hformat : instruction.format = "a.f(1, -2)" := rfl
  obtain ⟨-, hread, hinjective, -⟩ := parseText_format_inverse
  refine ⟨hformed, hformat, fun mode => ?_, fun other hother heq => ?_⟩
  · exact hformat ▸ hread instruction hformed mode
  · exact hinjective other instruction hother hformed (heq.trans hformat.symm)

end CoinConsole
