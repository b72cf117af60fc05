import CoinConsole.Proofs.Instruction.Reading

/-!
# Reading does not look at places

The grammar goes by the kinds, the texts and the values of tokens. Their spans are only handed on
into errors. So reading commutes with forgetting the spans (`Grammar.command_unplaced`), and tokens
that differ in their spans alone are read as the same instruction, or refused with errors that
differ in their spans alone (`parse_congr_of_unplaced`).
-/

namespace CoinConsole

/-! ## Without places -/

/-- The token with its span forgotten. -/
def Token.unplaced (token : Token) : Token := { token with span := .empty 0 }

/-- What was met, with its span forgotten. -/
def Found.unplaced : Found → Found
  | token t => .token t.unplaced
  | nothing _ => .nothing (.empty 0)

/-- The error with its span forgotten. -/
def ParseError.unplaced : ParseError → ParseError
  | missingToken _ => .missingToken (.empty 0)
  | unexpectedToken found => .unexpectedToken found.unplaced
  | expected kind found => .expected kind found.unplaced

/-- The terminal with its span forgotten. -/
def Leaf.unplaced {kind : TokenKind} (leaf : Leaf kind) : Leaf kind :=
  ⟨leaf.token.unplaced, leaf.kind_eq⟩

/-- The argument with its span forgotten. -/
def Argument.unplaced (a : Argument) : Argument :=
  ⟨a.token.unplaced, a.value, a.kind_eq, a.value_eq⟩

@[simp] theorem Leaf.token_unplaced {kind : TokenKind} (leaf : Leaf kind) :
    leaf.unplaced.token = leaf.token.unplaced := rfl

@[simp] theorem Argument.token_unplaced (a : Argument) :
    a.unplaced.token = a.token.unplaced := rfl

theorem Found.describe_unplaced (found : Found) : found.unplaced.describe = found.describe := by
  cases found <;> rfl

/-- The wording of an error does not mention its place. -/
theorem ParseError.message_unplaced (error : ParseError) :
    error.unplaced.message = error.message := by
  cases error with
  | missingToken span => rfl
  | unexpectedToken found =>
    exact congrArg (fun shown => s!"Unexpected token {shown}") found.describe_unplaced
  | expected kind found =>
    exact congrArg (fun shown => s!"Expected '{kind.display}' but got {shown}")
      found.describe_unplaced

/-- A token that is no argument is none without its place. -/
theorem Argument.token_ne_unplaced {token : Token} (h : ∀ a : Argument, a.token ≠ token)
    (a : Argument) : a.token ≠ token.unplaced := by
  intro ha
  have hkind : token.kind = .integer := (congrArg Token.kind ha).symm.trans a.kind_eq
  have hvalue : token.value = some a.value := (congrArg Token.value ha).symm.trans a.value_eq
  exact h ⟨token, a.value, hkind, hvalue⟩ rfl

namespace Grammar

/-- What a routine answers, and the tokens it leaves, with the spans forgotten. -/
def unplaced {α : Type} (outcome : Except ParseError α × List Token) :
    Except ParseError α × List Token :=
  (outcome.1.mapError ParseError.unplaced, outcome.2.map Token.unplaced)

theorem mapError_map {α β : Type} (f : α → β) (x : Except ParseError α) :
    (x.map f).mapError ParseError.unplaced = (x.mapError ParseError.unplaced).map f := by
  cases x <;> rfl

/-! ## The routines -/

theorem nextKind_unplaced (tokens : List Token) :
    nextKind (tokens.map Token.unplaced) = nextKind tokens := by
  cases tokens <;> rfl

theorem arguments_unplaced (tokens : List Token) :
    arguments (tokens.map Token.unplaced) = unplaced (arguments tokens) := by
  induction tokens using arguments_induction with
  | nothing =>
    rw [List.map_nil, arguments_nil]
    rfl
  | closing c rest =>
    rw [List.map_cons, ← c.token_unplaced, arguments_closing, arguments_closing]
    rfl
  | last a =>
    rw [List.map_singleton, ← a.token_unplaced, arguments_last, arguments_last]
    rfl
  | stop a next rest hcomma =>
    have hcomma' : next.unplaced.kind ≠ .comma := hcomma
    rw [List.map_cons, List.map_cons, ← a.token_unplaced, arguments_stop a hcomma,
      arguments_stop a.unplaced hcomma']
    rfl
  | more a comma rest ih =>
    rw [List.map_cons, List.map_cons, ← a.token_unplaced, ← comma.token_unplaced, arguments_more,
      arguments_more, ih]
    simp only [unplaced, mapError_map]
    rfl
  | refused token rest hclosing hargument =>
    have hclosing' : token.unplaced.kind ≠ .rightParen := hclosing
    rw [List.map_cons, arguments_refused hclosing hargument,
      arguments_refused hclosing' (Argument.token_ne_unplaced hargument)]
    rfl

theorem callOf_unplaced (name : String) (stop : Span) (tokens : List Token) :
    callOf name (.empty 0) (tokens.map Token.unplaced) = unplaced (callOf name stop tokens) := by
  rw [callOf, callOf, arguments_unplaced]
  obtain ⟨outcome, rest⟩ := arguments tokens
  cases outcome with
  | error e => rfl
  | ok values =>
    show ((expect .rightParen (.empty 0) (rest.map Token.unplaced)).1.map _, _) = _
    cases rest with
    | nil => rfl
    | cons token rest =>
      by_cases hkind : token.kind = .rightParen
      · have hkind' : token.unplaced.kind = .rightParen := hkind
        rw [List.map_cons, expect, if_pos hkind']
        simp only [expect, if_pos hkind]
        rfl
      · have hkind' : token.unplaced.kind ≠ .rightParen := hkind
        rw [List.map_cons, expect, if_neg hkind']
        simp only [expect, if_neg hkind]
        rfl

theorem instruction_unplaced (stop : Span) (tokens : List Token) :
    instruction (.empty 0) (tokens.map Token.unplaced) = unplaced (instruction stop tokens) := by
  induction tokens using instruction_induction with
  | nothing =>
    rw [List.map_nil, instruction, instruction, chain_nil, chain_nil]
    rfl
  | noName token rest hname =>
    have hname' : token.unplaced.kind ≠ .keyword := hname
    rw [List.map_cons, instruction, instruction, chain_noName _ _ hname, chain_noName _ _ hname']
    rfl
  | ended name rest hend =>
    rw [List.map_cons, ← name.token_unplaced, instruction, instruction, chain_ended _ _ name hend,
      chain_ended _ _ name.unplaced ((nextKind_unplaced rest).trans hend)]
    rfl
  | call name opening rest =>
    rw [List.map_cons, List.map_cons, ← name.token_unplaced, ← opening.token_unplaced,
      instruction_call, instruction_call, callOf_unplaced _ stop]
    rfl
  | member name dot rest ih =>
    rw [List.map_cons, List.map_cons, ← name.token_unplaced, ← dot.token_unplaced,
      instruction_member, instruction_member, ih]
    simp only [unplaced, mapError_map]
    rfl
  | unexpected name next rest hopening hdot hend =>
    have hopening' : next.unplaced.kind ≠ .leftParen := hopening
    rw [List.map_cons, List.map_cons, ← name.token_unplaced, instruction, instruction,
      chain_unexpected _ _ name hopening hdot hend,
      chain_unexpected _ _ name.unplaced hopening' hdot hend]
    rfl

theorem command_unplaced (options : ParserOptions) (stop : Span) (tokens : List Token) :
    command options (.empty 0) (tokens.map Token.unplaced) =
      unplaced (command options stop tokens) := by
  rw [command, command, instruction_unplaced stop]
  obtain ⟨outcome, rest⟩ := instruction stop tokens
  cases outcome with
  | error e => rfl
  | ok result =>
    show ((finish options (rest.map Token.unplaced)).map _, _) = _
    cases rest with
    | nil => rfl
    | cons token rest =>
      rw [List.map_cons, finish]
      simp only [finish]
      split <;> rfl

end Grammar

/-! ## Whole lists -/

/-- The failure with its span forgotten. -/
def ParseFailure.unplaced : ParseFailure → ParseFailure
  | options conflict => .options conflict
  | parse error => .parse error.unplaced

/-- Tokens that differ in their spans alone are read alike. -/
theorem parse_congr_of_unplaced {tokens others : List Token}
    (h : others.map Token.unplaced = tokens.map Token.unplaced) (options : Option ParserOptions)
    (mode : Option ParseMode) :
    (parse others options mode).mapError ParseFailure.unplaced =
      (parse tokens options mode).mapError ParseFailure.unplaced := by
  have hread : ∀ (list : List Token) (given : ParserOptions),
      (Grammar.command given (.empty 0) (list.map Token.unplaced)).1 =
        (Grammar.command given (endSpan list) list).1.mapError ParseError.unplaced :=
    fun list given => congrArg Prod.fst (Grammar.command_unplaced given (endSpan list) list)
  rw [parse, parse]
  cases ParserOptions.resolve options mode with
  | error conflict => rfl
  | ok given =>
    have hsame := (hread others given).symm.trans (h ▸ hread tokens given)
    dsimp only
    generalize (Grammar.command given (endSpan others) others).1 = x at hsame ⊢
    generalize (Grammar.command given (endSpan tokens) tokens).1 = y at hsame ⊢
    cases x with
    | ok result =>
      cases y with
      | ok result' => rw [Except.ok.inj hsame]
      | error e' => cases hsame
    | error e =>
      cases y with
      | ok result' => cases hsame
      | error e' =>
        exact congrArg (fun e => Except.error (ParseFailure.parse e)) (Except.error.inj hsame)

end CoinConsole
