import CoinConsole.Instruction.Grammar
import CoinConsole.Proofs.Instruction.Derivation
import CoinConsole.Proofs.Outcome

/-!
# The grammar routines read derivations

Each routine that reads tokens gets one equation for each way the tokens can start, over the same
terminals that derivations are made of. From these equations it follows which instruction is read
from which tokens: an instruction is read from the front of the tokens if and only if they start
with its sentence and the sentence ends there (`Grammar.instruction_eq_ok_iff`). A strict reader,
who wants the sentence to be all there is, reads sentences (`parse_strict_eq_ok_iff`) and refuses
all other lists of tokens (`parse_strict_eq_error_iff`).
-/

namespace CoinConsole

namespace Grammar

/-! ## Arguments -/

/-- How tokens start where an argument or the end of the list is due. -/
inductive ArgumentsFront : List Token → Prop
  | nothing : ArgumentsFront []
  | closing (closing : Leaf .rightParen) (rest : List Token) :
      ArgumentsFront (closing.token :: rest)
  | last (a : Argument) : ArgumentsFront [a.token]
  | stop (a : Argument) (next : Token) (rest : List Token) (noComma : next.kind ≠ .comma) :
      ArgumentsFront (a.token :: next :: rest)
  | more (a : Argument) (comma : Leaf .comma) (rest : List Token) :
      ArgumentsFront (a.token :: comma.token :: rest)
  | refused (token : Token) (rest : List Token) (noClosing : token.kind ≠ .rightParen)
      (noArgument : ∀ a : Argument, a.token ≠ token) : ArgumentsFront (token :: rest)

theorem argumentsFront (tokens : List Token) : ArgumentsFront tokens := by
  cases tokens with
  | nil => exact .nothing
  | cons token rest =>
    by_cases hclosing : token.kind = .rightParen
    · exact .closing ⟨token, hclosing⟩ rest
    by_cases hargument : ∃ a : Argument, a.token = token
    · obtain ⟨a, rfl⟩ := hargument
      cases rest with
      | nil => exact .last a
      | cons next rest =>
        by_cases hcomma : next.kind = .comma
        · exact .more a ⟨next, hcomma⟩ rest
        · exact .stop a next rest hcomma
    · exact .refused token rest hclosing fun a ha => hargument ⟨a, ha⟩

/-- Induction over tokens by how they start as a list of arguments. -/
theorem arguments_induction {motive : List Token → Prop} (nothing : motive [])
    (closing : ∀ (closing : Leaf .rightParen) rest, motive (closing.token :: rest))
    (last : ∀ a : Argument, motive [a.token])
    (stop : ∀ (a : Argument) (next : Token) rest, next.kind ≠ .comma →
      motive (a.token :: next :: rest))
    (more : ∀ (a : Argument) (comma : Leaf .comma) rest, motive rest →
      motive (a.token :: comma.token :: rest))
    (refused : ∀ (token : Token) rest, token.kind ≠ .rightParen →
      (∀ a : Argument, a.token ≠ token) → motive (token :: rest))
    (tokens : List Token) : motive tokens := by
  induction h : tokens.length using Nat.strongRecOn generalizing tokens with
  | _ n ih =>
    subst h
    cases argumentsFront tokens with
    | nothing => exact nothing
    | closing c rest => exact closing c rest
    | last a => exact last a
    | stop a next rest hcomma => exact stop a next rest hcomma
    | more a comma rest =>
      have hshorter : rest.length < rest.length + 1 + 1 := by omega
      exact more a comma rest (ih rest.length hshorter rest rfl)
    | refused token rest hclosing hargument => exact refused token rest hclosing hargument

theorem arguments_nil : arguments [] = (.ok [], []) := by
  rw [arguments]

theorem arguments_closing (closing : Leaf .rightParen) (rest : List Token) :
    arguments (closing.token :: rest) = (.ok [], closing.token :: rest) := by
  rw [arguments, if_pos closing.kind_eq]

theorem arguments_last (a : Argument) : arguments [a.token] = (.ok [a.value], []) := by
  rw [arguments]
  simp only [a.kind_eq, a.value_eq]
  rfl

theorem arguments_stop (a : Argument) {next : Token} {rest : List Token}
    (noComma : next.kind ≠ .comma) :
    arguments (a.token :: next :: rest) = (.ok [a.value], next :: rest) := by
  rw [arguments]
  simp only [a.kind_eq, a.value_eq, if_neg noComma]
  rfl

theorem arguments_more (a : Argument) (comma : Leaf .comma) (rest : List Token) :
    arguments (a.token :: comma.token :: rest) =
      ((arguments rest).1.map (a.value :: ·), (arguments rest).2) := by
  rw [arguments]
  simp only [a.kind_eq, a.value_eq, comma.kind_eq]
  rfl

theorem arguments_refused {token : Token} {rest : List Token}
    (noClosing : token.kind ≠ .rightParen) (noArgument : ∀ a : Argument, a.token ≠ token) :
    arguments (token :: rest) = (.error (.unexpectedToken (.token token)), rest) := by
  rw [arguments, if_neg noClosing]
  split
  · next value hkind hvalue => exact absurd rfl (noArgument ⟨token, value, hkind, hvalue⟩)
  · rfl

/-- In front of a closing bracket, all of a list of arguments is read. -/
theorem arguments_yield (list : Arguments) (closing : Leaf .rightParen) (rest : List Token) :
    arguments (list.yield ++ closing.token :: rest) =
      (.ok list.values, closing.token :: rest) := by
  induction list using Arguments.induction with
  | none => exact arguments_closing closing rest
  | single a =>
    have hcomma : closing.token.kind ≠ .comma := by simp [closing.kind_eq]
    exact arguments_stop a hcomma
  | push a comma list ih =>
    rw [Arguments.yield_push, List.cons_append, List.cons_append, arguments_more, ih]
    rw [Arguments.values_push, Except.map]

/-- What is read as arguments is a list of arguments. -/
theorem exists_arguments_of_ok {tokens rest : List Token} {values : List Int}
    (h : arguments tokens = (.ok values, rest)) :
    ∃ list : Arguments, tokens = list.yield ++ rest ∧ list.values = values := by
  induction tokens using arguments_induction generalizing values rest with
  | nothing =>
    rw [arguments_nil, Prod.mk.injEq, Except.ok.injEq] at h
    obtain ⟨rfl, rfl⟩ := h
    exact ⟨none, rfl, rfl⟩
  | closing c tail =>
    rw [arguments_closing, Prod.mk.injEq, Except.ok.injEq] at h
    obtain ⟨rfl, rfl⟩ := h
    exact ⟨none, rfl, rfl⟩
  | last a =>
    rw [arguments_last, Prod.mk.injEq, Except.ok.injEq] at h
    obtain ⟨rfl, rfl⟩ := h
    exact ⟨.single a, rfl, rfl⟩
  | stop a next tail hcomma =>
    rw [arguments_stop a hcomma, Prod.mk.injEq, Except.ok.injEq] at h
    obtain ⟨rfl, rfl⟩ := h
    exact ⟨.single a, rfl, rfl⟩
  | more a comma tail ih =>
    rw [arguments_more, Prod.mk.injEq, map_eq_ok_iff] at h
    obtain ⟨⟨values, hvalues, rfl⟩, rfl⟩ := h
    obtain ⟨list, htail, rfl⟩ := ih (Prod.ext hvalues rfl)
    refine ⟨list.push a comma, ?_, Arguments.values_push a comma list⟩
    rw [Arguments.yield_push, List.cons_append, List.cons_append, ← htail]
  | refused token tail hclosing hargument =>
    rw [arguments_refused hclosing hargument] at h
    exact absurd h (by simp)

/-! ## Calls -/

theorem expect_leaf {kind : TokenKind} (stop : Span) (leaf : Leaf kind) (rest : List Token) :
    expect kind stop (leaf.token :: rest) = (.ok leaf.token, rest) := by
  rw [expect, if_pos leaf.kind_eq]

theorem exists_leaf_of_expect {kind : TokenKind} {stop : Span} {tokens rest : List Token}
    {token : Token} (h : expect kind stop tokens = (.ok token, rest)) :
    ∃ leaf : Leaf kind, tokens = leaf.token :: rest := by
  cases tokens with
  | nil => exact absurd h (by simp [expect])
  | cons first tail =>
    rw [expect] at h
    by_cases hkind : first.kind = kind
    · rw [if_pos hkind, Prod.mk.injEq] at h
      exact ⟨⟨first, hkind⟩, by rw [h.2]⟩
    · rw [if_neg hkind] at h
      exact absurd h (by simp)

/-- A call is read from exactly a list of arguments and a closing bracket. -/
theorem callOf_eq_ok_iff {name : String} {stop : Span} {tokens rest : List Token}
    {instruction : Instruction} :
    callOf name stop tokens = (.ok instruction, rest) ↔
      ∃ (list : Arguments) (closing : Leaf .rightParen),
        tokens = list.yield ++ closing.token :: rest ∧ .call name list.values = instruction := by
  constructor
  · intro h
    rw [callOf] at h
    split at h
    · exact absurd h (by simp)
    · next values tail harguments =>
      rw [Prod.mk.injEq, map_eq_ok_iff] at h
      obtain ⟨⟨token, htoken, rfl⟩, hrest⟩ := h
      obtain ⟨list, rfl, rfl⟩ := exists_arguments_of_ok harguments
      obtain ⟨closing, rfl⟩ := exists_leaf_of_expect (Prod.ext htoken hrest)
      exact ⟨list, closing, rfl, rfl⟩
  · rintro ⟨list, closing, rfl, rfl⟩
    rw [callOf, arguments_yield]
    simp only [expect_leaf]
    rfl

/-! ## Instructions -/

/-- How tokens start where an instruction is due. -/
inductive InstructionFront : List Token → Prop
  | nothing : InstructionFront []
  | noName (token : Token) (rest : List Token) (noName : token.kind ≠ .keyword) :
      InstructionFront (token :: rest)
  | ended (name : Leaf .keyword) (rest : List Token) (ended : nextKind rest = .endOfInput) :
      InstructionFront (name.token :: rest)
  | call (name : Leaf .keyword) (opening : Leaf .leftParen) (rest : List Token) :
      InstructionFront (name.token :: opening.token :: rest)
  | member (name : Leaf .keyword) (dot : Leaf .dot) (rest : List Token) :
      InstructionFront (name.token :: dot.token :: rest)
  | unexpected (name : Leaf .keyword) (next : Token) (rest : List Token)
      (noOpening : next.kind ≠ .leftParen) (noDot : next.kind ≠ .dot)
      (noEnd : next.kind ≠ .endOfInput) : InstructionFront (name.token :: next :: rest)

theorem instructionFront (tokens : List Token) : InstructionFront tokens := by
  cases tokens with
  | nil => exact .nothing
  | cons token rest =>
    by_cases hname : token.kind = .keyword
    · cases rest with
      | nil => exact .ended ⟨token, hname⟩ [] rfl
      | cons next rest =>
        by_cases hopening : next.kind = .leftParen
        · exact .call ⟨token, hname⟩ ⟨next, hopening⟩ rest
        by_cases hdot : next.kind = .dot
        · exact .member ⟨token, hname⟩ ⟨next, hdot⟩ rest
        by_cases hend : next.kind = .endOfInput
        · exact .ended ⟨token, hname⟩ (next :: rest) hend
        · exact .unexpected ⟨token, hname⟩ next rest hopening hdot hend
    · exact .noName token rest hname

/-- Induction over tokens by how they start as an instruction. -/
theorem instruction_induction {motive : List Token → Prop} (nothing : motive [])
    (noName : ∀ (token : Token) rest, token.kind ≠ .keyword → motive (token :: rest))
    (ended : ∀ (name : Leaf .keyword) rest, nextKind rest = .endOfInput →
      motive (name.token :: rest))
    (call : ∀ (name : Leaf .keyword) (opening : Leaf .leftParen) rest,
      motive (name.token :: opening.token :: rest))
    (member : ∀ (name : Leaf .keyword) (dot : Leaf .dot) rest, motive rest →
      motive (name.token :: dot.token :: rest))
    (unexpected : ∀ (name : Leaf .keyword) (next : Token) rest, next.kind ≠ .leftParen →
      next.kind ≠ .dot → next.kind ≠ .endOfInput → motive (name.token :: next :: rest))
    (tokens : List Token) : motive tokens := by
  induction h : tokens.length using Nat.strongRecOn generalizing tokens with
  | _ n ih =>
    subst h
    cases instructionFront tokens with
    | nothing => exact nothing
    | noName token rest hname => exact noName token rest hname
    | ended name rest hend => exact ended name rest hend
    | call name opening rest => exact call name opening rest
    | member name dot rest =>
      have hshorter : rest.length < rest.length + 1 + 1 := by omega
      exact member name dot rest (ih rest.length hshorter rest rfl)
    | unexpected name next rest hopening hdot hend =>
      exact unexpected name next rest hopening hdot hend

section Chain

variable (stop : Span) (names : List String)

theorem chain_nil : chain stop names [] = (.error (.missingToken stop), []) := by
  rw [chain]

theorem chain_noName {token : Token} {rest : List Token} (noName : token.kind ≠ .keyword) :
    chain stop names (token :: rest) = (.error (.unexpectedToken (.token token)), rest) := by
  rw [chain.eq_def]
  simp only [if_pos noName]

theorem chain_ended (name : Leaf .keyword) {rest : List Token}
    (ended : nextKind rest = .endOfInput) :
    chain stop names (name.token :: rest) =
      (.ok (Instruction.within names (.property name.token.text)), rest) := by
  rw [chain.eq_def]
  cases rest with
  | nil => simp [name.kind_eq]
  | cons next rest =>
    have hnext : next.kind = .endOfInput := ended
    simp [name.kind_eq, hnext]

theorem chain_call (name : Leaf .keyword) (opening : Leaf .leftParen) (rest : List Token) :
    chain stop names (name.token :: opening.token :: rest) =
      ((callOf name.token.text stop rest).1.map (Instruction.within names),
        (callOf name.token.text stop rest).2) := by
  rw [chain.eq_def]
  simp [name.kind_eq, opening.kind_eq]

theorem chain_member (name : Leaf .keyword) (dot : Leaf .dot) (rest : List Token) :
    chain stop names (name.token :: dot.token :: rest) =
      chain stop (name.token.text :: names) rest := by
  rw [chain.eq_def]
  simp [name.kind_eq, dot.kind_eq]

theorem chain_unexpected (name : Leaf .keyword) {next : Token} {rest : List Token}
    (noOpening : next.kind ≠ .leftParen) (noDot : next.kind ≠ .dot)
    (noEnd : next.kind ≠ .endOfInput) :
    chain stop names (name.token :: next :: rest) =
      (.error (.unexpectedToken (.token next)), next :: rest) := by
  rw [chain.eq_def]
  simp only [name.kind_eq]
  split <;> simp_all

/-- The names in front of a chain are put around whatever the chain reads. -/
theorem chain_eq_map (tokens : List Token) :
    chain stop names tokens =
      ((instruction stop tokens).1.map (Instruction.within names),
        (instruction stop tokens).2) := by
  induction tokens using instruction_induction generalizing names with
  | nothing => rw [instruction, chain_nil, chain_nil]; rfl
  | noName token rest hname =>
    rw [instruction, chain_noName _ _ hname, chain_noName _ _ hname]
    rfl
  | ended name rest hend =>
    rw [instruction, chain_ended _ _ name hend, chain_ended _ _ name hend]
    rfl
  | call name opening rest =>
    rw [instruction, chain_call, chain_call, map_map]
    rfl
  | member name dot rest ih =>
    rw [instruction, chain_member, chain_member, ih, ih, map_map]
    rfl
  | unexpected name next rest hopening hdot hend =>
    rw [instruction, chain_unexpected _ _ name hopening hdot hend,
      chain_unexpected _ _ name hopening hdot hend]
    rfl

theorem instruction_call (name : Leaf .keyword) (opening : Leaf .leftParen) (rest : List Token) :
    instruction stop (name.token :: opening.token :: rest) = callOf name.token.text stop rest := by
  rw [instruction, chain_call]
  exact Prod.ext (congrFun Except.map_id _) rfl

theorem instruction_member (name : Leaf .keyword) (dot : Leaf .dot) (rest : List Token) :
    instruction stop (name.token :: dot.token :: rest) =
      ((instruction stop rest).1.map (Instruction.member name.token.text),
        (instruction stop rest).2) := by
  rw [instruction, chain_member, chain_eq_map]
  rfl

end Chain

end Grammar

/-- The sentence ends in front of `rest`: after a name that is the case only at the end of the
line, and at a token that stands for it. -/
def Derivation.StopsBefore : Derivation → List Token → Prop
  | property _, rest => Grammar.nextKind rest = .endOfInput
  | call _ _ _ _, _ => True
  | member _ _ inner, rest => inner.StopsBefore rest

theorem Derivation.stopsBefore_nil (d : Derivation) : d.StopsBefore [] := by
  induction d with
  | property name => rfl
  | call name opening list closing => trivial
  | member name dot inner ih => exact ih

namespace Grammar

/-- A sentence that ends in front of `rest` is read, and `rest` is left. -/
theorem instruction_yield (stop : Span) {d : Derivation} {rest : List Token}
    (h : d.StopsBefore rest) :
    instruction stop (d.yield ++ rest) = (.ok d.instruction, rest) := by
  induction d with
  | property name => exact chain_ended stop [] name h
  | call name opening list closing =>
    rw [Derivation.yield, List.cons_append, List.cons_append, List.append_assoc,
      List.singleton_append, instruction_call]
    exact callOf_eq_ok_iff.mpr ⟨list, closing, rfl, rfl⟩
  | member name dot inner ih =>
    rw [Derivation.yield, List.cons_append, List.cons_append, instruction_member, ih h]
    rfl

/-- What is read is a sentence that ends in front of what is left. -/
theorem exists_derivation_of_ok {stop : Span} {tokens rest : List Token} {result : Instruction}
    (h : instruction stop tokens = (.ok result, rest)) :
    ∃ d : Derivation, tokens = d.yield ++ rest ∧ d.instruction = result ∧ d.StopsBefore rest := by
  induction tokens using instruction_induction generalizing result rest with
  | nothing =>
    rw [instruction, chain_nil] at h
    exact absurd h (by simp)
  | noName token tail hname =>
    rw [instruction, chain_noName stop [] hname] at h
    exact absurd h (by simp)
  | ended name tail hend =>
    rw [instruction, chain_ended stop [] name hend, Prod.mk.injEq, Except.ok.injEq] at h
    obtain ⟨rfl, rfl⟩ := h
    exact ⟨.property name, rfl, rfl, hend⟩
  | call name opening tail =>
    rw [instruction_call, callOf_eq_ok_iff] at h
    obtain ⟨list, closing, rfl, rfl⟩ := h
    refine ⟨.call name opening list closing, ?_, rfl, trivial⟩
    rw [Derivation.yield, List.cons_append, List.cons_append, List.append_assoc,
      List.singleton_append]
  | member name dot tail ih =>
    rw [instruction_member, Prod.mk.injEq, map_eq_ok_iff] at h
    obtain ⟨⟨inner, hinner, rfl⟩, rfl⟩ := h
    obtain ⟨d, htail, rfl, hstops⟩ := ih (Prod.ext hinner rfl)
    refine ⟨.member name dot d, ?_, rfl, hstops⟩
    rw [Derivation.yield, List.cons_append, List.cons_append, ← htail]
  | unexpected name next tail hopening hdot hend =>
    rw [instruction, chain_unexpected stop [] name hopening hdot hend] at h
    exact absurd h (by simp)

theorem instruction_eq_ok_iff {stop : Span} {tokens rest : List Token} {result : Instruction} :
    instruction stop tokens = (.ok result, rest) ↔
      ∃ d : Derivation, tokens = d.yield ++ rest ∧ d.instruction = result ∧
        d.StopsBefore rest := by
  refine ⟨exists_derivation_of_ok, ?_⟩
  rintro ⟨d, rfl, rfl, hstops⟩
  exact instruction_yield stop hstops

end Grammar

/-! ## Strict reading -/

theorem parse_strict_eq (tokens : List Token) :
    parse tokens none (some .strict) =
      match (Grammar.command (.forMode .strict) (endSpan tokens) tokens).1 with
      | .error e => .error (.parse e)
      | .ok instruction => .ok instruction := rfl

/-- A sentence that fills the line is read in every mode. -/
theorem Grammar.command_yield (options : ParserOptions) (stop : Span) (d : Derivation) :
    (command options stop d.yield).1 = .ok d.instruction := by
  have hread := instruction_yield stop d.stopsBefore_nil
  rw [List.append_nil] at hread
  rw [command, hread]
  rfl

/-- A strict reader wants the sentence to be all there is. -/
theorem Grammar.command_strict_eq_ok_iff (stop : Span) {tokens : List Token}
    {result : Instruction} :
    (command (.forMode .strict) stop tokens).1 = .ok result ↔
      ∃ d : Derivation, d.yield = tokens ∧ d.instruction = result := by
  constructor
  · intro h
    rw [command] at h
    split at h
    · exact absurd h (by simp)
    · next read rest hread =>
      rw [map_eq_ok_iff] at h
      obtain ⟨_, hfinish, rfl⟩ := h
      obtain ⟨d, rfl, rfl, -⟩ := exists_derivation_of_ok hread
      cases rest with
      | nil => exact ⟨d, (List.append_nil _).symm, rfl⟩
      | cons token rest => exact absurd hfinish (by simp [finish, ParserOptions.forMode])
  · rintro ⟨d, rfl, rfl⟩
    exact command_yield (.forMode .strict) stop d

theorem parse_strict_eq_ok_iff {tokens : List Token} {result : Instruction} :
    parse tokens none (some .strict) = .ok result ↔
      ∃ d : Derivation, d.yield = tokens ∧ d.instruction = result := by
  rw [← Grammar.command_strict_eq_ok_iff (endSpan tokens), parse_strict_eq]
  split <;> simp_all

/-- A list of tokens is read strictly, or refused for what it holds. -/
theorem parse_strict_eq_error_iff {tokens : List Token} :
    (∃ error, parse tokens none (some .strict) = .error (.parse error)) ↔
      ¬ ∃ d : Derivation, d.yield = tokens := by
  constructor
  · rintro ⟨error, herror⟩ ⟨d, hd⟩
    have hok := parse_strict_eq_ok_iff.mpr ⟨d, hd, rfl⟩
    exact absurd (hok.symm.trans herror) (by simp)
  · intro hnone
    cases hread : (Grammar.command (.forMode .strict) (endSpan tokens) tokens).1 with
    | error e => exact ⟨e, by rw [parse_strict_eq, hread]⟩
    | ok result =>
      obtain ⟨d, hd, -⟩ := (Grammar.command_strict_eq_ok_iff _).mp hread
      exact absurd ⟨d, hd⟩ hnone

/-- A strict reader, who is the default one, reads a list of tokens if and only if it is a
sentence, and answers with the instruction of its one derivation: the names and the values of the
tokens, all of them and in their order. Any other list it refuses. -/
theorem parse_eq_ok_iff_derivation (tokens : List Token) :
    parse tokens = parse tokens none (some .strict) ∧
    (∀ result, parse tokens none (some .strict) = .ok result ↔
      ∃ d : Derivation, d.yield = tokens ∧ d.instruction = result) ∧
    (∀ d e : Derivation, d.yield = tokens → e.yield = tokens → d = e) ∧
    (∀ result, parse tokens none (some .strict) = .ok result →
      result.names = nameTexts tokens ∧ result.arguments.map some = integerValues tokens) ∧
    ((∃ error, parse tokens none (some .strict) = .error (.parse error)) ↔
      ¬ ∃ d : Derivation, d.yield = tokens) := by
  refine ⟨rfl, fun result => parse_strict_eq_ok_iff, fun d e hd he => ?_, fun result h => ?_,
    parse_strict_eq_error_iff⟩
  · exact Derivation.eq_of_yield_eq (hd.trans he.symm)
  · obtain ⟨d, rfl, rfl⟩ := parse_strict_eq_ok_iff.mp h
    exact ⟨d.names_instruction, d.arguments_instruction⟩

/-- A trailing comma belongs to the sentence; a token that stands for the end of the line does
not, although it ends one. -/
theorem parse_trailing_comma_and_endOfInput :
    let f : Token := ⟨.keyword, .ofLength 0 1, "f", none⟩
    let opening : Token := ⟨.leftParen, .ofLength 1 1, "(", none⟩
    let one : Token := ⟨.integer, .ofLength 2 1, "1", some 1⟩
    let comma : Token := ⟨.comma, .ofLength 3 1, ",", none⟩
    let closing : Token := ⟨.rightParen, .ofLength 4 1, ")", none⟩
    let ending : Token := ⟨.endOfInput, .ofLength 1 0, "", none⟩
    (∃ d : Derivation, d.yield = [f, opening, one, comma, closing] ∧
      d.instruction = .call "f" [1] ∧
      ∀ e : Derivation, e.yield = [f, opening, one, comma, closing] → e = d) ∧
    (Instruction.call "f" [1]).arguments.map some
      = integerValues [f, opening, one, comma, closing] ∧
    ¬ ∃ d : Derivation, d.yield = [f, ending] := by
  intro f opening one comma closing ending
  have hok : parse [f, opening, one, comma, closing] none (some .strict)
      = .ok (.call "f" [1]) := by rfl
  obtain ⟨-, hiff, hunique, hholds, -⟩ :=
    parse_eq_ok_iff_derivation [f, opening, one, comma, closing]
  obtain ⟨d, hd, hresult⟩ := (hiff _).mp hok
  refine ⟨⟨d, hd, hresult, fun e he => hunique e d he hd⟩, (hholds _ hok).2, ?_⟩
  exact (parse_eq_ok_iff_derivation [f, ending]).2.2.2.2.mp ⟨_, rfl⟩

end CoinConsole
