import CoinConsole.Proofs.Instruction.Reading

/-!
# Errors at the first token that spoils the line

Tokens are viable if some sentence starts with them. A strict reader who refuses a list of tokens
blames the first token that makes it not viable, or, if the list is viable but no sentence, says
what is missing at its end (`Blames`). Viability obeys the same equations as the routines of the
grammar, one for each way the tokens can start, so the errors of each routine are traced by the
inductions that go with these starts.
-/

namespace CoinConsole

/-! ## Viable tokens -/

/-- Some sentence starts with the tokens. -/
def IsViable (tokens : List Token) : Prop := ∃ d : Derivation, tokens <+: d.yield

/-- Some list of arguments with its closing bracket starts with the tokens. -/
def IsViableCall (tokens : List Token) : Prop :=
  ∃ (list : Arguments) (closing : Leaf .rightParen), tokens <+: list.yield ++ [closing.token]

/-- A closing bracket, for sentences that lack theirs. -/
def closingBracket : Leaf .rightParen := ⟨⟨.rightParen, .empty 0, ")", none⟩, rfl⟩

/-- A name, for sentences that lack their last one. -/
def someName : Leaf .keyword := ⟨⟨.keyword, .empty 0, "x", none⟩, rfl⟩

theorem IsViable.mono {tokens front : List Token} (h : IsViable tokens)
    (hfront : front <+: tokens) : IsViable front := by
  obtain ⟨d, hd⟩ := h
  exact ⟨d, hfront.trans hd⟩

/-! ### Behind an opening bracket -/

theorem isViableCall_nil : IsViableCall [] := ⟨none, closingBracket, List.nil_prefix⟩

theorem isViableCall_single (a : Argument) : IsViableCall [a.token] :=
  ⟨.single a, closingBracket, [closingBracket.token], rfl⟩

/-- What viable tokens behind an opening bracket start with. -/
theorem IsViableCall.of_cons {token : Token} {rest : List Token}
    (h : IsViableCall (token :: rest)) :
    (token.kind = .rightParen ∧ rest = []) ∨
      (∃ a : Argument, a.token = token) ∧
        (rest = [] ∨ (∃ closing : Leaf .rightParen, rest = [closing.token]) ∨
          ∃ (comma : Leaf .comma) (later : List Token),
            rest = comma.token :: later ∧ IsViableCall later) := by
  obtain ⟨list, closing, hstart⟩ := h
  cases list using Arguments.induction with
  | none =>
    rw [Arguments.yield_none, List.nil_append, List.cons_prefix_cons, List.prefix_nil] at hstart
    exact Or.inl ⟨hstart.1 ▸ closing.kind_eq, hstart.2⟩
  | single a =>
    rw [Arguments.yield_single, List.singleton_append, List.cons_prefix_cons] at hstart
    refine Or.inr ⟨⟨a, hstart.1.symm⟩, ?_⟩
    cases rest with
    | nil => exact Or.inl rfl
    | cons next later =>
      obtain ⟨hnext, hlater⟩ := List.cons_prefix_cons.mp hstart.2
      rw [hnext, List.prefix_nil.mp hlater]
      exact Or.inr (Or.inl ⟨closing, rfl⟩)
  | push a comma list =>
    rw [Arguments.yield_push, List.cons_append, List.cons_append, List.cons_prefix_cons] at hstart
    refine Or.inr ⟨⟨a, hstart.1.symm⟩, ?_⟩
    cases rest with
    | nil => exact Or.inl rfl
    | cons next later =>
      obtain ⟨hnext, hlater⟩ := List.cons_prefix_cons.mp hstart.2
      exact Or.inr (Or.inr ⟨comma, later, by rw [hnext], list, closing, hlater⟩)

theorem not_isViableCall_refused {token : Token} {rest : List Token}
    (noClosing : token.kind ≠ .rightParen) (noArgument : ∀ a : Argument, a.token ≠ token) :
    ¬ IsViableCall (token :: rest) := by
  intro h
  rcases h.of_cons with ⟨hclosing, -⟩ | ⟨⟨a, ha⟩, -⟩
  · exact noClosing hclosing
  · exact noArgument a ha

theorem IsViableCall.of_cons_cons {a : Argument} {next : Token} {rest : List Token}
    (h : IsViableCall (a.token :: next :: rest)) :
    (next.kind = .rightParen ∧ rest = []) ∨ (next.kind = .comma ∧ IsViableCall rest) := by
  rcases h.of_cons with ⟨-, hrest⟩ | ⟨-, hrest | ⟨closing, hrest⟩ | ⟨comma, later, hrest, hlater⟩⟩
  · exact absurd hrest (List.cons_ne_nil _ _)
  · exact absurd hrest (List.cons_ne_nil _ _)
  · obtain ⟨rfl, rfl⟩ := List.cons.inj hrest
    exact Or.inl ⟨closing.kind_eq, rfl⟩
  · obtain ⟨rfl, rfl⟩ := List.cons.inj hrest
    exact Or.inr ⟨comma.kind_eq, hlater⟩

theorem isViableCall_more_iff (a : Argument) (comma : Leaf .comma) (rest : List Token) :
    IsViableCall (a.token :: comma.token :: rest) ↔ IsViableCall rest := by
  constructor
  · intro h
    rcases h.of_cons_cons with ⟨hclosing, -⟩ | ⟨-, hrest⟩
    · exact absurd (comma.kind_eq.symm.trans hclosing) (by decide)
    · exact hrest
  · rintro ⟨list, closing, hstart⟩
    refine ⟨list.push a comma, closing, ?_⟩
    rw [Arguments.yield_push, List.cons_append, List.cons_append, List.cons_prefix_cons,
      List.cons_prefix_cons]
    exact ⟨rfl, rfl, hstart⟩

theorem not_isViableCall_stop (a : Argument) {next : Token} {rest : List Token}
    (noComma : next.kind ≠ .comma) (noClosing : next.kind ≠ .rightParen) :
    ¬ IsViableCall (a.token :: next :: rest) := by
  intro h
  rcases h.of_cons_cons with ⟨hclosing, -⟩ | ⟨hcomma, -⟩
  · exact noClosing hclosing
  · exact noComma hcomma

/-- Nothing stands behind the closing bracket. -/
theorem not_isViableCall_closed (list : Arguments) (closing : Leaf .rightParen) (token : Token) :
    ¬ IsViableCall (list.yield ++ [closing.token, token]) := by
  induction list using Arguments.induction with
  | none =>
    intro h
    rcases h.of_cons with ⟨-, hrest⟩ | ⟨⟨a, ha⟩, -⟩
    · exact absurd hrest (List.cons_ne_nil _ _)
    · exact absurd ((ha ▸ a.kind_eq).symm.trans closing.kind_eq) (by decide)
  | single a =>
    intro h
    rcases h.of_cons_cons with ⟨-, hrest⟩ | ⟨hcomma, -⟩
    · exact absurd hrest (List.cons_ne_nil _ _)
    · exact absurd (closing.kind_eq.symm.trans hcomma) (by decide)
  | push a comma list ih =>
    rw [Arguments.yield_push, List.cons_append, List.cons_append, isViableCall_more_iff]
    exact ih

/-! ### Where an instruction is due -/

theorem isViable_nil : IsViable [] := ⟨.property someName, List.nil_prefix⟩

theorem isViable_name (name : Leaf .keyword) : IsViable [name.token] :=
  ⟨.property name, List.prefix_rfl⟩

theorem IsViable.kind_of_cons {token : Token} {rest : List Token} (h : IsViable (token :: rest)) :
    token.kind = .keyword := by
  obtain ⟨d, hstart⟩ := h
  have hname : ∀ name : Leaf .keyword, token = name.token → token.kind = .keyword :=
    fun name hname => hname ▸ name.kind_eq
  cases d with
  | property name => exact hname name (List.cons_prefix_cons.mp hstart).1
  | call name opening list closing => exact hname name (List.cons_prefix_cons.mp hstart).1
  | member name dot inner => exact hname name (List.cons_prefix_cons.mp hstart).1

/-- What viable tokens go on with behind a name. -/
theorem IsViable.of_cons_cons {token next : Token} {rest : List Token}
    (h : IsViable (token :: next :: rest)) :
    (next.kind = .leftParen ∧ IsViableCall rest) ∨ (next.kind = .dot ∧ IsViable rest) := by
  obtain ⟨d, hstart⟩ := h
  cases d with
  | property name => exact absurd hstart.length_le (by simp [Derivation.yield])
  | call name opening list closing =>
    rw [Derivation.yield, List.cons_prefix_cons, List.cons_prefix_cons] at hstart
    exact Or.inl ⟨hstart.2.1 ▸ opening.kind_eq, list, closing, hstart.2.2⟩
  | member name dot inner =>
    rw [Derivation.yield, List.cons_prefix_cons, List.cons_prefix_cons] at hstart
    exact Or.inr ⟨hstart.2.1 ▸ dot.kind_eq, inner, hstart.2.2⟩

theorem isViable_call_iff (name : Leaf .keyword) (opening : Leaf .leftParen) (rest : List Token) :
    IsViable (name.token :: opening.token :: rest) ↔ IsViableCall rest := by
  constructor
  · intro h
    rcases h.of_cons_cons with ⟨-, hrest⟩ | ⟨hdot, -⟩
    · exact hrest
    · exact absurd (opening.kind_eq.symm.trans hdot) (by decide)
  · rintro ⟨list, closing, hstart⟩
    refine ⟨.call name opening list closing, ?_⟩
    rw [Derivation.yield, List.cons_prefix_cons, List.cons_prefix_cons]
    exact ⟨rfl, rfl, hstart⟩

theorem isViable_member_iff (name : Leaf .keyword) (dot : Leaf .dot) (rest : List Token) :
    IsViable (name.token :: dot.token :: rest) ↔ IsViable rest := by
  constructor
  · intro h
    rcases h.of_cons_cons with ⟨hopening, -⟩ | ⟨-, hrest⟩
    · exact absurd (dot.kind_eq.symm.trans hopening) (by decide)
    · exact hrest
  · rintro ⟨d, hstart⟩
    refine ⟨.member name dot d, ?_⟩
    rw [Derivation.yield, List.cons_prefix_cons, List.cons_prefix_cons]
    exact ⟨rfl, rfl, hstart⟩

theorem not_isViable_unexpected (name : Leaf .keyword) {next : Token} {rest : List Token}
    (noOpening : next.kind ≠ .leftParen) (noDot : next.kind ≠ .dot) :
    ¬ IsViable (name.token :: next :: rest) := by
  intro h
  rcases h.of_cons_cons with ⟨hopening, -⟩ | ⟨hdot, -⟩
  · exact noOpening hopening
  · exact noDot hdot

/-- A sentence that ends in front of a token cannot be continued with it. -/
theorem not_isViable_of_stopsBefore {d : Derivation} {token : Token} {rest : List Token}
    (h : d.StopsBefore (token :: rest)) : ¬ IsViable (d.yield ++ [token]) := by
  induction d with
  | property name =>
    have hend : token.kind = .endOfInput := h
    exact not_isViable_unexpected name (by simp [hend]) (by simp [hend])
  | call name opening list closing =>
    rw [Derivation.yield, List.cons_append, List.cons_append, List.append_assoc,
      isViable_call_iff]
    exact not_isViableCall_closed list closing token
  | member name dot inner ih =>
    rw [Derivation.yield, List.cons_append, List.cons_append, isViable_member_iff]
    exact ih h

/-! ## What an error blames -/

/-- The error holds the token. -/
def ParseError.Carries (error : ParseError) (token : Token) : Prop :=
  error = .unexpectedToken (.token token) ∨ ∃ kind, error = .expected kind (.token token)

/-- The error says what is missing at `stop`: any token, or a closing bracket. -/
def ParseError.Misses (error : ParseError) (stop : Span) : Prop :=
  error = .missingToken stop ∨ error = .expected .rightParen (.nothing stop)

theorem ParseError.Carries.span_eq {error : ParseError} {token : Token} (h : error.Carries token) :
    error.span = token.span := by
  rcases h with rfl | ⟨kind, rfl⟩ <;> rfl

theorem ParseError.Misses.span_eq {error : ParseError} {stop : Span} (h : error.Misses stop) :
    error.span = stop := by
  rcases h with rfl | rfl <;> rfl

/-- The error holds the first token that makes the tokens not viable, or says what is missing
behind viable tokens. -/
inductive Blames (viable : List Token → Prop) (stop : Span) (error : ParseError) :
    List Token → Prop
  | spoiled (front : List Token) {token : Token} (back : List Token) (good : viable front)
      (bad : ¬ viable (front ++ [token])) (carries : error.Carries token) :
      Blames viable stop error (front ++ token :: back)
  | missing {tokens : List Token} (good : viable tokens) (misses : error.Misses stop) :
      Blames viable stop error tokens

/-- Tokens in front that do not change what is viable behind them do not change what is blamed. -/
theorem Blames.prepend {viable inner : List Token → Prop} {stop : Span} {error : ParseError}
    {tokens : List Token} (front : List Token)
    (hviable : ∀ later, viable (front ++ later) ↔ inner later)
    (h : Blames inner stop error tokens) : Blames viable stop error (front ++ tokens) := by
  cases h with
  | @spoiled good token back hgood hbad hcarries =>
    rw [← List.append_assoc]
    refine Blames.spoiled _ back ((hviable _).mpr hgood) (fun hviable' => hbad ?_) hcarries
    rw [List.append_assoc] at hviable'
    exact (hviable _).mp hviable'
  | missing hgood hmisses => exact Blames.missing ((hviable _).mpr hgood) hmisses

/-! ## The errors of the routines -/

namespace Grammar

theorem expect_ne {kind : TokenKind} (stop : Span) {token : Token} (rest : List Token)
    (h : token.kind ≠ kind) :
    expect kind stop (token :: rest) =
      (.error (.expected kind (.token token)), token :: rest) := by
  rw [expect, if_neg h]

/-- An argument and its comma do not change the error of what follows them. -/
theorem callOf_more_eq_error_iff {name : String} {stop : Span} {a : Argument}
    {comma : Leaf .comma} {rest : List Token} {error : ParseError} :
    (callOf name stop (a.token :: comma.token :: rest)).1 = .error error ↔
      (callOf name stop rest).1 = .error error := by
  rw [callOf, callOf, arguments_more]
  obtain ⟨outcome, left⟩ := arguments rest
  cases outcome with
  | error e => rfl
  | ok values =>
    show Except.map _ (expect .rightParen stop left).1 = _ ↔ _
    rw [map_eq_error_iff, map_eq_error_iff]

theorem blames_of_callOf {name : String} {stop : Span} {tokens : List Token} {error : ParseError}
    (h : (callOf name stop tokens).1 = .error error) :
    Blames IsViableCall stop error tokens := by
  induction tokens using arguments_induction with
  | nothing =>
    rw [callOf, arguments_nil] at h
    obtain rfl := Except.error.inj h
    exact .missing isViableCall_nil (Or.inr rfl)
  | closing c rest =>
    rw [callOf, arguments_closing] at h
    simp only [expect_leaf] at h
    exact absurd h (by simp [Except.map])
  | last a =>
    rw [callOf, arguments_last] at h
    obtain rfl := Except.error.inj h
    exact .missing (isViableCall_single a) (Or.inr rfl)
  | stop a next rest hcomma =>
    rw [callOf, arguments_stop a hcomma] at h
    by_cases hclosing : next.kind = .rightParen
    · have hexpect := expect_leaf stop ⟨next, hclosing⟩ rest
      simp only [hexpect] at h
      exact absurd h (by simp [Except.map])
    · simp only [expect_ne stop rest hclosing] at h
      obtain rfl := Except.error.inj h
      exact .spoiled [a.token] rest (isViableCall_single a)
        (not_isViableCall_stop a hcomma hclosing) (Or.inr ⟨_, rfl⟩)
  | more a comma rest ih =>
    exact (ih (callOf_more_eq_error_iff.mp h)).prepend [a.token, comma.token]
      (isViableCall_more_iff a comma)
  | refused token rest hclosing hargument =>
    rw [callOf, arguments_refused hclosing hargument] at h
    obtain rfl := Except.error.inj h
    exact .spoiled [] rest isViableCall_nil
      (not_isViableCall_refused hclosing hargument) (Or.inl rfl)

theorem blames_of_instruction {stop : Span} {tokens : List Token} {error : ParseError}
    (h : (instruction stop tokens).1 = .error error) : Blames IsViable stop error tokens := by
  induction tokens using instruction_induction with
  | nothing =>
    rw [instruction, chain_nil] at h
    obtain rfl := Except.error.inj h
    exact .missing isViable_nil (Or.inl rfl)
  | noName token rest hname =>
    rw [instruction, chain_noName stop [] hname] at h
    obtain rfl := Except.error.inj h
    exact .spoiled [] rest isViable_nil
      (fun hviable => hname hviable.kind_of_cons) (Or.inl rfl)
  | ended name rest hend =>
    rw [instruction, chain_ended stop [] name hend] at h
    exact absurd h (by simp)
  | call name opening rest =>
    rw [instruction_call] at h
    exact (blames_of_callOf h).prepend [name.token, opening.token] (isViable_call_iff name opening)
  | member name dot rest ih =>
    rw [instruction_member] at h
    exact (ih (map_eq_error_iff.mp h)).prepend [name.token, dot.token]
      (isViable_member_iff name dot)
  | unexpected name next rest hopening hdot hend =>
    rw [instruction, chain_unexpected stop [] name hopening hdot hend] at h
    obtain rfl := Except.error.inj h
    exact .spoiled [name.token] rest (isViable_name name)
      (not_isViable_unexpected name hopening hdot) (Or.inl rfl)

/-- A token left over behind a sentence spoils it. -/
theorem blames_of_command_strict {stop : Span} {tokens : List Token} {error : ParseError}
    (h : (command (.forMode .strict) stop tokens).1 = .error error) :
    Blames IsViable stop error tokens := by
  rw [command] at h
  split at h
  · next e rest hread =>
    obtain rfl := Except.error.inj h
    exact blames_of_instruction (congrArg Prod.fst hread)
  · next result rest hread =>
    -- a sentence was read, so the error is about what is left behind it
    obtain ⟨d, rfl, -, hstops⟩ := exists_derivation_of_ok hread
    cases rest with
    | nil => exact absurd h (by simp [finish, Except.map])
    | cons token rest =>
      obtain rfl := Except.error.inj h
      exact .spoiled d.yield rest ⟨d, List.prefix_rfl⟩ (not_isViable_of_stopsBefore hstops)
        (Or.inr ⟨_, rfl⟩)

end Grammar

/-! ## The first token that spoils the line -/

/-- The token at `k` is the first one that makes the tokens not viable. -/
def IsFirstSpoiled (tokens : List Token) (k : Nat) : Prop :=
  k < tokens.length ∧ ¬ IsViable (tokens.take (k + 1)) ∧ ∀ j < k, IsViable (tokens.take (j + 1))

theorem IsViable.not_isFirstSpoiled {tokens : List Token} (h : IsViable tokens) (k : Nat) :
    ¬ IsFirstSpoiled tokens k := by
  rintro ⟨-, hbad, -⟩
  exact hbad (h.mono (List.take_prefix _ _))

theorem isFirstSpoiled_append {front : List Token} {token : Token} (back : List Token)
    (good : IsViable front) (bad : ¬ IsViable (front ++ [token])) :
    IsFirstSpoiled (front ++ token :: back) front.length := by
  have htake : (front ++ token :: back).take (front.length + 1) = front ++ [token] := by
    rw [List.take_length_add_append]
    rfl
  refine ⟨by simp, by rwa [htake], fun j hj => good.mono ?_⟩
  rw [List.take_append_of_le_length hj]
  exact List.take_prefix _ _

theorem IsFirstSpoiled.unique {tokens : List Token} {j k : Nat} (hj : IsFirstSpoiled tokens j)
    (hk : IsFirstSpoiled tokens k) : j = k := by
  obtain ⟨-, hbadj, hgoodj⟩ := hj
  obtain ⟨-, hbadk, hgoodk⟩ := hk
  rcases Nat.lt_trichotomy j k with hlt | heq | hgt
  · exact absurd (hgoodk j hlt) hbadj
  · exact heq
  · exact absurd (hgoodj k hgt) hbadk

theorem endSpan_eq (tokens : List Token) :
    (tokens = [] ∧ endSpan tokens = .empty 0) ∨
      ∃ last, tokens.getLast? = some last ∧ endSpan tokens = .empty last.span.stop := by
  cases hlast : tokens.getLast? with
  | none => exact Or.inl ⟨List.getLast?_eq_none_iff.mp hlast, by rw [endSpan, hlast]⟩
  | some last => exact Or.inr ⟨last, rfl, by rw [endSpan, hlast]⟩

/-- The error of a strict reader holds the first token that spoils the line, and points at it. If
no token does, the line is the start of a sentence and not all of it, and the error says what is
missing behind the last token. -/
theorem parse_strict_error_at_first_spoiled {tokens : List Token} {failure : ParseFailure}
    (h : parse tokens none (some .strict) = .error failure) :
    (∀ d : Derivation, ∀ token ∈ d.yield,
      token.kind ≠ .endOfInput ∧ (token.kind = .integer → token.value ≠ none)) ∧
    ∃ error, failure = .parse error ∧
      (∀ k, IsFirstSpoiled tokens k →
        ∃ token, tokens[k]? = some token ∧ error.Carries token ∧ error.span = token.span) ∧
      ((¬ ∃ k, IsFirstSpoiled tokens k) →
        (∃ d : Derivation, tokens <+: d.yield ∧ tokens ≠ d.yield) ∧
        ∃ stop, error.Misses stop ∧ error.span = stop ∧
          ((tokens = [] ∧ stop = .empty 0) ∨
            ∃ last, tokens.getLast? = some last ∧ stop = .empty last.span.stop)) := by
  refine ⟨fun d token hmem => Derivation.mem_yield hmem, ?_⟩
  have hrejected : ∀ d : Derivation, tokens ≠ d.yield := by
    rintro d rfl
    exact absurd (h.symm.trans (parse_strict_eq_ok_iff.mpr ⟨d, rfl, rfl⟩)) (by simp)
  rw [parse_strict_eq] at h
  split at h
  · next error hcommand =>
    refine ⟨error, (Except.error.inj h).symm, ?_⟩
    cases Grammar.blames_of_command_strict hcommand with
    | @spoiled front token back hgood hbad hcarries =>
      have hfirst := isFirstSpoiled_append back hgood hbad
      refine ⟨fun k hk => ?_, fun hnone => absurd ⟨_, hfirst⟩ hnone⟩
      obtain rfl := hfirst.unique hk
      exact ⟨token, by simp, hcarries, hcarries.span_eq⟩
    | missing hgood hmisses =>
      refine ⟨fun k hk => absurd hk (hgood.not_isFirstSpoiled k), fun _ => ⟨?_, ?_⟩⟩
      · obtain ⟨d, hd⟩ := hgood
        exact ⟨d, hd, hrejected d⟩
      · exact ⟨endSpan tokens, hmisses, hmisses.span_eq, endSpan_eq tokens⟩
  · exact absurd h (by simp)

/-- An argument behind an argument spoils the line, and is in the error; behind an opening bracket
a closing one is missing. -/
theorem parse_strict_error_second_argument :
    let f : Token := ⟨.keyword, .ofLength 0 1, "f", none⟩
    let opening : Token := ⟨.leftParen, .ofLength 1 1, "(", none⟩
    let one : Token := ⟨.integer, .ofLength 2 1, "1", some 1⟩
    let two : Token := ⟨.integer, .ofLength 4 1, "2", some 2⟩
    (∃ error, parse [f, opening, one, two] none (some .strict) = .error (.parse error) ∧
      IsFirstSpoiled [f, opening, one, two] 3 ∧ error.Carries two ∧ error.span = two.span) ∧
    ∃ error, parse [f, opening] none (some .strict) = .error (.parse error) ∧
      (¬ ∃ k, IsFirstSpoiled [f, opening] k) ∧ error.Misses (.empty 2) := by
  intro f opening one two
  have hcall := isViable_call_iff ⟨f, rfl⟩ ⟨opening, rfl⟩
  have hfull : parse [f, opening, one, two] none (some .strict)
      = .error (.parse (.expected .rightParen (.token two))) := by rfl
  have hshort : parse [f, opening] none (some .strict)
      = .error (.parse (.expected .rightParen (.nothing (.empty 2)))) := by rfl
  refine ⟨⟨_, hfull, ?_⟩, ⟨_, hshort, ?_⟩⟩
  · have hspoiled : IsFirstSpoiled [f, opening, one, two] 3 :=
      isFirstSpoiled_append [] ((hcall [one]).mpr (isViableCall_single ⟨one, 1, rfl, rfl⟩))
        fun hbad => not_isViableCall_stop ⟨one, 1, rfl, rfl⟩ (by decide) (by decide)
          ((hcall [one, two]).mp hbad)
    obtain ⟨-, error, herror, hcarries, -⟩ := parse_strict_error_at_first_spoiled hfull
    obtain rfl := ParseFailure.parse.inj herror
    obtain ⟨token, htoken, hblamed⟩ := hcarries 3 hspoiled
    obtain rfl := Option.some.inj htoken
    exact ⟨hspoiled, hblamed⟩
  · have hnone : ¬ ∃ k, IsFirstSpoiled [f, opening] k := by
      rintro ⟨k, hk⟩
      exact ((hcall []).mpr isViableCall_nil).not_isFirstSpoiled k hk
    obtain ⟨-, error, herror, -, hmissing⟩ := parse_strict_error_at_first_spoiled hshort
    obtain rfl := ParseFailure.parse.inj herror
    obtain ⟨-, stop, hmisses, rfl, -⟩ := hmissing hnone
    exact ⟨hnone, hmisses⟩

end CoinConsole
