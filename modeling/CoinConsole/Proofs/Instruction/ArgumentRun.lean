import CoinConsole.Proofs.Instruction.Restart

/-!
# Runs of arguments

What a list of arguments takes off the front of the tokens: arguments with a comma behind each, and
maybe one more that no comma follows (`ArgumentRun`). Reading such a list stops at the end of the
tokens, at a closing bracket, or behind an argument without a comma (`ArgumentRun.StopsBefore`); and
then it has taken the longest run there is. Otherwise it has come to a token where an argument was
due and found neither that nor a closing bracket. This token is taken too, and refused
(`Cursor.Refuses`).

A cursor may also take the arguments one by one (`Cursor.collect`). It asks for an argument only
where there is a token, so it never finds that a token is missing.
-/

namespace CoinConsole

/-! ## Runs -/

/-- Arguments with a comma behind each, and maybe one more with none. -/
structure ArgumentRun where
  pairs : List (Argument × Leaf .comma)
  last : Option Argument

namespace ArgumentRun

/-- The tokens of arguments with a comma behind each. -/
def pairTokens (pairs : List (Argument × Leaf .comma)) : List Token :=
  pairs.flatMap fun pair => [pair.1.token, pair.2.token]

/-- The tokens of the run, in order. -/
def tokens (run : ArgumentRun) : List Token :=
  pairTokens run.pairs ++ (run.last.map Argument.token).toList

/-- The values of the arguments, in order. -/
def values (run : ArgumentRun) : List Int :=
  (run.pairs.map fun pair => pair.1.value) ++ (run.last.map Argument.value).toList

/-- No comma follows the last argument, if the run has one without a comma. -/
def EndsBefore (run : ArgumentRun) (rest : List Token) : Prop :=
  run.last ≠ none → Grammar.nextKind rest ≠ .comma

/-- A list of arguments stops behind the run: at the end of the tokens or at a closing bracket, or
behind an argument that no comma follows. -/
def StopsBefore (run : ArgumentRun) (rest : List Token) : Prop :=
  match run.last with
  | none => rest = [] ∨ Grammar.nextKind rest = .rightParen
  | some _ => Grammar.nextKind rest ≠ .comma

@[simp] theorem pairTokens_cons (pair : Argument × Leaf .comma)
    (pairs : List (Argument × Leaf .comma)) :
    pairTokens (pair :: pairs) = pair.1.token :: pair.2.token :: pairTokens pairs := rfl

@[simp] theorem tokens_cons (pair : Argument × Leaf .comma)
    (pairs : List (Argument × Leaf .comma)) (last : Option Argument) :
    (mk (pair :: pairs) last).tokens = pair.1.token :: pair.2.token :: (mk pairs last).tokens := rfl

@[simp] theorem tokens_none : (mk [] none).tokens = [] := rfl

@[simp] theorem tokens_some (a : Argument) : (mk [] (some a)).tokens = [a.token] := rfl

/-- The values are those of the integers among the tokens. -/
theorem integerValues_tokens (run : ArgumentRun) :
    integerValues run.tokens = run.values.map some := by
  obtain ⟨pairs, last⟩ := run
  induction pairs with
  | nil => cases last <;> simp [values, integerValues_cons, Argument.kind_eq, Argument.value_eq]
  | cons pair pairs ih =>
    simp only [tokens_cons, integerValues_cons, pair.1.kind_eq, pair.1.value_eq, pair.2.kind_eq, ih]
    rfl

/-- Where a run without a single argument stops, no argument is found. -/
theorem StopsBefore.token_ne {rest tail : List Token} (h : (mk [] none).StopsBefore rest)
    (a : Argument) : rest ≠ a.token :: tail := by
  rintro rfl
  rcases h with hnil | hclosing
  · cases hnil
  · cases a.kind_eq.symm.trans hclosing

/-- Where a list of arguments stops behind a run, no run is longer. -/
theorem StopsBefore.length_le {run other : ArgumentRun} {rest back : List Token}
    (h : run.StopsBefore rest) (hother : other.EndsBefore back)
    (heq : run.tokens ++ rest = other.tokens ++ back) :
    other.tokens.length ≤ run.tokens.length := by
  obtain ⟨pairs, last⟩ := run
  obtain ⟨otherPairs, otherLast⟩ := other
  induction otherPairs generalizing pairs with
  | nil =>
    cases otherLast with
    | none => exact Nat.zero_le _
    | some b =>
      cases pairs with
      | cons pair pairs => simp
      | nil =>
        cases last with
        | none => exact absurd heq (h.token_ne b)
        | some a => exact Nat.le_refl 1
  | cons otherPair otherPairs ih =>
    cases pairs with
    | cons pair pairs =>
      simp only [tokens_cons, List.cons_append, List.cons.injEq] at heq
      have hle := ih pairs h hother heq.2.2
      simp only [tokens_cons, List.length_cons]
      omega
    | nil =>
      cases last with
      | none => exact absurd heq (h.token_ne otherPair.1)
      | some a =>
        -- the comma of the other run would stand behind the last argument of this one
        obtain ⟨-, rfl⟩ := List.cons.inj heq
        exact absurd otherPair.2.kind_eq h

end ArgumentRun

/-- The token can neither be an argument nor close a list of them. -/
structure Token.IsNoArgument (token : Token) : Prop where
  noClosing : token.kind ≠ .rightParen
  noValue : token.kind = .integer → token.value = none

theorem Token.IsNoArgument.token_ne {token : Token} (h : token.IsNoArgument) (a : Argument) :
    a.token ≠ token := by
  rintro rfl
  exact absurd (a.value_eq.symm.trans (h.noValue a.kind_eq)) (by simp)

theorem Token.isNoArgument_of_token_ne {token : Token} (hclosing : token.kind ≠ .rightParen)
    (h : ∀ a : Argument, a.token ≠ token) : token.IsNoArgument where
  noClosing := hclosing
  noValue hkind := by
    cases hvalue : token.value with
    | none => rfl
    | some value => exact absurd rfl (h ⟨token, value, hkind, hvalue⟩)

namespace Grammar

open ArgumentRun

/-! ## Arguments read runs -/

/-- Arguments with a comma behind each are read, and then whatever follows. -/
theorem arguments_pairTokens (pairs : List (Argument × Leaf .comma)) (tokens : List Token) :
    arguments (pairTokens pairs ++ tokens) =
      ((arguments tokens).1.map ((pairs.map fun pair => pair.1.value) ++ ·),
        (arguments tokens).2) := by
  induction pairs with
  | nil => exact Prod.ext (congrFun Except.map_id _).symm rfl
  | cons pair pairs ih =>
    rw [pairTokens_cons, List.cons_append, List.cons_append, arguments_more, ih, map_map]
    rfl

theorem arguments_of_stopsBefore {run : ArgumentRun} {rest : List Token}
    (h : run.StopsBefore rest) : arguments (run.tokens ++ rest) = (.ok run.values, rest) := by
  obtain ⟨pairs, last⟩ := run
  rw [ArgumentRun.tokens, List.append_assoc, arguments_pairTokens]
  cases last with
  | none =>
    have hnone : arguments rest = (.ok [], rest) := by
      rcases h with rfl | hclosing
      · exact arguments_nil
      · cases rest with
        | nil => cases hclosing
        | cons token rest => exact arguments_closing ⟨token, hclosing⟩ rest
    rw [Option.map_none, Option.toList_none, List.nil_append, hnone]
    rfl
  | some a =>
    rw [Option.map_some, Option.toList_some, List.singleton_append]
    cases rest with
    | nil => rw [arguments_last]; rfl
    | cons next rest => rw [arguments_stop a h]; rfl

theorem arguments_of_isNoArgument (pairs : List (Argument × Leaf .comma)) {token : Token}
    (h : token.IsNoArgument) (rest : List Token) :
    arguments (pairTokens pairs ++ token :: rest) =
      (.error (.unexpectedToken (.token token)), rest) := by
  rw [arguments_pairTokens, arguments_refused h.noClosing h.token_ne]
  rfl

/-- What is found where arguments are due: a run and something it stops before, or arguments with a
comma behind each and a token that is no argument. -/
inductive ArgumentsCourse (tokens : List Token) : Prop
  | taken (run : ArgumentRun) (rest : List Token) (cut : tokens = run.tokens ++ rest)
      (stops : run.StopsBefore rest)
  | refused (pairs : List (Argument × Leaf .comma)) (token : Token) (rest : List Token)
      (cut : tokens = pairTokens pairs ++ token :: rest) (noArgument : token.IsNoArgument)

theorem argumentsCourse (tokens : List Token) : ArgumentsCourse tokens := by
  induction tokens using arguments_induction with
  | nothing => exact .taken ⟨[], none⟩ [] rfl (.inl rfl)
  | closing c rest => exact .taken ⟨[], none⟩ (c.token :: rest) rfl (.inr c.kind_eq)
  | last a => exact .taken ⟨[], some a⟩ [] rfl TokenKind.noConfusion
  | stop a next rest hcomma => exact .taken ⟨[], some a⟩ (next :: rest) rfl hcomma
  | more a comma rest ih =>
    cases ih with
    | taken run left cut stops =>
      exact .taken ⟨(a, comma) :: run.pairs, run.last⟩ left (by rw [cut]; rfl) stops
    | refused pairs token left cut noArgument =>
      exact .refused ((a, comma) :: pairs) token left (by rw [cut]; rfl) noArgument
  | refused token rest hclosing hargument =>
    exact .refused [] token rest rfl (Token.isNoArgument_of_token_ne hclosing hargument)

theorem arguments_eq_ok_iff {tokens rest : List Token} {values : List Int} :
    arguments tokens = (.ok values, rest) ↔
      ∃ run : ArgumentRun, tokens = run.tokens ++ rest ∧ run.StopsBefore rest ∧
        run.values = values := by
  constructor
  · intro h
    cases argumentsCourse tokens with
    | taken run left cut stops =>
      rw [cut, arguments_of_stopsBefore stops, Prod.mk.injEq, Except.ok.injEq] at h
      obtain ⟨rfl, rfl⟩ := h
      exact ⟨run, cut, stops, rfl⟩
    | refused pairs token left cut noArgument =>
      rw [cut, arguments_of_isNoArgument pairs noArgument] at h
      cases h
  · rintro ⟨run, rfl, hstops, rfl⟩
    exact arguments_of_stopsBefore hstops

theorem arguments_eq_error_iff {tokens rest : List Token} {error : ParseError} :
    arguments tokens = (.error error, rest) ↔
      ∃ (pairs : List (Argument × Leaf .comma)) (token : Token),
        tokens = pairTokens pairs ++ token :: rest ∧ token.IsNoArgument ∧
          .unexpectedToken (.token token) = error := by
  constructor
  · intro h
    cases argumentsCourse tokens with
    | taken run left cut stops =>
      rw [cut, arguments_of_stopsBefore stops] at h
      cases h
    | refused pairs token left cut noArgument =>
      rw [cut, arguments_of_isNoArgument pairs noArgument, Prod.mk.injEq, Except.error.injEq] at h
      obtain ⟨rfl, rfl⟩ := h
      exact ⟨pairs, token, cut, noArgument, rfl⟩
  · rintro ⟨pairs, token, rfl, hnoArgument, rfl⟩
    exact arguments_of_isNoArgument pairs hnoArgument rest

end Grammar

namespace Cursor

/-! ## Arguments one by one -/

theorem rest_argument (cursor : Cursor) : cursor.argument.2.rest = cursor.rest.tail := by
  have htail : (Grammar.argument cursor.endSpan cursor.rest).2 = cursor.rest.tail := by
    cases cursor.rest with
    | nil => rfl
    | cons token rest =>
      rw [Grammar.argument]
      split <;> rfl
  rw [argument, run, htail, rest_leaving (List.tail_suffix _)]

theorem length_rest_eat_le (cursor : Cursor) (kind : TokenKind) :
    (cursor.eat kind).2.rest.length ≤ cursor.rest.length := by
  rw [eat]
  split
  · rw [rest_bump, List.length_tail]
    exact Nat.sub_le _ _
  · exact Nat.le_refl _

/-- Takes arguments one by one: where there is a token that is no closing bracket, it takes an
argument, and goes on behind a comma. -/
def collect (cursor : Cursor) : Except ParseError (List Int) × Cursor :=
  match _h : cursor.current with
  | none => (.ok [], cursor)
  | some token =>
    if token.kind = .rightParen then (.ok [], cursor)
    else
      match cursor.argument.1 with
      | .error e => (.error e, cursor.argument.2)
      | .ok value =>
        let comma := cursor.argument.2.eat .comma
        if comma.1 then
          let later := comma.2.collect
          (later.1.map (value :: ·), later.2)
        else (.ok [value], comma.2)
termination_by cursor.rest.length
decreasing_by
  have hpos : 0 < cursor.rest.length := List.length_pos_of_mem (List.mem_of_mem_head? _h)
  have hle := cursor.argument.2.length_rest_eat_le .comma
  rw [rest_argument, List.length_tail] at hle
  omega

section

variable {cursor : Cursor} {token : Token} {rest : List Token}

theorem isAt_comma_of_rest_nil (h : cursor.rest = []) : cursor.isAt .comma = false := by
  rw [isAt, currentKind, h]
  rfl

theorem eat_of_rest (h : cursor.rest = token :: rest) (kind : TokenKind) :
    cursor.eat kind =
      if token.kind = kind then (true, cursor.leaving rest) else (false, cursor) := by
  rw [eat, isAt, currentKind, h, Grammar.nextKind, bump_of_rest h]
  simp only [decide_eq_true_eq]

theorem collect_of_rest_nil (h : cursor.rest = []) : cursor.collect = (.ok [], cursor) := by
  rw [collect, current, h, List.head?_nil]

theorem collect_of_closing (h : cursor.rest = token :: rest) (hkind : token.kind = .rightParen) :
    cursor.collect = (.ok [], cursor) := by
  rw [collect, current_of_rest h]
  simp only [if_pos hkind]

theorem collect_of_isNoArgument (h : cursor.rest = token :: rest)
    (hnoArgument : token.IsNoArgument) :
    cursor.collect = (.error (.unexpectedToken (.token token)), cursor.leaving rest) := by
  have hargument : cursor.argument =
      (.error (.unexpectedToken (.token token)), cursor.leaving rest) := by
    rw [argument, run, h, Grammar.argument]
    split
    · next value hkind hvalue => exact absurd (hnoArgument.noValue hkind) (by simp [hvalue])
    · rfl
  rw [collect, current_of_rest h]
  simp only [if_neg hnoArgument.noClosing, hargument]

/-- Behind an argument, a comma decides whether to go on. -/
theorem collect_of_argument (a : Argument) (h : cursor.rest = a.token :: rest) :
    cursor.collect =
      let comma := (cursor.leaving rest).eat .comma
      if comma.1 then (comma.2.collect.1.map (a.value :: ·), comma.2.collect.2)
      else (.ok [a.value], comma.2) := by
  have hclosing : ¬ a.token.kind = .rightParen := by simp [a.kind_eq]
  have hargument : cursor.argument = (.ok a.value, cursor.leaving rest) := by
    rw [argument, run, h, Grammar.argument]
    simp only [a.kind_eq, a.value_eq]
  rw [collect, current_of_rest h]
  simp only [if_neg hclosing, hargument]

end

/-- Taking arguments one by one is taking a list of arguments. -/
theorem collect_eq_arguments (cursor : Cursor) : cursor.collect = cursor.arguments := by
  generalize htokens : cursor.rest = tokens
  induction tokens using Grammar.arguments_induction generalizing cursor with
  | nothing =>
    rw [collect_of_rest_nil htokens, arguments, run, htokens, Grammar.arguments_nil, ← htokens,
      leaving_rest]
  | closing c rest =>
    rw [collect_of_closing htokens c.kind_eq, arguments, run, htokens, Grammar.arguments_closing,
      ← htokens, leaving_rest]
  | last a =>
    have heat : (cursor.leaving []).eat .comma = (false, cursor.leaving []) := by
      rw [eat, isAt_comma_of_rest_nil (rest_leaving_tail htokens)]
      rfl
    rw [collect_of_argument a htokens, arguments, run, htokens, Grammar.arguments_last, heat]
    rfl
  | stop a next rest hcomma =>
    rw [collect_of_argument a htokens, arguments, run, htokens, Grammar.arguments_stop a hcomma,
      eat_of_rest (rest_leaving_tail htokens), if_neg hcomma]
    rfl
  | more a comma rest ih =>
    have hleft : rest <:+ cursor.rest := htokens ▸ ⟨[a.token, comma.token], rfl⟩
    rw [collect_of_argument a htokens, eat_of_rest (rest_leaving_tail htokens),
      if_pos comma.kind_eq, arguments, run, htokens, Grammar.arguments_more]
    have hlater := ih (cursor.leaving rest) (rest_leaving hleft)
    rw [arguments, run_leaving hleft] at hlater
    show ((cursor.leaving rest).collect.1.map (a.value :: ·), (cursor.leaving rest).collect.2) = _
    rw [hlater]
  | refused token rest hclosing hargument =>
    rw [collect_of_isNoArgument htokens (Token.isNoArgument_of_token_ne hclosing hargument),
      arguments, run, htokens, Grammar.arguments_refused hclosing hargument]

/-! ## Main result -/

/-- The cursor takes the longest run of arguments there is, and stops. -/
structure TakesRun (cursor : Cursor) (run : ArgumentRun) (after : Cursor) : Prop where
  passes : cursor.Passes run.tokens after
  stops : run.StopsBefore after.rest
  longest : ∀ (other : ArgumentRun) (back : List Token), cursor.rest = other.tokens ++ back →
    other.EndsBefore back → other.tokens.length ≤ run.tokens.length

/-- Behind arguments with a comma each, the cursor passes a token that is no argument. -/
structure Refuses (cursor : Cursor) (pairs : List (Argument × Leaf .comma)) (token : Token)
    (after : Cursor) : Prop where
  passes : cursor.Passes (ArgumentRun.pairTokens pairs ++ [token]) after
  noArgument : token.IsNoArgument

theorem Passes.leaving_rest_eq {before after : Cursor} {passed : List Token}
    (h : before.Passes passed after) : before.leaving after.rest = after := by
  have hposition : before.tokens.length - after.rest.length = after.position := by
    have hlength := after.length_rest
    rw [h.tokens_eq] at hlength
    omega
  have htokens := h.tokens_eq
  have hoptions := h.options_eq
  rcases after with ⟨tokens, position, options, hle⟩
  subst htokens hoptions
  simp only [leaving, hposition]

theorem arguments_eq_of_passes {cursor after : Cursor} {passed : List Token}
    {outcome : Except ParseError (List Int)} (h : cursor.Passes passed after)
    (hread : Grammar.arguments cursor.rest = (outcome, after.rest)) :
    cursor.arguments = (outcome, after) := by
  rw [arguments, run, hread, h.leaving_rest_eq]

/-- What is left of a list of arguments is left of the cursor. -/
theorem eq_leaving_of_arguments_eq {cursor after : Cursor}
    {outcome : Except ParseError (List Int)} (h : cursor.arguments = (outcome, after)) :
    ∃ left, Grammar.arguments cursor.rest = (outcome, left) ∧ cursor.leaving left = after ∧
      after.rest = left := by
  have houtcome : (Grammar.arguments cursor.rest).1 = outcome := congrArg Prod.fst h
  have hafter : cursor.leaving (Grammar.arguments cursor.rest).2 = after := congrArg Prod.snd h
  refine ⟨(Grammar.arguments cursor.rest).2, Prod.ext houtcome rfl, hafter, ?_⟩
  rw [← hafter]
  exact rest_leaving (Grammar.arguments_suffix cursor.rest)

theorem arguments_eq_ok_iff_takesRun {cursor after : Cursor} {values : List Int} :
    cursor.arguments = (.ok values, after) ↔
      ∃ run : ArgumentRun, cursor.TakesRun run after ∧ run.values = values := by
  constructor
  · intro h
    obtain ⟨left, hread, hafter, hrest⟩ := eq_leaving_of_arguments_eq h
    obtain ⟨run, hcut, hstops, hvalues⟩ := Grammar.arguments_eq_ok_iff.mp hread
    refine ⟨run, ⟨hafter ▸ passes_leaving hcut, hrest ▸ hstops, fun other back hother hends => ?_⟩,
      hvalues⟩
    exact hstops.length_le hends (hcut.symm.trans hother)
  · rintro ⟨run, ⟨hpasses, hstops, -⟩, rfl⟩
    exact arguments_eq_of_passes hpasses
      (Grammar.arguments_eq_ok_iff.mpr ⟨run, hpasses.rest_eq, hstops, rfl⟩)

theorem arguments_eq_error_iff_refuses {cursor after : Cursor} {error : ParseError} :
    cursor.arguments = (.error error, after) ↔
      ∃ (pairs : List (Argument × Leaf .comma)) (token : Token),
        cursor.Refuses pairs token after ∧ .unexpectedToken (.token token) = error := by
  constructor
  · intro h
    obtain ⟨left, hread, hafter, -⟩ := eq_leaving_of_arguments_eq h
    obtain ⟨pairs, token, hcut, hnoArgument, herror⟩ := Grammar.arguments_eq_error_iff.mp hread
    have hpassed : cursor.rest = ArgumentRun.pairTokens pairs ++ [token] ++ left := by
      rw [hcut, List.append_assoc, List.singleton_append]
    exact ⟨pairs, token, ⟨hafter ▸ passes_leaving hpassed, hnoArgument⟩, herror⟩
  · rintro ⟨pairs, token, ⟨hpasses, hnoArgument⟩, rfl⟩
    have hcut := hpasses.rest_eq
    rw [List.append_assoc, List.singleton_append] at hcut
    exact arguments_eq_of_passes hpasses
      (Grammar.arguments_eq_error_iff.mpr ⟨pairs, token, hcut, hnoArgument, rfl⟩)

/-- From any place of any list of tokens, a list of arguments takes the longest run of arguments
there is and answers with its values, one for each integer it has passed, or it refuses the first
token that stands where an argument or a closing bracket is due and is neither. It never misses a
token, also if it is taken argument by argument. -/
theorem arguments_take_run_or_refuse (cursor : Cursor) :
    (∀ values after, cursor.arguments = (.ok values, after) ↔
      ∃ run : ArgumentRun, cursor.TakesRun run after ∧ run.values = values) ∧
    (∀ values after, cursor.arguments = (.ok values, after) →
      ∃ passed, cursor.Passes passed after ∧
        values.length = passed.countP fun token => decide (token.kind = .integer)) ∧
    (∀ error after, cursor.arguments = (.error error, after) ↔
      ∃ (pairs : List (Argument × Leaf .comma)) (token : Token),
        cursor.Refuses pairs token after ∧ .unexpectedToken (.token token) = error) ∧
    (∀ span, cursor.arguments.1 ≠ .error (.missingToken span)) ∧
    cursor.collect = cursor.arguments := by
  refine ⟨fun values after => arguments_eq_ok_iff_takesRun, fun values after h => ?_,
    fun error after => arguments_eq_error_iff_refuses, fun span h => ?_,
    cursor.collect_eq_arguments⟩
  · obtain ⟨run, htakes, rfl⟩ := arguments_eq_ok_iff_takesRun.mp h
    refine ⟨run.tokens, htakes.passes, ?_⟩
    have hlength := congrArg List.length run.integerValues_tokens
    rw [integerValues, List.length_map, List.length_map, ← List.countP_eq_length_filter] at hlength
    exact hlength.symm
  · obtain ⟨pairs, token, -, herror⟩ := arguments_eq_error_iff_refuses.mp (Prod.ext h rfl)
    cases herror

/-- The comma in `1, 2,)` is taken and the bracket is left; in `1, x)` the name is refused, and
taken with what is in front of it. -/
theorem arguments_take_run_or_refuse_commas :
    let one : Token := ⟨.integer, .ofLength 0 1, "1", some 1⟩
    let comma : Token := ⟨.comma, .ofLength 1 1, ",", none⟩
    let two : Token := ⟨.integer, .ofLength 3 1, "2", some 2⟩
    let x : Token := ⟨.keyword, .ofLength 3 1, "x", none⟩
    let closing : Token := ⟨.rightParen, .ofLength 5 1, ")", none⟩
    let trailing := ofTokens [one, comma, two, comma, closing] {}
    let broken := ofTokens [one, comma, x, closing] {}
    (trailing.arguments = (.ok [1, 2], trailing.leaving [closing]) ∧
      (∃ run, trailing.TakesRun run (trailing.leaving [closing]) ∧ run.values = [1, 2]) ∧
      ∃ passed, trailing.Passes passed (trailing.leaving [closing]) ∧
        2 = passed.countP fun token => decide (token.kind = .integer)) ∧
    (broken.arguments = (.error (.unexpectedToken (.token x)), broken.leaving [closing]) ∧
      ∃ pairs token, broken.Refuses pairs token (broken.leaving [closing]) ∧
        ParseError.unexpectedToken (.token token) = .unexpectedToken (.token x)) := by
  refine ⟨⟨rfl, ?_, ?_⟩, rfl, ?_⟩
  · obtain ⟨hok, -⟩ := arguments_take_run_or_refuse (ofTokens _ {})
    exact (hok _ _).mp rfl
  · obtain ⟨-, hcount, -⟩ := arguments_take_run_or_refuse (ofTokens _ {})
    exact hcount [1, 2] _ rfl
  · obtain ⟨-, -, herror, -⟩ := arguments_take_run_or_refuse (ofTokens _ {})
    exact (herror _ _).mp rfl

end Cursor

end CoinConsole
