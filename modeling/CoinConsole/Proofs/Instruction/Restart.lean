import CoinConsole.Proofs.Instruction.Descent

/-!
# Cursors that start again

A cursor is asked for one thing after another, and goes on after a failure as after a success
(`Request`, `Cursor.performAll`). Whatever it is asked for, it only moves forward and stays within
its list of tokens.

It also remembers nothing of the tokens it has passed. From its position on it answers like a new
cursor on the tokens that are left, and takes as many of them (`Cursor.Restarts`). When none are
left, the two may tell the end of the line by different spans; that is all.

Both hold because the routines of the grammar take tokens off the front, and use the span for the
end of the line in their errors only (`Grammar.IsLocal`).
-/

namespace CoinConsole

/-! ## The end of the line in errors -/

/-- What was met, where the end of the line is `stop`. -/
def Found.endingAt (stop : Span) : Found → Found
  | token t => token t
  | nothing _ => nothing stop

/-- The error, where the end of the line is `stop`. -/
def ParseError.endingAt (stop : Span) : ParseError → ParseError
  | missingToken _ => missingToken stop
  | unexpectedToken found => unexpectedToken (found.endingAt stop)
  | expected kind found => expected kind (found.endingAt stop)

namespace Grammar

/-! ## Routines -/

/-- A routine that takes something off the front of the tokens. -/
abbrev Routine (α : Type) := Span → List Token → Except ParseError α × List Token

/-- The routine leaves the last ones of its tokens, and the span for the end of the line shows in
its errors only. -/
structure IsLocal {α : Type} (routine : Routine α) : Prop where
  suffix : ∀ stop tokens, (routine stop tokens).2 <:+ tokens
  eq_endingAt : ∀ stop other tokens, routine stop tokens =
    ((routine other tokens).1.mapError (ParseError.endingAt stop), (routine other tokens).2)

section

variable {α β : Type} {routine : Routine α}

/-- A routine whose result is changed afterwards. -/
theorem IsLocal.map (h : IsLocal routine) (f : α → β) :
    IsLocal fun stop tokens => ((routine stop tokens).1.map f, (routine stop tokens).2) where
  suffix := h.suffix
  eq_endingAt stop other tokens := by rw [h.eq_endingAt stop other tokens, mapError_map]

/-- A routine that never fails. -/
theorem isLocal_ok {answer : List Token → α} {left : List Token → List Token}
    (h : ∀ tokens, left tokens <:+ tokens) :
    IsLocal fun _ tokens => (.ok (answer tokens), left tokens) where
  suffix _ := h
  eq_endingAt _ _ _ := rfl

/-- A routine that goes on with the result of another one, if there is one. -/
def andThen (routine : Routine α) (next : α → Routine β) : Routine β := fun stop tokens =>
  match routine stop tokens with
  | (.error e, rest) => (.error e, rest)
  | (.ok a, rest) => next a stop rest

theorem IsLocal.andThen (h : IsLocal routine) {next : α → Routine β}
    (hnext : ∀ a, IsLocal (next a)) : IsLocal (andThen routine next) := by
  constructor
  · intro stop tokens
    have hsuffix := h.suffix stop tokens
    rw [Grammar.andThen]
    rcases hread : routine stop tokens with ⟨e | a, rest⟩
    · rwa [hread] at hsuffix
    · rw [hread] at hsuffix
      exact ((hnext a).suffix stop rest).trans hsuffix
  · intro stop other tokens
    rw [Grammar.andThen, Grammar.andThen, h.eq_endingAt stop other tokens]
    rcases routine other tokens with ⟨e | a, rest⟩
    · rfl
    · exact (hnext a).eq_endingAt stop other rest

end

/-! ## The routines of the grammar are local -/

theorem isLocal_expect (kind : TokenKind) : IsLocal (expect kind) := by
  constructor
  · intro stop tokens
    cases tokens with
    | nil => exact List.nil_suffix
    | cons token rest =>
      rw [expect]
      split
      · exact List.suffix_cons token rest
      · exact List.suffix_rfl
  · intro stop other tokens
    cases tokens with
    | nil => rfl
    | cons token rest =>
      rw [expect, expect]
      split <;> rfl

theorem isLocal_argument : IsLocal argument := by
  constructor
  · intro stop tokens
    cases tokens with
    | nil => exact List.nil_suffix
    | cons token rest =>
      rw [argument]
      split <;> exact List.suffix_cons token rest
  · intro stop other tokens
    cases tokens with
    | nil => rfl
    | cons token rest =>
      rw [argument, argument]
      split <;> rfl

/-- Lists of arguments fail at tokens and never at the end of the line. -/
theorem arguments_endingAt (stop : Span) (tokens : List Token) :
    (arguments tokens).1 = (arguments tokens).1.mapError (ParseError.endingAt stop) := by
  induction tokens using arguments_induction with
  | nothing => rw [arguments_nil]; rfl
  | closing c rest => rw [arguments_closing]; rfl
  | last a => rw [arguments_last]; rfl
  | stop a next rest hcomma => rw [arguments_stop a hcomma]; rfl
  | more a comma rest ih => rw [arguments_more, mapError_map, ← ih]
  | refused token rest hclosing hargument => rw [arguments_refused hclosing hargument]; rfl

theorem isLocal_arguments : IsLocal fun _ => arguments where
  suffix _ := arguments_suffix
  eq_endingAt stop _ tokens := Prod.ext (arguments_endingAt stop tokens) rfl

theorem callOf_eq_andThen (name : String) :
    callOf name = andThen (fun _ => arguments) fun values stop tokens =>
      ((expect .rightParen stop tokens).1.map fun _ => .call name values,
        (expect .rightParen stop tokens).2) := by
  funext stop tokens
  rw [callOf, andThen]
  rcases arguments tokens with ⟨e | values, rest⟩ <;> rfl

theorem isLocal_callOf (name : String) : IsLocal (callOf name) := by
  rw [callOf_eq_andThen]
  exact isLocal_arguments.andThen fun values => (isLocal_expect .rightParen).map _

theorem instruction_suffix (stop : Span) (tokens : List Token) :
    (instruction stop tokens).2 <:+ tokens := by
  induction tokens using instruction_induction with
  | nothing => simp [instruction, chain_nil]
  | noName token rest hname =>
    rw [instruction, chain_noName _ _ hname]
    exact List.suffix_cons token rest
  | ended name rest hend =>
    rw [instruction, chain_ended _ _ name hend]
    exact List.suffix_cons name.token rest
  | call name opening rest =>
    rw [instruction_call]
    exact ((isLocal_callOf name.token.text).suffix stop rest).trans
      ⟨[name.token, opening.token], rfl⟩
  | member name dot rest ih =>
    rw [instruction_member]
    exact ih.trans ⟨[name.token, dot.token], rfl⟩
  | unexpected name next rest hopening hdot hend =>
    rw [instruction, chain_unexpected _ _ name hopening hdot hend]
    exact List.suffix_cons name.token (next :: rest)

theorem isLocal_instruction : IsLocal instruction where
  suffix := instruction_suffix
  eq_endingAt stop other tokens := by
    induction tokens using instruction_induction with
    | nothing => simp only [instruction, chain_nil]; rfl
    | noName token rest hname => simp only [instruction, chain_noName _ _ hname]; rfl
    | ended name rest hend => simp only [instruction, chain_ended _ _ name hend]; rfl
    | call name opening rest =>
      rw [instruction_call, instruction_call]
      exact (isLocal_callOf name.token.text).eq_endingAt stop other rest
    | member name dot rest ih => rw [instruction_member, instruction_member, ih, mapError_map]
    | unexpected name next rest hopening hdot hend =>
      simp only [instruction, chain_unexpected _ _ name hopening hdot hend]
      rfl

theorem isLocal_finish (options : ParserOptions) :
    IsLocal fun _ tokens => (finish options tokens, tokens) where
  suffix _ _ := List.suffix_rfl
  eq_endingAt stop _ tokens := by
    cases tokens with
    | nil => rfl
    | cons token rest =>
      rw [finish]
      split <;> rfl

theorem command_eq_andThen (options : ParserOptions) :
    command options = andThen instruction fun result _ tokens =>
      ((finish options tokens).map fun _ => result, tokens) := by
  funext stop tokens
  rw [command, andThen]
  rcases instruction stop tokens with ⟨e | result, rest⟩ <;> rfl

theorem isLocal_command (options : ParserOptions) : IsLocal (command options) := by
  rw [command_eq_andThen]
  exact isLocal_instruction.andThen fun result => (isLocal_finish options).map _

end Grammar

/-! ## Requests -/

/-- What a cursor can be asked for. -/
inductive Request
  | bump
  | isAt (kind : TokenKind)
  | eat (kind : TokenKind)
  | expect (kind : TokenKind)
  | finish
  | argument
  | arguments
  | instruction
  | command

/-- What a cursor answers if it does not fail. -/
inductive Answer
  | nothing
  | flag (holds : Bool)
  | next (token : Option Token)
  | token (token : Token)
  | integer (value : Int)
  | integers (values : List Int)
  | instruction (instruction : Instruction)
deriving DecidableEq

namespace Cursor

/-- Carries out a request. -/
def perform (cursor : Cursor) : Request → Except ParseError Answer × Cursor
  | .bump => (.ok (.next cursor.bump.1), cursor.bump.2)
  | .isAt kind => (.ok (.flag (cursor.isAt kind)), cursor)
  | .eat kind => (.ok (.flag (cursor.eat kind).1), (cursor.eat kind).2)
  | .expect kind => ((cursor.expect kind).1.map .token, (cursor.expect kind).2)
  | .finish => (cursor.finish.map fun _ => .nothing, cursor)
  | .argument => (cursor.argument.1.map .integer, cursor.argument.2)
  | .arguments => (cursor.arguments.1.map .integers, cursor.arguments.2)
  | .instruction => (cursor.instruction.1.map .instruction, cursor.instruction.2)
  | .command => (cursor.command.1.map .instruction, cursor.command.2)

/-- Carries out one request after another, also behind a failure. -/
def performAll (cursor : Cursor) : List Request → List (Except ParseError Answer) × Cursor
  | [] => ([], cursor)
  | request :: requests =>
    let outcome := cursor.perform request
    let later := outcome.2.performAll requests
    (outcome.1 :: later.1, later.2)

end Cursor

namespace Request

/-- The routine that a cursor with the given options runs for a request. -/
def routine (options : ParserOptions) : Request → Grammar.Routine Answer
  | bump => fun _ tokens => (.ok (.next tokens.head?), tokens.tail)
  | isAt kind => fun _ tokens => (.ok (.flag (decide (Grammar.nextKind tokens = kind))), tokens)
  | eat kind => fun _ tokens => (.ok (.flag (decide (Grammar.nextKind tokens = kind))),
      if Grammar.nextKind tokens = kind then tokens.tail else tokens)
  | expect kind => fun stop tokens =>
      ((Grammar.expect kind stop tokens).1.map .token, (Grammar.expect kind stop tokens).2)
  | finish => fun _ tokens => ((Grammar.finish options tokens).map fun _ => .nothing, tokens)
  | argument => fun stop tokens =>
      ((Grammar.argument stop tokens).1.map .integer, (Grammar.argument stop tokens).2)
  | arguments => fun _ tokens =>
      ((Grammar.arguments tokens).1.map .integers, (Grammar.arguments tokens).2)
  | instruction => fun stop tokens =>
      ((Grammar.instruction stop tokens).1.map .instruction, (Grammar.instruction stop tokens).2)
  | command => fun stop tokens =>
      ((Grammar.command options stop tokens).1.map .instruction,
        (Grammar.command options stop tokens).2)

theorem isLocal_routine (options : ParserOptions) (request : Request) :
    Grammar.IsLocal (request.routine options) := by
  cases request with
  | bump => exact Grammar.isLocal_ok fun tokens => List.tail_suffix tokens
  | isAt kind => exact Grammar.isLocal_ok fun tokens => List.suffix_rfl
  | eat kind =>
    refine Grammar.isLocal_ok fun tokens => ?_
    split
    · exact List.tail_suffix tokens
    · exact List.suffix_rfl
  | expect kind => exact (Grammar.isLocal_expect kind).map _
  | finish => exact (Grammar.isLocal_finish options).map _
  | argument => exact Grammar.isLocal_argument.map _
  | arguments => exact Grammar.isLocal_arguments.map _
  | instruction => exact Grammar.isLocal_instruction.map _
  | command => exact (Grammar.isLocal_command options).map _

/-- The requests that take nothing when they fail. -/
def keepsPlace : Request → Bool
  | expect _ => true
  | finish => true
  | _ => false

end Request

namespace Cursor

theorem perform_eq_run (cursor : Cursor) (request : Request) :
    cursor.perform request = cursor.run (request.routine cursor.options) := by
  -- a request that takes nothing leaves what was left
  have hstays {α : Type} (x : α) : (x, cursor) = (x, cursor.leaving cursor.rest) := by
    rw [leaving_rest]
  cases request with
  | isAt kind => exact hstays _
  | finish => exact hstays _
  | eat kind =>
    by_cases hkind : cursor.currentKind = kind
    · have hnext : Grammar.nextKind cursor.rest = kind := hkind
      simp [perform, eat, isAt, run, Request.routine, hkind, hnext, bump]
    · have hnext : ¬ Grammar.nextKind cursor.rest = kind := hkind
      simp [perform, eat, isAt, run, Request.routine, hkind, hnext, leaving_rest]
  | _ => rfl

/-! ## Moving forward -/

/-- From `before` to `after`, the cursor passes the tokens `passed` and nothing else changes. -/
structure Passes (before : Cursor) (passed : List Token) (after : Cursor) : Prop where
  tokens_eq : after.tokens = before.tokens
  options_eq : after.options = before.options
  rest_eq : before.rest = passed ++ after.rest
  position_eq : after.position = before.position + passed.length

theorem length_rest (cursor : Cursor) :
    cursor.position + cursor.rest.length = cursor.tokens.length := by
  have hle := cursor.position_le
  rw [rest, List.length_drop]
  omega

theorem passes_refl (cursor : Cursor) : cursor.Passes [] cursor := ⟨rfl, rfl, rfl, rfl⟩

theorem Passes.trans {first second third : Cursor} {front back : List Token}
    (h : first.Passes front second) (hnext : second.Passes back third) :
    first.Passes (front ++ back) third where
  tokens_eq := hnext.tokens_eq.trans h.tokens_eq
  options_eq := hnext.options_eq.trans h.options_eq
  rest_eq := by rw [h.rest_eq, hnext.rest_eq, List.append_assoc]
  position_eq := by rw [hnext.position_eq, h.position_eq, List.length_append, Nat.add_assoc]

theorem passes_leaving {cursor : Cursor} {passed left : List Token}
    (h : cursor.rest = passed ++ left) : cursor.Passes passed (cursor.leaving left) where
  tokens_eq := rfl
  options_eq := rfl
  rest_eq := by rw [rest_leaving (h ▸ List.suffix_append passed left), h]
  position_eq := by
    have hlength := cursor.length_rest
    rw [h, List.length_append] at hlength
    simp only [leaving]
    omega

theorem exists_passes_perform (cursor : Cursor) (request : Request) :
    ∃ passed, cursor.Passes passed (cursor.perform request).2 := by
  rw [perform_eq_run]
  obtain ⟨passed, hpassed⟩ :=
    (request.isLocal_routine cursor.options).suffix cursor.endSpan cursor.rest
  exact ⟨passed, passes_leaving hpassed.symm⟩

theorem exists_passes_performAll (cursor : Cursor) (requests : List Request) :
    ∃ passed, cursor.Passes passed (cursor.performAll requests).2 := by
  induction requests generalizing cursor with
  | nil => exact ⟨[], cursor.passes_refl⟩
  | cons request requests ih =>
    obtain ⟨front, hfront⟩ := cursor.exists_passes_perform request
    obtain ⟨back, hback⟩ := ih (cursor.perform request).2
    exact ⟨front ++ back, hfront.trans hback⟩

theorem current_eq_none_iff {cursor : Cursor} :
    cursor.current = none ↔ cursor.position = cursor.tokens.length := by
  have hlength := cursor.length_rest
  rw [current, List.head?_eq_none_iff, ← List.length_eq_zero_iff]
  omega

/-- What fails to be there, is not taken. -/
theorem perform_snd_of_error {cursor : Cursor} {request : Request} {error : ParseError}
    (hkeeps : request.keepsPlace = true) (h : (cursor.perform request).1 = .error error) :
    (cursor.perform request).2 = cursor := by
  cases request with
  | finish => rfl
  | expect kind =>
    have herror : (Grammar.expect kind cursor.endSpan cursor.rest).1 = .error error :=
      map_eq_error_iff.mp h
    have hleft : (Grammar.expect kind cursor.endSpan cursor.rest).2 = cursor.rest := by
      cases hrest : cursor.rest with
      | nil => rfl
      | cons token rest =>
        rw [hrest, Grammar.expect] at herror
        rw [Grammar.expect]
        split at herror
        · cases herror
        · next hkind => rw [if_neg hkind]
    show cursor.leaving (Grammar.expect kind cursor.endSpan cursor.rest).2 = cursor
    rw [hleft, leaving_rest]
  | _ => cases hkeeps

/-! ## Starting again -/

/-- `fresh` stands at the place of `cursor`, in the tokens that are left from `offset` on. -/
structure Restarts (offset : Nat) (cursor fresh : Cursor) : Prop where
  tokens_eq : fresh.tokens = cursor.tokens.drop offset
  options_eq : fresh.options = cursor.options
  position_eq : cursor.position = offset + fresh.position

/-- A new cursor on the tokens that are left. -/
theorem restarts_ofTokens (cursor : Cursor) :
    cursor.Restarts cursor.position
      (ofTokens (cursor.tokens.drop cursor.position) cursor.options) :=
  ⟨rfl, rfl, rfl⟩

theorem endSpan_drop {tokens : List Token} {offset : Nat} (h : offset < tokens.length) :
    CoinConsole.endSpan (tokens.drop offset) = CoinConsole.endSpan tokens := by
  rw [CoinConsole.endSpan, List.getLast?_drop, if_neg (Nat.not_le_of_lt h)]
  rfl

section

variable {offset : Nat} {cursor fresh : Cursor} (h : Restarts offset cursor fresh)

include h

theorem Restarts.rest_eq : fresh.rest = cursor.rest := by
  rw [rest, rest, h.tokens_eq, List.drop_drop, h.position_eq]

theorem Restarts.endSpan_eq (hoffset : offset < cursor.tokens.length) :
    fresh.endSpan = cursor.endSpan := by
  rw [endSpan, endSpan, h.tokens_eq, endSpan_drop hoffset]

/-- The two stay together when the same tokens are left of both. -/
theorem Restarts.leaving {left : List Token} (hleft : left <:+ cursor.rest) :
    Restarts offset (cursor.leaving left) (fresh.leaving left) where
  tokens_eq := h.tokens_eq
  options_eq := h.options_eq
  position_eq := by
    have hlength := hleft.length_le
    have hrest := cursor.length_rest
    have hposition := h.position_eq
    simp only [Cursor.leaving, h.tokens_eq, List.length_drop]
    omega

theorem Restarts.perform (request : Request) :
    (cursor.perform request).1 =
        (fresh.perform request).1.mapError (ParseError.endingAt cursor.endSpan) ∧
      Restarts offset (cursor.perform request).2 (fresh.perform request).2 := by
  have hlocal := request.isLocal_routine cursor.options
  have hsuffix := hlocal.suffix fresh.endSpan cursor.rest
  simp only [perform_eq_run, run, h.options_eq, h.rest_eq]
  rw [hlocal.eq_endingAt cursor.endSpan fresh.endSpan cursor.rest]
  exact ⟨rfl, h.leaving hsuffix⟩

/-- Behind the first token of the list, not even the span for the end of the line differs. -/
theorem Restarts.perform_fst_eq (hoffset : offset < cursor.tokens.length) (request : Request) :
    (cursor.perform request).1 = (fresh.perform request).1 := by
  simp only [perform_eq_run, run, h.options_eq, h.rest_eq, h.endSpan_eq hoffset]

theorem Restarts.performAll (requests : List Request) :
    (cursor.performAll requests).1 =
        (fresh.performAll requests).1.map (Except.mapError (ParseError.endingAt cursor.endSpan)) ∧
      Restarts offset (cursor.performAll requests).2 (fresh.performAll requests).2 := by
  induction requests generalizing cursor fresh with
  | nil => exact ⟨rfl, h⟩
  | cons request requests ih =>
    obtain ⟨hfirst, hnext⟩ := h.perform request
    obtain ⟨hlater, hlast⟩ := ih hnext
    obtain ⟨passed, hpassed⟩ := cursor.exists_passes_perform request
    -- the list of tokens stays the same, and with it the end of the line
    have hspan : (cursor.perform request).2.endSpan = cursor.endSpan := by
      rw [endSpan, endSpan, hpassed.tokens_eq]
    rw [hspan] at hlater
    simp only [Cursor.performAll, List.map_cons]
    exact ⟨by rw [hfirst, hlater], hlast⟩

theorem Restarts.performAll_fst_eq (hoffset : offset < cursor.tokens.length)
    (requests : List Request) : (cursor.performAll requests).1 = (fresh.performAll requests).1 := by
  induction requests generalizing cursor fresh with
  | nil => rfl
  | cons request requests ih =>
    obtain ⟨passed, hpassed⟩ := cursor.exists_passes_perform request
    have hlater := ih (h.perform request).2 (hpassed.tokens_eq ▸ hoffset)
    simp only [Cursor.performAll]
    rw [h.perform_fst_eq hoffset request, hlater]

end

/-! ## Main result -/

/-- A cursor that has carried out any requests, and is asked for any others, moves forward only and
stays within its tokens; it has no next token only behind the last one; and a token that it fails to
find, or finds left over, it does not take.

It answers like a new cursor on the tokens that are left, and takes as many of them. If none are
left, errors at the end of the line may point to another place, and nothing else may differ. -/
theorem performAll_bounded_and_restarts (tokens : List Token) (options : ParserOptions)
    (requests later : List Request) :
    let cursor := ((ofTokens tokens options).performAll requests).2
    let outcome := cursor.performAll later
    let fresh := (ofTokens (tokens.drop cursor.position) options).performAll later
    (cursor.position ≤ outcome.2.position ∧ outcome.2.position ≤ tokens.length) ∧
    (cursor.current = none ↔ cursor.position = tokens.length) ∧
    (∀ request error, request.keepsPlace = true → (cursor.perform request).1 = .error error →
      (cursor.perform request).2.position = cursor.position) ∧
    outcome.2.position = cursor.position + fresh.2.position ∧
    (cursor.position < tokens.length → outcome.1 = fresh.1) ∧
    outcome.1 =
      fresh.1.map (Except.mapError (ParseError.endingAt (CoinConsole.endSpan tokens))) := by
  intro cursor outcome fresh
  obtain ⟨front, hfront⟩ := (ofTokens tokens options).exists_passes_performAll requests
  obtain ⟨back, hback⟩ := cursor.exists_passes_performAll later
  have htokens : cursor.tokens = tokens := hfront.tokens_eq
  have hoptions : cursor.options = options := hfront.options_eq
  have hrestarts : cursor.Restarts cursor.position
      (ofTokens (tokens.drop cursor.position) options) := by
    rw [← htokens, ← hoptions]
    exact cursor.restarts_ofTokens
  obtain ⟨hanswers, hlast⟩ := hrestarts.performAll later
  refine ⟨⟨?_, ?_⟩, ?_, ?_, ?_, ?_, ?_⟩
  · exact hback.position_eq ▸ Nat.le_add_right cursor.position back.length
  · have hle : outcome.2.position ≤ outcome.2.tokens.length := outcome.2.position_le
    rwa [hback.tokens_eq, htokens] at hle
  · rw [← htokens]
    exact current_eq_none_iff
  · intro request error hkeeps herror
    rw [perform_snd_of_error hkeeps herror]
  · exact hlast.position_eq
  · intro hposition
    exact hrestarts.performAll_fst_eq (htokens.symm ▸ hposition) later
  · rw [← htokens]
    exact hanswers

/-- In front of the bracket that is missing in `f(1 2`, a cursor keeps its place. Behind the last
token it misses the bracket at the end of the line, and a new cursor misses it at zero. -/
theorem performAll_bounded_and_restarts_missing_bracket :
    let f : Token := ⟨.keyword, .ofLength 0 1, "f", none⟩
    let opening : Token := ⟨.leftParen, .ofLength 1 1, "(", none⟩
    let one : Token := ⟨.integer, .ofLength 2 1, "1", some 1⟩
    let two : Token := ⟨.integer, .ofLength 4 1, "2", some 2⟩
    let tokens := [f, opening, one, two]
    let missing : Request := .expect .rightParen
    let later := [.arguments, missing, .argument, missing]
    let inside := ((ofTokens tokens {}).performAll [.bump, .bump]).2
    let behind := ((ofTokens tokens {}).performAll [.bump, .bump, .arguments, .argument]).2
    (inside.position < tokens.length ∧
      (inside.performAll later).1 =
        [.ok (.integers [1]), .error (.expected .rightParen (.token two)), .ok (.integer 2),
          .error (.expected .rightParen (.nothing (.empty 5)))] ∧
      (inside.performAll later).1 =
        ((ofTokens (tokens.drop inside.position) {}).performAll later).1) ∧
    ((behind.perform missing).1 = .error (.expected .rightParen (.nothing (.empty 5))) ∧
      (behind.perform missing).2.position = behind.position ∧
      ((ofTokens (tokens.drop behind.position) {}).perform missing).1 =
        .error (.expected .rightParen (.nothing (.empty 0))) ∧
      (behind.performAll [missing]).1 =
        ((ofTokens (tokens.drop behind.position) {}).performAll [missing]).1.map
          (Except.mapError (ParseError.endingAt (.empty 5)))) := by
  refine ⟨⟨by decide, rfl, ?_⟩, rfl, ?_, rfl, ?_⟩
  · obtain ⟨-, -, -, -, hfresh, -⟩ := performAll_bounded_and_restarts _ {} [.bump, .bump] _
    exact hfresh (by decide)
  · obtain ⟨-, -, hkeeps, -⟩ :=
      performAll_bounded_and_restarts _ {} [.bump, .bump, .arguments, .argument] []
    exact hkeeps (.expect .rightParen) _ rfl rfl
  · obtain ⟨-, -, -, -, -, hspan⟩ := performAll_bounded_and_restarts _ {}
      [.bump, .bump, .arguments, .argument] [.expect .rightParen]
    exact hspan

end Cursor

end CoinConsole
