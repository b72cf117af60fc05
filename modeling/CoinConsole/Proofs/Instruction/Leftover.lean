import CoinConsole.Proofs.Instruction.ViablePrefix

/-!
# What readers leave over

A strict reader and a permissive one read an instruction by the same routine, and differ only in
what they do about the tokens behind it: the strict one refuses the first of them, the permissive
one ignores them all. So both refuse a list of tokens for the same reason, or both read all of it,
or it is a sentence with leftovers (`ReadingCourse`).

A sentence that ends in a bare name is never followed by leftovers: any token behind the name would
have to continue the sentence. Only a token that stands for the end of the line ends a sentence
there and is left over itself (`Derivation.endsInCall_of_stopsBefore`).
-/

namespace CoinConsole

/-- Whether the instruction ends in a call. -/
def Instruction.endsInCall : Instruction → Bool
  | property _ => false
  | call _ _ => true
  | member _ rest => rest.endsInCall

/-- A sentence with something behind it ends in a call, unless that is the end of the line. -/
theorem Derivation.endsInCall_of_stopsBefore {d : Derivation} {token : Token} {rest : List Token}
    (h : d.StopsBefore (token :: rest)) (hkind : token.kind ≠ .endOfInput) :
    d.instruction.endsInCall = true := by
  induction d with
  | property name => exact absurd h hkind
  | call name opening list closing => rfl
  | member name dot inner ih => exact ih h

namespace Grammar

/-! ## What instructions want -/

/-- Arguments are refused for what they are; nothing particular is expected in their place. -/
theorem arguments_ne_expected (kind : TokenKind) (found : Found) (tokens : List Token) :
    (arguments tokens).1 ≠ .error (.expected kind found) := by
  induction tokens using arguments_induction with
  | nothing => simp [arguments_nil]
  | closing c rest => simp [arguments_closing]
  | last a => simp [arguments_last]
  | stop a next rest hcomma => simp [arguments_stop a hcomma]
  | more a comma rest ih =>
    rw [arguments_more]
    intro h
    exact ih (map_eq_error_iff.mp h)
  | refused token rest hclosing hargument => simp [arguments_refused hclosing hargument]

theorem expect_eq_error {kind : TokenKind} {stop : Span} {tokens : List Token}
    {error : ParseError} (h : (expect kind stop tokens).1 = .error error) :
    ∃ found, error = .expected kind found := by
  cases tokens with
  | nil => exact ⟨.nothing stop, (Except.error.inj h).symm⟩
  | cons token rest =>
    by_cases hkind : token.kind = kind
    · rw [expect, if_pos hkind] at h
      cases h
    · rw [expect_ne stop rest hkind] at h
      exact ⟨.token token, (Except.error.inj h).symm⟩

theorem callOf_eq_expected {name : String} {stop : Span} {tokens : List Token} {kind : TokenKind}
    {found : Found} (h : (callOf name stop tokens).1 = .error (.expected kind found)) :
    kind = .rightParen := by
  rw [callOf] at h
  split at h
  · next e rest harguments =>
    obtain rfl := Except.error.inj h
    exact absurd (congrArg Prod.fst harguments) (arguments_ne_expected kind found tokens)
  · next values rest harguments =>
    obtain ⟨found', herror⟩ := expect_eq_error (map_eq_error_iff.mp h)
    cases herror
    rfl

/-- The only token an instruction may want in place of another is a closing bracket. So the end of
the line is never what it wants. -/
theorem instruction_eq_expected {stop : Span} {tokens : List Token} {kind : TokenKind}
    {found : Found} (h : (instruction stop tokens).1 = .error (.expected kind found)) :
    kind = .rightParen := by
  induction tokens using instruction_induction with
  | nothing => simp [instruction, chain_nil] at h
  | noName token rest hname => simp [instruction, chain_noName stop [] hname] at h
  | ended name rest hend => simp [instruction, chain_ended stop [] name hend] at h
  | call name opening rest =>
    rw [instruction_call] at h
    exact callOf_eq_expected h
  | member name dot rest ih =>
    rw [instruction_member] at h
    exact ih (map_eq_error_iff.mp h)
  | unexpected name next rest hopening hdot hend =>
    simp [instruction, chain_unexpected stop [] name hopening hdot hend] at h

/-! ## What readers do behind an instruction -/

section

variable {stop : Span} {tokens rest : List Token} {result : Instruction} {error : ParseError}

theorem command_of_error (options : ParserOptions)
    (h : (instruction stop tokens).1 = .error error) :
    (command options stop tokens).1 = .error error := by
  have hread : instruction stop tokens = (.error error, (instruction stop tokens).2) :=
    Prod.ext h rfl
  rw [command, hread]

theorem command_permissive_of_ok (h : instruction stop tokens = (.ok result, rest)) :
    (command (.forMode .permissive) stop tokens).1 = .ok result := by
  rw [command, h]
  cases rest <;> rfl

theorem command_strict_of_leftover {token : Token}
    (h : instruction stop tokens = (.ok result, token :: rest)) :
    (command (.forMode .strict) stop tokens).1 =
      .error (.expected .endOfInput (.token token)) := by
  rw [command, h]
  rfl

end

end Grammar

theorem parse_of_command {tokens : List Token} {mode : ParseMode}
    {outcome : Except ParseError Instruction}
    (h : (Grammar.command (.forMode mode) (endSpan tokens) tokens).1 = outcome) :
    parse tokens none (some mode) = outcome.mapError .parse := by
  subst h
  simp only [parse, ParserOptions.resolve]
  cases (Grammar.command (.forMode mode) (endSpan tokens) tokens).1 <;> rfl

/-! ## Two readers of one line -/

/-- How a strict and a permissive reader take a list of tokens: both refuse it, both read all of
it, or it is a sentence with leftovers, which only the permissive one reads. -/
inductive ReadingCourse (tokens : List Token) : Prop
  | refused (error : ParseError) (noEnd : ∀ found, error ≠ .expected .endOfInput found)
      (strict : parse tokens none (some .strict) = .error (.parse error))
      (permissive : parse tokens none (some .permissive) = .error (.parse error))
  | whole (d : Derivation) (strict : parse tokens none (some .strict) = .ok d.instruction)
      (permissive : parse tokens none (some .permissive) = .ok d.instruction)
  | leftover (d : Derivation) (token : Token) (rest : List Token)
      (cut : tokens = d.yield ++ token :: rest) (stops : d.StopsBefore (token :: rest))
      (strict : parse tokens none (some .strict) =
        .error (.parse (.expected .endOfInput (.token token))))
      (permissive : parse tokens none (some .permissive) = .ok d.instruction)

/-- Every list of tokens is taken in one of these ways. -/
theorem readingCourse (tokens : List Token) : ReadingCourse tokens := by
  cases hread : Grammar.instruction (endSpan tokens) tokens with
  | mk outcome rest =>
    cases outcome with
    | error error =>
      have herror : (Grammar.instruction (endSpan tokens) tokens).1 = .error error := by rw [hread]
      refine .refused error ?_ (parse_of_command (Grammar.command_of_error _ herror))
        (parse_of_command (Grammar.command_of_error _ herror))
      rintro found rfl
      exact absurd (Grammar.instruction_eq_expected herror) (by decide)
    | ok result =>
      have hpermissive := parse_of_command (Grammar.command_permissive_of_ok hread)
      obtain ⟨d, hcut, rfl, hstops⟩ := Grammar.exists_derivation_of_ok hread
      cases rest with
      | nil =>
        rw [List.append_nil] at hcut
        exact .whole d (parse_strict_eq_ok_iff.mpr ⟨d, hcut.symm, rfl⟩) hpermissive
      | cons token rest =>
        exact .leftover d token rest hcut hstops
          (parse_of_command (Grammar.command_strict_of_leftover hread)) hpermissive

/-- The token is the first one left over behind the instruction `result`: the tokens in front of it
are all of the sentence, and with it they start no sentence any more. The instruction ends in a
call, unless a token stands for the end of the line. -/
structure LeavesOver (tokens : List Token) (token : Token) (result : Instruction) : Prop where
  cut : ∃ front back, tokens = front ++ token :: back ∧
    IsFirstSpoiled tokens front.length ∧ parse front none (some .strict) = .ok result
  endsInCall : (∀ other ∈ tokens, other.kind ≠ .endOfInput) → result.endsInCall = true

theorem leavesOver_of_stopsBefore {d : Derivation} {token : Token} {rest : List Token}
    (h : d.StopsBefore (token :: rest)) :
    LeavesOver (d.yield ++ token :: rest) token d.instruction := by
  refine ⟨⟨d.yield, rest, rfl, ?_, parse_strict_eq_ok_iff.mpr ⟨d, rfl, rfl⟩⟩, fun hkinds => ?_⟩
  · exact isFirstSpoiled_append rest ⟨d, List.prefix_rfl⟩ (not_isViable_of_stopsBefore h)
  · exact d.endsInCall_of_stopsBefore h (hkinds token (by simp))

/-- The two readers agree except on leftovers. What the strict reader reads, the permissive one
reads; what the strict one refuses for any reason but a leftover token, the permissive one refuses
for the same reason. When a token is left over, the permissive reader answers with the instruction
that is all of the tokens in front of it. There is nothing else that a permissive reader reads. -/
theorem parse_permissive_eq_except_leftover (tokens : List Token) :
    (∀ result, parse tokens none (some .strict) = .ok result →
      parse tokens none (some .permissive) = .ok result) ∧
    (∀ failure, parse tokens none (some .strict) = .error failure →
      (∀ token, failure ≠ .parse (.expected .endOfInput (.token token))) →
      parse tokens none (some .permissive) = .error failure) ∧
    (∀ token, parse tokens none (some .strict) =
        .error (.parse (.expected .endOfInput (.token token))) →
      ∃ result, parse tokens none (some .permissive) = .ok result ∧
        LeavesOver tokens token result) ∧
    (∀ result, parse tokens none (some .permissive) = .ok result →
      parse tokens none (some .strict) = .ok result ∨
        ∃ token, parse tokens none (some .strict) =
            .error (.parse (.expected .endOfInput (.token token))) ∧
          LeavesOver tokens token result) := by
  cases readingCourse tokens with
  | refused error hnoEnd hstrict hpermissive =>
    rw [hstrict, hpermissive]
    refine ⟨fun result h => ?_, fun failure h _ => h, fun token h => ?_, fun result h => ?_⟩
    · cases h
    · cases h
      exact absurd rfl (hnoEnd _)
    · cases h
  | whole d hstrict hpermissive =>
    rw [hstrict, hpermissive]
    refine ⟨fun result h => h, fun failure h _ => ?_, fun token h => ?_, fun result h => .inl h⟩
    · cases h
    · cases h
  | leftover d token rest hcut hstops hstrict hpermissive =>
    rw [hstrict, hpermissive]
    have hleaves : LeavesOver tokens token d.instruction := by
      rw [hcut]
      exact leavesOver_of_stopsBefore hstops
    refine ⟨fun result h => ?_, fun failure h hother => ?_, fun other h => ?_, fun result h => ?_⟩
    · cases h
    · cases h
      exact absurd rfl (hother token)
    · cases h
      exact ⟨d.instruction, rfl, hleaves⟩
    · cases h
      exact .inr ⟨token, rfl, hleaves⟩

/-- A name behind a call is left over. Behind a bare name only a token that stands for the end of
the line is; any other is refused by both readers. -/
theorem parse_permissive_name_behind_call :
    let f : Token := ⟨.keyword, .ofLength 0 1, "f", none⟩
    let opening : Token := ⟨.leftParen, .ofLength 1 1, "(", none⟩
    let closing : Token := ⟨.rightParen, .ofLength 2 1, ")", none⟩
    let x : Token := ⟨.keyword, .ofLength 4 1, "x", none⟩
    let ending : Token := ⟨.endOfInput, .ofLength 1 0, "", none⟩
    (parse [f, opening, closing, x] none (some .strict) =
        .error (.parse (.expected .endOfInput (.token x))) ∧
      parse [f, opening, closing, x] none (some .permissive) = .ok (.call "f" []) ∧
      LeavesOver [f, opening, closing, x] x (.call "f" [])) ∧
    (parse [f, x] none (some .strict) = .error (.parse (.unexpectedToken (.token x))) ∧
      parse [f, x] none (some .permissive) = .error (.parse (.unexpectedToken (.token x)))) ∧
    (parse [f, ending] none (some .permissive) = .ok (.property "f") ∧
      LeavesOver [f, ending] ending (.property "f")) := by
  intro f opening closing x ending
  obtain ⟨-, -, hleftover, -⟩ := parse_permissive_eq_except_leftover [f, opening, closing, x]
  obtain ⟨-, hrefused, -, -⟩ := parse_permissive_eq_except_leftover [f, x]
  obtain ⟨-, -, -, hread⟩ := parse_permissive_eq_except_leftover [f, ending]
  refine ⟨⟨rfl, rfl, ?_⟩, ⟨rfl, hrefused _ rfl (by simp)⟩, ⟨rfl, ?_⟩⟩
  · obtain ⟨result, hresult, hleaves⟩ := hleftover x rfl
    cases hresult
    exact hleaves
  · rcases hread _ rfl with hstrict | ⟨token, hstrict, hleaves⟩
    · cases hstrict
    · cases hstrict
      exact hleaves

end CoinConsole
