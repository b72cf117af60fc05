import CoinConsole.Instruction.Cursor
import CoinConsole.Proofs.Instruction.Reading

/-!
# Instructions by recursive descent

A dot makes the grammar of instructions recursive, and a cursor can follow it to the letter: behind
a dot it takes the rest of the instruction in the same way (`Cursor.descend`). The reader of
instructions does not recurse. It walks over the names in a loop and puts them around the end of the
instruction when that is reached.

The two do the same at every place of every list of tokens, also when they fail in the middle of a
chain of names: the results and the errors agree, and so do the places at which they stop
(`Cursor.descend_eq_run`). The grammar routines know no places, only the tokens that are
left; a cursor finds its place again because these are always the last ones of its list.
-/

namespace CoinConsole

/-! ## The tokens that are left -/

namespace Grammar

theorem arguments_suffix (tokens : List Token) : (arguments tokens).2 <:+ tokens := by
  induction tokens using arguments_induction with
  | nothing => simp only [arguments_nil, List.suffix_rfl]
  | closing c rest => simp only [arguments_closing, List.suffix_rfl]
  | last a =>
    rw [arguments_last]
    exact List.nil_suffix
  | stop a next rest hcomma =>
    rw [arguments_stop a hcomma]
    exact List.suffix_cons _ _
  | more a comma rest ih =>
    rw [arguments_more]
    exact ih.trans ((List.suffix_cons _ _).trans (List.suffix_cons _ _))
  | refused token rest hclosing hargument =>
    rw [arguments_refused hclosing hargument]
    exact List.suffix_cons _ _

end Grammar

namespace Cursor

variable {cursor : Cursor} {rest : List Token}

theorem leaving_rest (cursor : Cursor) : cursor.leaving cursor.rest = cursor := by
  have hposition : cursor.tokens.length - cursor.rest.length = cursor.position := by
    have hle := cursor.position_le
    rw [Cursor.rest, List.length_drop]
    omega
  simp only [leaving, hposition]

/-- A cursor that leaves the last ones of the tokens it had stands in front of these. -/
theorem rest_leaving (h : rest <:+ cursor.rest) : (cursor.leaving rest).rest = rest :=
  (List.suffix_iff_eq_drop.mp (h.trans (List.drop_suffix _ _))).symm

/-- A step that is run there goes by these tokens alone. -/
theorem run_leaving {α : Type} (h : rest <:+ cursor.rest)
    (step : Span → List Token → Except ParseError α × List Token) :
    (cursor.leaving rest).run step =
      ((step cursor.endSpan rest).1, cursor.leaving (step cursor.endSpan rest).2) := by
  simp only [run, rest_leaving h]
  rfl

theorem rest_bump (cursor : Cursor) : cursor.bump.2.rest = cursor.rest.tail :=
  rest_leaving (List.tail_suffix _)

section

variable {token : Token} (h : cursor.rest = token :: rest)

include h

theorem current_of_rest : cursor.current = some token := by
  rw [current, h, List.head?_cons]

theorem bump_of_rest : cursor.bump.2 = cursor.leaving rest := by
  rw [bump, h, List.tail_cons]

theorem rest_leaving_tail : (cursor.leaving rest).rest = rest := by
  rw [← bump_of_rest h, rest_bump, h, List.tail_cons]

end

/-! ## Recursive descent -/

/-- Takes the arguments of the function `name` and the closing bracket behind them. -/
def callOf (cursor : Cursor) (name : String) : Except ParseError Instruction × Cursor :=
  match cursor.arguments with
  | (.error e, cursor) => (.error e, cursor)
  | (.ok values, cursor) =>
    let closing := cursor.expect .rightParen
    (closing.1.map fun _ => .call name values, closing.2)

/-- Takes an instruction as the grammar says: a name, and behind it the arguments of a call, or a
dot and an instruction, or the end of the line. -/
def descend (cursor : Cursor) : Except ParseError Instruction × Cursor :=
  match _h : cursor.current with
  | none => (.error (.missingToken cursor.endSpan), cursor)
  | some token =>
    let behind := cursor.bump.2
    if token.kind ≠ .keyword then (.error (.unexpectedToken (.token token)), behind)
    else
      match behind.current with
      | none => (.ok (.property token.text), behind)
      | some next =>
        match next.kind with
        | .leftParen => behind.bump.2.callOf token.text
        | .dot =>
          let inner := behind.bump.2.descend
          (inner.1.map (.member token.text), inner.2)
        | .endOfInput => (.ok (.property token.text), behind)
        | _ => (.error (.unexpectedToken (.token next)), behind)
termination_by cursor.rest.length
decreasing_by
  have hpos : 0 < cursor.rest.length := List.length_pos_of_mem (List.mem_of_mem_head? _h)
  simp only [rest_bump, List.length_tail]
  omega

/-- A call is taken by the routine of the grammar. -/
theorem callOf_eq_run (cursor : Cursor) (name : String) :
    cursor.callOf name = cursor.run (Grammar.callOf name) := by
  have hleft := Grammar.arguments_suffix cursor.rest
  simp only [callOf, arguments, run, Grammar.callOf]
  cases hread : Grammar.arguments cursor.rest with
  | mk outcome rest =>
    rw [hread] at hleft
    cases outcome with
    | error e => rfl
    | ok values => simp only [expect, run_leaving hleft]

theorem descend_of_rest_nil (h : cursor.rest = []) :
    cursor.descend = (.error (.missingToken cursor.endSpan), cursor) := by
  have hcurrent : cursor.current = none := by rw [current, h, List.head?_nil]
  rw [descend]
  split
  · rfl
  · next token htoken => cases hcurrent.symm.trans htoken

theorem descend_of_rest {token : Token} (h : cursor.rest = token :: rest) :
    cursor.descend =
      if token.kind ≠ .keyword then
        (.error (.unexpectedToken (.token token)), cursor.leaving rest)
      else
        match rest with
        | [] => (.ok (.property token.text), cursor.leaving [])
        | next :: rest =>
          match next.kind with
          | .leftParen => (cursor.leaving rest).callOf token.text
          | .dot =>
            ((cursor.leaving rest).descend.1.map (.member token.text),
              (cursor.leaving rest).descend.2)
          | .endOfInput => (.ok (.property token.text), cursor.leaving (next :: rest))
          | _ => (.error (.unexpectedToken (.token next)), cursor.leaving (next :: rest)) := by
  have hbehind := rest_leaving_tail h
  rw [descend]
  split
  · next hnone => cases hnone.symm.trans (current_of_rest h)
  · next other hother =>
    obtain rfl := Option.some.inj (hother.symm.trans (current_of_rest h))
    cases rest with
    | nil => simp only [bump_of_rest h, current, hbehind, List.head?_nil]
    | cons next rest =>
      simp only [bump_of_rest h, current_of_rest hbehind, bump_of_rest hbehind]
      rfl

/-- The descent stops where the routine of the grammar does, with the same outcome. -/
theorem descend_eq_run (cursor : Cursor) : cursor.descend = cursor.run Grammar.instruction := by
  generalize htokens : cursor.rest = tokens
  induction tokens using Grammar.instruction_induction generalizing cursor with
  | nothing =>
    have hleft : cursor.leaving [] = cursor := by rw [← htokens, leaving_rest]
    rw [descend_of_rest_nil htokens, run, htokens, Grammar.instruction, Grammar.chain_nil]
    exact congrArg (Prod.mk _) hleft.symm
  | noName token rest hname =>
    rw [descend_of_rest htokens, if_pos hname, run, htokens, Grammar.instruction,
      Grammar.chain_noName _ _ hname]
  | ended name rest hend =>
    rw [descend_of_rest htokens, if_neg (by simp [name.kind_eq]), run, htokens,
      Grammar.instruction, Grammar.chain_ended _ _ name hend]
    cases rest with
    | nil => rfl
    | cons next rest =>
      have hnext : next.kind = .endOfInput := hend
      simp only [hnext]
      rfl
  | call name opening rest =>
    have hleft : rest <:+ cursor.rest := htokens ▸ ⟨[name.token, opening.token], rfl⟩
    rw [descend_of_rest htokens, if_neg (by simp [name.kind_eq])]
    simp only [opening.kind_eq]
    rw [callOf_eq_run, run_leaving hleft, run, htokens, Grammar.instruction_call]
  | member name dot rest ih =>
    have hleft : rest <:+ cursor.rest := htokens ▸ ⟨[name.token, dot.token], rfl⟩
    rw [descend_of_rest htokens, if_neg (by simp [name.kind_eq])]
    simp only [dot.kind_eq]
    rw [ih (cursor.leaving rest) (rest_leaving hleft), run_leaving hleft, run, htokens,
      Grammar.instruction_member]
  | unexpected name next rest hopening hdot hend =>
    rw [descend_of_rest htokens, if_neg (by simp [name.kind_eq]), run, htokens,
      Grammar.instruction, Grammar.chain_unexpected _ _ name hopening hdot hend]
    split <;> simp_all

/-! ## Main result -/

/-- The loop does what recursive descent does, from every place of every list of tokens: it gives
the same instruction or the same error, and leaves the cursor at the same place. This holds in each
round of the loop, whichever names it has collected by then: they are put around what the descent
gives for the tokens that are left, and are dropped if it fails. -/
theorem descend_eq_instruction (cursor : Cursor) :
    cursor.descend = cursor.instruction ∧
    ∀ names : List String, cursor.run (fun stop => Grammar.chain stop names) =
      (cursor.descend.1.map (Instruction.within names), cursor.descend.2) := by
  refine ⟨cursor.descend_eq_run, fun names => ?_⟩
  rw [descend_eq_run]
  simp only [run, Grammar.chain_eq_map]

end Cursor

end CoinConsole
