import CoinConsole.Instruction.Basic
import CoinConsole.Token.Basic

/-!
# Derivations

The grammar of command lines as data, beside the routines that read it:

    instruction := name ( '(' arglist? ')' | '.' instruction )?
    arglist     := arg (',' arg)* ','?
    arg         := integer with a value

A derivation holds a token for every terminal, and each token carries the proof that it is one, so
there is no derivation that breaks the grammar. Its `yield` is the sentence it derives and its
`instruction` what the sentence means. A sentence has one derivation (`Derivation.eq_of_yield_eq`),
and its instruction holds the names and the values of its tokens, each once and in order.
-/

namespace CoinConsole

/-! ## Terminals -/

/-- A token of the given kind. -/
structure Leaf (kind : TokenKind) where
  token : Token
  kind_eq : token.kind = kind

/-- An integer token and its value. -/
structure Argument where
  token : Token
  value : Int
  kind_eq : token.kind = .integer
  value_eq : token.value = some value

theorem Leaf.ext {kind : TokenKind} {a b : Leaf kind} (h : a.token = b.token) : a = b := by
  obtain ⟨token, kind_eq⟩ := a
  obtain rfl : token = b.token := h
  rfl

theorem Leaf.token_ne {k l : TokenKind} (a : Leaf k) (b : Leaf l) (h : k ≠ l) :
    a.token ≠ b.token := by
  intro heq
  exact h (a.kind_eq.symm.trans ((congrArg Token.kind heq).trans b.kind_eq))

theorem Argument.ext {a b : Argument} (h : a.token = b.token) : a = b := by
  obtain ⟨token, value, kind_eq, value_eq⟩ := a
  obtain rfl : token = b.token := h
  obtain rfl : value = b.value := Option.some.inj (value_eq.symm.trans b.value_eq)
  rfl

/-! ## Lists of arguments -/

/-- The parts of `arg (',' arg)* ','?`. -/
structure ArgumentList where
  first : Argument
  more : List (Leaf .comma × Argument)
  trailing : Option (Leaf .comma)

/-- The parts of `arglist?`. -/
abbrev Arguments := Option ArgumentList

/-- The tokens of a list of arguments, in order. -/
def ArgumentList.yield (list : ArgumentList) : List Token :=
  list.first.token :: (list.more.flatMap fun pair => [pair.1.token, pair.2.token]) ++
    (list.trailing.map Leaf.token).toList

/-- The values of the arguments, in order. -/
def ArgumentList.values (list : ArgumentList) : List Int :=
  list.first.value :: list.more.map fun pair => pair.2.value

namespace Arguments

def yield : Arguments → List Token
  | none => []
  | some list => list.yield

def values : Arguments → List Int
  | none => []
  | some list => list.values

/-- A single argument with no comma. -/
def single (argument : Argument) : Arguments := some ⟨argument, [], none⟩

/-- An argument and a comma in front of what may be a list. -/
def push (argument : Argument) (comma : Leaf .comma) : Arguments → Arguments
  | none => some ⟨argument, [], some comma⟩
  | some list => some ⟨argument, (comma, list.first) :: list.more, list.trailing⟩

@[simp] theorem yield_none : yield none = [] := rfl

@[simp] theorem values_none : values none = [] := rfl

@[simp] theorem yield_single (a : Argument) : (single a).yield = [a.token] := rfl

@[simp] theorem values_single (a : Argument) : (single a).values = [a.value] := rfl

@[simp] theorem yield_push (a : Argument) (comma : Leaf .comma) (arguments : Arguments) :
    (push a comma arguments).yield = a.token :: comma.token :: arguments.yield := by
  cases arguments <;> rfl

@[simp] theorem values_push (a : Argument) (comma : Leaf .comma) (arguments : Arguments) :
    (push a comma arguments).values = a.value :: arguments.values := by
  cases arguments <;> rfl

/-- Lists of arguments are built from the front: nothing, one argument, or an argument and a comma
in front of a shorter list. -/
theorem induction {motive : Arguments → Prop} (none : motive none)
    (single : ∀ a, motive (single a))
    (push : ∀ a comma arguments, motive arguments → motive (push a comma arguments))
    (arguments : Arguments) : motive arguments := by
  have hlist : ∀ more first trailing, motive (some ⟨first, more, trailing⟩) := by
    intro more
    induction more with
    | nil =>
      rintro first (_ | comma)
      · exact single first
      · exact push first comma _ none
    | cons pair more ih =>
      intro first trailing
      exact push first pair.1 _ (ih pair.2 trailing)
  cases arguments with
  | none => exact none
  | some list => exact hlist list.more list.first list.trailing

/-- The tokens of a list of arguments tell where each part of it begins. -/
theorem eq_of_yield_eq {arguments other : Arguments} (h : arguments.yield = other.yield) :
    arguments = other := by
  induction arguments using Arguments.induction generalizing other with
  | none =>
    cases other using Arguments.induction with
    | none => rfl
    | single a => exact absurd h (by simp)
    | push a comma arguments => exact absurd h (by simp)
  | single a =>
    cases other using Arguments.induction with
    | none => exact absurd h (by simp)
    | single b =>
      have ha : a.token = b.token := List.singleton_inj.mp h
      rw [Argument.ext ha]
    | push b comma arguments => exact absurd h (by simp)
  | push a comma arguments ih =>
    cases other using Arguments.induction with
    | none => exact absurd h (by simp)
    | single b => exact absurd h (by simp)
    | push b comma' arguments' =>
      rw [yield_push, yield_push, List.cons.injEq, List.cons.injEq] at h
      obtain ⟨ha, hcomma, harguments⟩ := h
      rw [Argument.ext ha, Leaf.ext hcomma, ih harguments]

end Arguments

/-! ## Instructions -/

/-- The parts of an instruction. -/
inductive Derivation
  | property (name : Leaf .keyword)
  | call (name : Leaf .keyword) (opening : Leaf .leftParen) (arguments : Arguments)
      (closing : Leaf .rightParen)
  | member (name : Leaf .keyword) (dot : Leaf .dot) (rest : Derivation)

namespace Derivation

/-- The sentence of the derivation. -/
def yield : Derivation → List Token
  | property name => [name.token]
  | call name opening arguments closing =>
    name.token :: opening.token :: (arguments.yield ++ [closing.token])
  | member name dot rest => name.token :: dot.token :: rest.yield

/-- What the sentence means. -/
def instruction : Derivation → Instruction
  | property name => .property name.token.text
  | call name _ arguments _ => .call name.token.text arguments.values
  | member name _ rest => .member name.token.text rest.instruction

/-- A sentence has one derivation. -/
theorem eq_of_yield_eq {d e : Derivation} (h : d.yield = e.yield) : d = e := by
  induction d generalizing e with
  | property name =>
    cases e with
    | property name' => rw [Leaf.ext (List.singleton_inj.mp h)]
    | call name' opening arguments closing => exact absurd h (by simp [yield])
    | member name' dot rest => exact absurd h (by simp [yield])
  | call name opening arguments closing =>
    cases e with
    | property name' => exact absurd h (by simp [yield])
    | call name' opening' arguments' closing' =>
      rw [yield, yield, List.cons.injEq, List.cons.injEq] at h
      obtain ⟨hname, hopening, hlist⟩ := h
      obtain ⟨harguments, hclosing⟩ := List.append_inj' hlist rfl
      rw [Leaf.ext hname, Leaf.ext hopening, Arguments.eq_of_yield_eq harguments,
        Leaf.ext (List.singleton_inj.mp hclosing)]
    | member name' dot rest =>
      rw [yield, yield, List.cons.injEq, List.cons.injEq] at h
      exact absurd h.2.1 (opening.token_ne dot (by decide))
  | member name dot rest ih =>
    cases e with
    | property name' => exact absurd h (by simp [yield])
    | call name' opening arguments closing =>
      rw [yield, yield, List.cons.injEq, List.cons.injEq] at h
      exact absurd h.2.1 (dot.token_ne opening (by decide))
    | member name' dot' rest' =>
      rw [yield, yield, List.cons.injEq, List.cons.injEq] at h
      obtain ⟨hname, hdot, hrest⟩ := h
      rw [Leaf.ext hname, Leaf.ext hdot, ih hrest]

end Derivation

/-! ## What a sentence holds -/

/-- The names of an instruction, in order. -/
def Instruction.names : Instruction → List String
  | property name => [name]
  | call name _ => [name]
  | member name rest => name :: rest.names

/-- The arguments of the call at the end, if there is one. -/
def Instruction.arguments : Instruction → List Int
  | property _ => []
  | call _ arguments => arguments
  | member _ rest => rest.arguments

/-- The texts of the names among the tokens, in order. -/
def nameTexts (tokens : List Token) : List String :=
  (tokens.filter fun token => decide (token.kind = .keyword)).map Token.text

/-- The values of the integers among the tokens, in order. -/
def integerValues (tokens : List Token) : List (Option Int) :=
  (tokens.filter fun token => decide (token.kind = .integer)).map Token.value

@[simp] theorem nameTexts_nil : nameTexts [] = [] := rfl

theorem nameTexts_cons (token : Token) (rest : List Token) :
    nameTexts (token :: rest) =
      if token.kind = .keyword then token.text :: nameTexts rest else nameTexts rest := by
  by_cases h : token.kind = .keyword <;> simp [nameTexts, h]

@[simp] theorem nameTexts_append (tokens later : List Token) :
    nameTexts (tokens ++ later) = nameTexts tokens ++ nameTexts later := by
  simp [nameTexts]

@[simp] theorem integerValues_nil : integerValues [] = [] := rfl

theorem integerValues_cons (token : Token) (rest : List Token) :
    integerValues (token :: rest) =
      if token.kind = .integer then token.value :: integerValues rest else integerValues rest := by
  by_cases h : token.kind = .integer <;> simp [integerValues, h]

@[simp] theorem integerValues_append (tokens later : List Token) :
    integerValues (tokens ++ later) = integerValues tokens ++ integerValues later := by
  simp [integerValues]

theorem Arguments.nameTexts_yield (list : Arguments) : nameTexts list.yield = [] := by
  induction list using Arguments.induction with
  | none => rfl
  | single a => simp [nameTexts_cons, a.kind_eq]
  | push a comma list ih => simp [nameTexts_cons, a.kind_eq, comma.kind_eq, ih]

theorem Arguments.integerValues_yield (list : Arguments) :
    integerValues list.yield = list.values.map some := by
  induction list using Arguments.induction with
  | none => rfl
  | single a => simp [integerValues_cons, a.kind_eq, a.value_eq]
  | push a comma list ih => simp [integerValues_cons, a.kind_eq, a.value_eq, comma.kind_eq, ih]

theorem Arguments.mem_yield {list : Arguments} {token : Token} (h : token ∈ list.yield) :
    token.kind ≠ .endOfInput ∧ (token.kind = .integer → token.value ≠ none) := by
  induction list using Arguments.induction with
  | none => exact absurd h List.not_mem_nil
  | single a =>
    obtain rfl := List.mem_singleton.mp h
    simp [a.kind_eq, a.value_eq]
  | push a comma list ih =>
    rw [Arguments.yield_push, List.mem_cons, List.mem_cons] at h
    rcases h with rfl | rfl | hlist
    · simp [a.kind_eq, a.value_eq]
    · simp [comma.kind_eq]
    · exact ih hlist

namespace Derivation

/-- The names of the instruction are those of the sentence. -/
theorem names_instruction (d : Derivation) : d.instruction.names = nameTexts d.yield := by
  induction d with
  | property name => simp [instruction, Instruction.names, yield, nameTexts_cons, name.kind_eq]
  | call name opening list closing =>
    simp [instruction, Instruction.names, yield, nameTexts_cons, name.kind_eq, opening.kind_eq,
      closing.kind_eq, list.nameTexts_yield]
  | member name dot inner ih =>
    simp [instruction, Instruction.names, yield, nameTexts_cons, name.kind_eq, dot.kind_eq, ih]

/-- The arguments of the instruction are the integers of the sentence. -/
theorem arguments_instruction (d : Derivation) :
    d.instruction.arguments.map some = integerValues d.yield := by
  induction d with
  | property name =>
    simp [instruction, Instruction.arguments, yield, integerValues_cons, name.kind_eq]
  | call name opening list closing =>
    simp [instruction, Instruction.arguments, yield, integerValues_cons, name.kind_eq,
      opening.kind_eq, closing.kind_eq, list.integerValues_yield]
  | member name dot inner ih =>
    simp [instruction, Instruction.arguments, yield, integerValues_cons, name.kind_eq,
      dot.kind_eq, ih]

/-- Sentences hold neither a token that stands for the end of the line nor an integer without a
value. -/
theorem mem_yield {d : Derivation} {token : Token} (h : token ∈ d.yield) :
    token.kind ≠ .endOfInput ∧ (token.kind = .integer → token.value ≠ none) := by
  induction d with
  | property name =>
    obtain rfl := List.mem_singleton.mp h
    simp [name.kind_eq]
  | call name opening list closing =>
    rw [yield, List.mem_cons, List.mem_cons, List.mem_append, List.mem_singleton] at h
    rcases h with rfl | rfl | hlist | rfl
    · simp [name.kind_eq]
    · simp [opening.kind_eq]
    · exact Arguments.mem_yield hlist
    · simp [closing.kind_eq]
  | member name dot inner ih =>
    rw [yield, List.mem_cons, List.mem_cons] at h
    rcases h with rfl | rfl | hinner
    · simp [name.kind_eq]
    · simp [dot.kind_eq]
    · exact ih hinner

end Derivation

end CoinConsole
