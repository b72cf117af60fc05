import CoinConsole.Game.State

/-!
# Where instructions lead

The names of an instruction lead from one object to the next: from the game to its coins or its
clock, from the clock to its seconds. Which properties and functions there are is a table for each
type of object (`ObjectType.properties`, `ObjectType.functions`), kept apart from the routines that
carry instructions out.

An instruction that is not carried out is told what is wrong with it. Either it calls a function
without the argument it takes, or it has a first segment that the object reached by then does not
have (`FailsAt`), and this segment and the type of this object are what the error names. There is
nothing in between: `Root.resolution` says of every instruction which of these it is.
-/

namespace CoinConsole

/-! ## Objects -/

/-- The types of the objects that names lead to. -/
inductive ObjectType
  | root
  | clock
  | integer
deriving DecidableEq

namespace ObjectType

/-- The name of the type in error messages. -/
def typeName : ObjectType → String
  | root => "Root"
  | clock => "Clock"
  | integer => "Int"

/-- The properties of the objects of the type, each with the type of its own. -/
def properties : ObjectType → List (String × ObjectType)
  | root => [("coins", integer), ("clock", clock)]
  | clock => [("seconds", integer)]
  | integer => []

/-- The functions of the objects of the type. -/
def functions : ObjectType → List String
  | root => ["add", "spend", "reset"]
  | clock => ["advance"]
  | integer => []

/-- The names lead from the one object to the other: each is a property of the object before it. -/
inductive Leads : ObjectType → List String → ObjectType → Prop
  | here (type : ObjectType) : Leads type [] type
  | behind {type next last : ObjectType} {name : String} {names : List String}
      (property : (name, next) ∈ type.properties) (later : Leads next names last) :
      Leads type (name :: names) last

/-- Objects of the type have nothing that the first segment of the instruction could be: no
function of the name if it is a call, otherwise no property. -/
def Lacks (type : ObjectType) : Instruction → Prop
  | .call name _ => name ∉ type.functions
  | .property name => name ∉ type.properties.map Prod.fst
  | .member name _ => name ∉ type.properties.map Prod.fst

end ObjectType

/-! ## Segments of instructions -/

namespace Instruction

/-- Whether the first segment is a call. -/
def isCall : Instruction → Bool
  | call _ _ => true
  | property _ => false
  | member _ _ => false

/-- The instruction reached through the given names, the first one first. -/
def behind (names : List String) (rest : Instruction) : Instruction := names.foldr member rest

/-- The instruction with all arguments but the first one left out. -/
def trimmed : Instruction → Instruction
  | property name => property name
  | call name arguments => call name (arguments.take 1)
  | member name rest => member name rest.trimmed

/-- The instructions that the game carries out. -/
inductive IsCarriedOut : Instruction → Prop
  | coins : IsCarriedOut (property "coins")
  | clock : IsCarriedOut (property "clock")
  | add (amount : Int) (more : List Int) : IsCarriedOut (call "add" (amount :: more))
  | spend (amount : Int) (more : List Int) : IsCarriedOut (call "spend" (amount :: more))
  | reset (arguments : List Int) : IsCarriedOut (call "reset" arguments)
  | seconds : IsCarriedOut (member "clock" (property "seconds"))
  | advance (amount : Int) (more : List Int) :
      IsCarriedOut (member "clock" (call "advance" (amount :: more)))

/-- The calls that lack the argument their function takes. -/
inductive LacksArgument : Instruction → Prop
  | add : LacksArgument (call "add" [])
  | spend : LacksArgument (call "spend" [])
  | advance : LacksArgument (member "clock" (call "advance" []))

theorem name_trimmed (instruction : Instruction) : instruction.trimmed.name = instruction.name := by
  cases instruction <;> rfl

theorem isCall_trimmed (instruction : Instruction) :
    instruction.trimmed.isCall = instruction.isCall := by
  cases instruction <;> rfl

theorem trimmed_behind (names : List String) (rest : Instruction) :
    (behind names rest).trimmed = behind names rest.trimmed := by
  induction names with
  | nil => rfl
  | cons name names ih => exact congrArg (member name) ih

end Instruction

/-! ## The first segment that is not found -/

/-- The wording for a first segment that objects of the type do not have. -/
def ObjectType.unknownMessage (type : ObjectType) (rest : Instruction) : String :=
  if rest.isCall then s!"Did not find any functions named '{rest.name}' on {type.typeName}"
  else s!"Did not find property '{rest.name}' on {type.typeName}"

/-- The first segment of the instruction that is not found is the first one of `rest`: the names in
front of it lead to an object of type `object`, which has nothing of the kind. -/
structure FailsAt (type : ObjectType) (instruction : Instruction) (names : List String)
    (object : ObjectType) (rest : Instruction) : Prop where
  split : instruction = .behind names rest
  leads : type.Leads names object
  lacks : object.Lacks rest

theorem memberNotFound_eq (type : ObjectType) (rest : Instruction) :
    HandleError.memberNotFound type.typeName rest = .notFound (type.unknownMessage rest) := by
  cases rest <;> rfl

section

variable {type next object : ObjectType} {instruction rest other : Instruction}
  {names : List String} {name : String}

theorem memberNotFound_congr (typeName : String) (hname : other.name = rest.name)
    (hcall : other.isCall = rest.isCall) :
    HandleError.memberNotFound typeName other = .memberNotFound typeName rest := by
  cases rest <;> cases other <;> simp only [Instruction.isCall, reduceCtorEq] at hcall <;>
    (obtain rfl := hname; rfl)

theorem ObjectType.Lacks.congr (h : type.Lacks rest) (hname : other.name = rest.name)
    (hcall : other.isCall = rest.isCall) : type.Lacks other := by
  cases rest <;> cases other <;> simp only [Instruction.isCall, reduceCtorEq] at hcall <;>
    (obtain rfl := hname; exact h)

theorem FailsAt.here (h : type.Lacks rest) : FailsAt type rest [] type rest :=
  ⟨rfl, .here type, h⟩

theorem FailsAt.member (hproperty : (name, next) ∈ type.properties)
    (h : FailsAt next instruction names object rest) :
    FailsAt type (.member name instruction) (name :: names) object rest := by
  obtain ⟨rfl, hleads, hlacks⟩ := h
  exact ⟨rfl, .behind hproperty hleads, hlacks⟩

/-- What stands behind the segment that is not found does not matter. -/
theorem FailsAt.congr (h : FailsAt type instruction names object rest)
    (hname : other.name = rest.name) (hcall : other.isCall = rest.isCall) :
    FailsAt type (.behind names other) names object other :=
  ⟨rfl, h.leads, h.lacks.congr hname hcall⟩

end

/-! ## Integers -/

theorem lacks_integer (instruction : Instruction) : ObjectType.integer.Lacks instruction := by
  cases instruction <;> exact List.not_mem_nil

/-- Whatever is asked of an integer, the first segment is not found. -/
theorem scalarProperty_of_failsAt (value : Int) {instruction rest : Instruction}
    {names : List String} {object : ObjectType}
    (h : FailsAt .integer instruction names object rest) :
    scalarProperty (.integer value) (some instruction) =
      .error (.memberNotFound object.typeName rest) := by
  obtain ⟨rfl, hleads, -⟩ := h
  cases hleads with
  | here => rfl
  | behind property later => cases property

/-! ## The clock -/

namespace Clock

variable {clock : Clock} {instruction rest : Instruction} {names : List String}
  {object : ObjectType}

theorem handle_of_lacks (clock : Clock) (h : ObjectType.clock.Lacks instruction) :
    clock.handle instruction =
      (.error (.memberNotFound ObjectType.clock.typeName instruction), clock) := by
  unfold handle
  split
  · exact absurd (by decide) h
  · exact absurd (by decide) h
  · exact absurd (by decide) h
  · rfl

theorem handle_of_failsAt (clock : Clock) (h : FailsAt .clock instruction names object rest) :
    clock.handle instruction = (.error (.memberNotFound object.typeName rest), clock) := by
  obtain ⟨rfl, hleads, hlacks⟩ := h
  cases hleads with
  | here => exact handle_of_lacks clock hlacks
  | behind property later =>
    obtain ⟨rfl, rfl⟩ := Prod.mk.inj (List.mem_singleton.mp property)
    have hscalar := scalarProperty_of_failsAt clock.seconds ⟨rfl, later, hlacks⟩
    exact congrArg (·, clock) hscalar

/-- An instruction to the clock is carried out, or lacks its argument, or has a first segment that
is not found. -/
theorem resolution (instruction : Instruction) :
    (Instruction.member "clock" instruction).IsCarriedOut ∨
      (Instruction.member "clock" instruction).LacksArgument ∨
      ∃ names object rest, FailsAt .clock instruction names object rest := by
  cases instruction with
  | property name =>
    by_cases hname : name = "seconds"
    · exact hname ▸ .inl .seconds
    · have hlacks : ObjectType.clock.Lacks (.property name) := by
        simpa [ObjectType.Lacks, ObjectType.properties]
      exact .inr (.inr ⟨_, _, _, .here hlacks⟩)
  | call name arguments =>
    by_cases hname : name = "advance"
    · obtain rfl := hname
      cases arguments with
      | nil => exact .inr (.inl .advance)
      | cons amount more => exact .inl (.advance amount more)
    · have hlacks : ObjectType.clock.Lacks (.call name arguments) := by
        simpa [ObjectType.Lacks, ObjectType.functions]
      exact .inr (.inr ⟨_, _, _, .here hlacks⟩)
  | member name rest =>
    by_cases hname : name = "seconds"
    · have hproperty : (name, ObjectType.integer) ∈ ObjectType.clock.properties := by
        simp [ObjectType.properties, hname]
      exact .inr (.inr ⟨_, _, _, .member hproperty (.here (lacks_integer rest))⟩)
    · have hlacks : ObjectType.clock.Lacks (.member name rest) := by
        simpa [ObjectType.Lacks, ObjectType.properties]
      exact .inr (.inr ⟨_, _, _, .here hlacks⟩)

end Clock

/-! ## The game -/

namespace Root

variable {root : Root} {instruction rest : Instruction} {names : List String}
  {object : ObjectType}

theorem handle_of_lacks (root : Root) (h : ObjectType.root.Lacks instruction) :
    root.handle instruction =
      (.error (.memberNotFound ObjectType.root.typeName instruction), root) := by
  unfold handle
  split
  · exact absurd (by decide) h
  · exact absurd (by decide) h
  · exact absurd (by decide) h
  · exact absurd (by decide) h
  · exact absurd (by decide) h
  · exact absurd (by decide) h
  · exact absurd (by decide) h
  · rfl

/-- The error names the first segment that is not found and the type of the object it was looked up
on, and nothing is changed. -/
theorem handle_of_failsAt (root : Root) (h : FailsAt .root instruction names object rest) :
    root.handle instruction = (.error (.memberNotFound object.typeName rest), root) := by
  obtain ⟨rfl, hleads, hlacks⟩ := h
  cases hleads with
  | here => exact handle_of_lacks root hlacks
  | @behind _ next _ name names property later =>
    have hproperty : name = "coins" ∧ next = .integer ∨ name = "clock" ∧ next = .clock := by
      simpa [ObjectType.properties] using property
    rcases hproperty with ⟨rfl, rfl⟩ | ⟨rfl, rfl⟩
    · have hscalar := scalarProperty_of_failsAt root.coins ⟨rfl, later, hlacks⟩
      exact congrArg (·, root) hscalar
    · have hclock := root.clock.handle_of_failsAt ⟨rfl, later, hlacks⟩
      exact congrArg (fun answer => (answer.1, { root with clock := answer.2 })) hclock

/-- Every instruction is carried out, or lacks an argument, or has a first segment that is not
found. -/
theorem resolution (instruction : Instruction) :
    instruction.IsCarriedOut ∨ instruction.LacksArgument ∨
      ∃ names object rest, FailsAt .root instruction names object rest := by
  cases instruction with
  | property name =>
    by_cases hcoins : name = "coins"
    · exact hcoins ▸ .inl .coins
    by_cases hclock : name = "clock"
    · exact hclock ▸ .inl .clock
    · have hlacks : ObjectType.root.Lacks (.property name) := by
        simp [ObjectType.Lacks, ObjectType.properties, hcoins, hclock]
      exact .inr (.inr ⟨_, _, _, .here hlacks⟩)
  | call name arguments =>
    by_cases hreset : name = "reset"
    · exact hreset ▸ .inl (.reset arguments)
    by_cases hadd : name = "add"
    · obtain rfl := hadd
      cases arguments with
      | nil => exact .inr (.inl .add)
      | cons amount more => exact .inl (.add amount more)
    by_cases hspend : name = "spend"
    · obtain rfl := hspend
      cases arguments with
      | nil => exact .inr (.inl .spend)
      | cons amount more => exact .inl (.spend amount more)
    · have hlacks : ObjectType.root.Lacks (.call name arguments) := by
        simp [ObjectType.Lacks, ObjectType.functions, hreset, hadd, hspend]
      exact .inr (.inr ⟨_, _, _, .here hlacks⟩)
  | member name rest =>
    by_cases hcoins : name = "coins"
    · have hproperty : (name, ObjectType.integer) ∈ ObjectType.root.properties := by
        simp [ObjectType.properties, hcoins]
      exact .inr (.inr ⟨_, _, _, .member hproperty (.here (lacks_integer rest))⟩)
    by_cases hclock : name = "clock"
    · obtain rfl := hclock
      rcases Clock.resolution rest with h | h | ⟨names, object, last, h⟩
      · exact .inl h
      · exact .inr (.inl h)
      · have hproperty : ("clock", ObjectType.clock) ∈ ObjectType.root.properties := by decide
        exact .inr (.inr ⟨_, _, _, .member hproperty h⟩)
    · have hlacks : ObjectType.root.Lacks (.member name rest) := by
        simp [ObjectType.Lacks, ObjectType.properties, hcoins, hclock]
      exact .inr (.inr ⟨_, _, _, .here hlacks⟩)

theorem exists_value_of_isCarriedOut (root : Root) (h : instruction.IsCarriedOut) :
    ∃ value, (root.handle instruction).1 = .ok value := by
  cases h <;> exact ⟨_, rfl⟩

theorem handle_of_lacksArgument (root : Root) (h : instruction.LacksArgument) :
    root.handle instruction = (.error (.wrongArgumentType "Int" 0), root) := by
  cases h <;> rfl

/-- What stands behind the segment that is not found does not matter. -/
theorem handle_behind_of_failsAt (root : Root) (h : FailsAt .root instruction names object rest)
    {other : Instruction} (hname : other.name = rest.name) (hcall : other.isCall = rest.isCall) :
    root.handle (.behind names other) = root.handle instruction := by
  rw [handle_of_failsAt root h, handle_of_failsAt root (h.congr hname hcall),
    memberNotFound_congr object.typeName hname hcall]

/-- Of the arguments, none but the first one matters. -/
theorem handle_trimmed (root : Root) (instruction : Instruction) :
    root.handle instruction.trimmed = root.handle instruction := by
  rcases resolution instruction with h | h | ⟨names, object, rest, h⟩
  · cases h <;> rfl
  · cases h <;> rfl
  · rw [h.split, Instruction.trimmed_behind, ← h.split]
    exact handle_behind_of_failsAt root h rest.name_trimmed rest.isCall_trimmed

end Root

/-! ## Main result -/

/-- What becomes of an instruction is told by its path. It is carried out exactly if it is one of
the properties `coins`, `clock` and `clock.seconds` or a call of one of the four functions with the
argument that it takes; without that argument it is told so. In all other cases there is a first
segment that the object reached by the names in front of it does not have, and the error names this
segment and the type of this object. An instruction that is refused changes nothing, and neither the
segments behind the named one nor the arguments behind the first one have any influence. -/
theorem handle_follows_path (root : Root) (instruction : Instruction) :
    ((∃ value, (root.handle instruction).1 = .ok value) ↔ instruction.IsCarriedOut) ∧
    ((root.handle instruction).1 = .error (.wrongArgumentType "Int" 0) ↔
      instruction.LacksArgument) ∧
    (¬ instruction.IsCarriedOut → ¬ instruction.LacksArgument →
      ∃ names object rest, FailsAt .root instruction names object rest) ∧
    (∀ names object rest, FailsAt .root instruction names object rest →
      (root.handle instruction).1 = .error (.notFound (object.unknownMessage rest)) ∧
      ∀ other : Instruction, other.name = rest.name → other.isCall = rest.isCall →
        root.handle (.behind names other) = root.handle instruction) ∧
    (∀ error, (root.handle instruction).1 = .error error →
      (root.handle instruction).2 = root) ∧
    root.handle instruction.trimmed = root.handle instruction := by
  have hfails : ∀ names object rest, FailsAt .root instruction names object rest →
      (root.handle instruction).1 = .error (.notFound (object.unknownMessage rest)) := by
    intro names object rest h
    rw [Root.handle_of_failsAt root h, memberNotFound_eq]
  refine ⟨⟨?_, Root.exists_value_of_isCarriedOut root⟩, ⟨?_, ?_⟩, ?_, ?_, ?_,
    root.handle_trimmed instruction⟩
  · rintro ⟨value, hvalue⟩
    rcases Root.resolution instruction with h | h | ⟨names, object, rest, h⟩
    · exact h
    · rw [Root.handle_of_lacksArgument root h] at hvalue
      cases hvalue
    · rw [hfails names object rest h] at hvalue
      cases hvalue
  · intro herror
    rcases Root.resolution instruction with h | h | ⟨names, object, rest, h⟩
    · obtain ⟨value, hvalue⟩ := Root.exists_value_of_isCarriedOut root h
      rw [hvalue] at herror
      cases herror
    · exact h
    · rw [hfails names object rest h] at herror
      cases herror
  · intro h
    rw [Root.handle_of_lacksArgument root h]
  · intro hcarried hargument
    rcases Root.resolution instruction with h | h | h
    · exact absurd h hcarried
    · exact absurd h hargument
    · exact h
  · intro names object rest h
    exact ⟨hfails names object rest h, fun other hname hcall =>
      Root.handle_behind_of_failsAt root h hname hcall⟩
  · intro error herror
    rcases Root.resolution instruction with h | h | ⟨names, object, rest, h⟩
    · obtain ⟨value, hvalue⟩ := Root.exists_value_of_isCarriedOut root h
      rw [hvalue] at herror
      cases herror
    · rw [Root.handle_of_lacksArgument root h]
    · rw [Root.handle_of_failsAt root h]

/-- The clock is asked for a property that it does not have, with one more name behind it, and coins
are added with an argument too many. -/
theorem handle_follows_path_alarm_of_clock :
    let root : Root := { coins := 3, clock := { seconds := 4 } }
    let alarm : Instruction := .member "alarm" (.property "bell")
    let instruction : Instruction := .member "clock" alarm
    (¬ instruction.IsCarriedOut ∧ ¬ instruction.LacksArgument ∧
      ∃ names object rest, FailsAt .root instruction names object rest) ∧
    (FailsAt .root instruction ["clock"] .clock alarm ∧
      (root.handle instruction).1 = .error (.notFound "Did not find property 'alarm' on Clock") ∧
      (root.handle instruction).2 = root ∧
      root.handle (.member "clock" (.property "alarm")) = root.handle instruction) ∧
    ((∃ value, (root.handle (.call "add" [5, 9])).1 = .ok value) ∧
      root.handle (.call "add" [5]) = root.handle (.call "add" [5, 9])) := by
  intro root alarm instruction
  obtain ⟨-, -, hunknown, hfails, hkept, -⟩ := handle_follows_path root instruction
  obtain ⟨hadds, -, -, -, -, hfirst⟩ := handle_follows_path root (.call "add" [5, 9])
  have hcarriedOut : ∀ name rest,
      ¬ (Instruction.member "clock" (.member name rest)).IsCarriedOut := by
    intro name rest h
    cases h
  have hargument : ∀ name rest,
      ¬ (Instruction.member "clock" (.member name rest)).LacksArgument := by
    intro name rest h
    cases h
  have hlacks : ObjectType.clock.Lacks alarm := by
    simp [alarm, ObjectType.Lacks, ObjectType.properties]
  have hproperty : ("clock", ObjectType.clock) ∈ ObjectType.root.properties := by decide
  have hclock : FailsAt .root instruction ["clock"] .clock alarm := .member hproperty (.here hlacks)
  obtain ⟨herror, hbehind⟩ := hfails _ _ _ hclock
  exact ⟨⟨hcarriedOut _ _, hargument _ _, hunknown (hcarriedOut _ _) (hargument _ _)⟩,
    ⟨hclock, herror, hkept _ herror, hbehind (.property "alarm") rfl rfl⟩,
    hadds.mpr (.add 5 [9]), hfirst⟩

end CoinConsole
