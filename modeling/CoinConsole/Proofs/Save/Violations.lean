import CoinConsole.Save.Schema
import Mathlib.Data.List.Nodup

/-!
# What a save file may hold

Two descriptions of a save file that go without shapes: the state that a document describes
(`DescribesRoot`), and the violations of a document, each with its rank in an order
(`RootViolation`). A document departs from the shape of a state where it has a violation and nowhere
else, in this order (`lists_rootDepartures`), and one that does not describes the state that is read
from it (`describesRoot_iff`), provided that no object of it has a key twice.
-/

namespace CoinConsole

namespace Document

variable {key : String} {value : Document} {members : List (String × Document)}

/-! ## Parts of a document -/

/-- The document `part` stands somewhere in the document, or is the whole of it. -/
inductive IsPart : Document → Document → Prop
  | self (document : Document) : IsPart document document
  | item {part item : Document} {items : List Document} (hitem : item ∈ items)
    (h : IsPart part item) : IsPart part (array items)
  | member {part : Document} {member : String × Document} {members : List (String × Document)}
    (hmember : member ∈ members) (h : IsPart part member.2) : IsPart part (object members)

/-- The keys of the members are distinct. -/
def DistinctKeys (members : List (String × Document)) : Prop := (members.map (·.1)).Nodup

/-- The keys of each object of the document are distinct. -/
def HasDistinctKeys (document : Document) : Prop :=
  ∀ members, IsPart (object members) document → DistinctKeys members

theorem hasDistinctKeys_object (hkeys : DistinctKeys members)
    (h : ∀ member ∈ members, HasDistinctKeys member.2) : HasDistinctKeys (object members) := by
  intro inner hinner
  cases hinner with
  | self => exact hkeys
  | member hmember hinner => exact h _ hmember inner hinner

theorem hasDistinctKeys_array {items : List Document} (h : ∀ item ∈ items, HasDistinctKeys item) :
    HasDistinctKeys (array items) := by
  intro inner hinner
  cases hinner with
  | item hitem hinner => exact h _ hitem inner hinner

theorem HasDistinctKeys.distinctKeys (h : HasDistinctKeys (object members)) :
    DistinctKeys members :=
  h members (.self _)

theorem HasDistinctKeys.of_mem (h : HasDistinctKeys (object members))
    (hmember : (key, value) ∈ members) : HasDistinctKeys value :=
  fun inner hinner => h inner (.member hmember hinner)

/-! ## Members by their keys -/

theorem mem_of_member? (h : member? key members = some value) : (key, value) ∈ members := by
  obtain ⟨⟨name, value⟩, hfind, rfl⟩ := Option.map_eq_some_iff.mp h
  have hname : name = key := by simpa using List.find?_some hfind
  exact hname ▸ List.mem_reverse.mp (List.mem_of_find?_eq_some hfind)

theorem DistinctKeys.member?_eq_some_iff (h : DistinctKeys members) :
    member? key members = some value ↔ (key, value) ∈ members := by
  refine ⟨mem_of_member?, fun hmember => ?_⟩
  have hsome : (members.reverse.find? fun member => member.1 == key).isSome := by
    rw [List.find?_isSome]
    exact ⟨_, List.mem_reverse.mpr hmember, by simp⟩
  obtain ⟨found, hfound⟩ := Option.isSome_iff_exists.mp hsome
  have hkey : found.1 = key := by simpa using List.find?_some hfound
  have hin := List.mem_reverse.mp (List.mem_of_find?_eq_some hfound)
  rw [member?, Option.map_eq_some_iff]
  exact ⟨found, hfound, congrArg Prod.snd (List.inj_on_of_nodup_map h hin hmember hkey)⟩

theorem member?_eq_none_iff : member? key members = none ↔ key ∉ members.map (·.1) := by
  simp only [member?, Option.map_eq_none_iff, List.find?_eq_none, List.mem_reverse, beq_iff_eq,
    List.mem_map, not_exists, not_and]

theorem DistinctKeys.eq_of_mem (h : DistinctKeys members) {other : Document}
    (hvalue : (key, value) ∈ members) (hother : (key, other) ∈ members) : value = other :=
  congrArg Prod.snd (List.inj_on_of_nodup_map h hvalue hother rfl)

end Document

namespace Schema

open Document

variable {members : List (String × Document)} {key : String} {document : Document}

/-! ## States that are described -/

/-- The integer of a member; `0` if there is no such member. -/
inductive HoldsInteger (key : String) (members : List (String × Document)) : Int → Prop
  | present {value : Int} (hmember : (key, .integer value) ∈ members) :
    HoldsInteger key members value
  | missing (hkey : key ∉ members.map (·.1)) : HoldsInteger key members 0

/-- The document is an object that has at most the member `seconds`, an integer. -/
inductive DescribesClock : Document → Clock → Prop
  | object {members : List (String × Document)} {clock : Clock}
    (known : ∀ member ∈ members, member.1 ∈ ["seconds"])
    (seconds : HoldsInteger "seconds" members clock.seconds) :
    DescribesClock (.object members) clock

/-- The clock of a member; a clock at `0` if there is no such member. -/
inductive HoldsClock (key : String) (members : List (String × Document)) : Clock → Prop
  | present {document : Document} {clock : Clock} (hmember : (key, document) ∈ members)
    (describes : DescribesClock document clock) : HoldsClock key members clock
  | missing (hkey : key ∉ members.map (·.1)) : HoldsClock key members { seconds := 0 }

/-- The document is an object that has at most the members `coins`, an integer, and `clock`. -/
inductive DescribesRoot : Document → Root → Prop
  | object {members : List (String × Document)} {root : Root}
    (known : ∀ member ∈ members, member.1 ∈ ["coins", "clock"])
    (coins : HoldsInteger "coins" members root.coins)
    (clock : HoldsClock "clock" members root.clock) : DescribesRoot (.object members) root

/-! ## Violations -/

/-- The place of a violation in their order: the place of the member among the known ones, where all
others come last, then within the clock the same again, and among the others the place in the
file. -/
abbrev Rank := List Nat

/-- Ranks are compared from the left. -/
def Rank.Before (first second : Rank) : Prop := List.Lex (· < ·) first second

/-- A member is there, but it is no integer. -/
inductive IntegerViolation (place : Nat) (key : String) (members : List (String × Document)) :
    Departure → Rank → Prop
  | notInteger {value : Document} (hmember : (key, value) ∈ members)
    (hvalue : ∀ n, value ≠ .integer n) :
    IntegerViolation place key members { location := [key], fault := .notInteger } [place]

/-- A member is not among the known ones. -/
inductive UnknownViolation (place : Nat) (known : List String)
    (members : List (String × Document)) : Departure → Rank → Prop
  | unknown {i : Nat} {member : String × Document} (hmember : members[i]? = some member)
    (hname : member.1 ∉ known) :
    UnknownViolation place known members
      { location := [member.1], fault := .unknownMember } [place, i]

/-- A document that is to be an object is none, or there is a violation among its members. -/
inductive ObjectViolation (violation : List (String × Document) → Departure → Rank → Prop) :
    Document → Departure → Rank → Prop
  | notObject {document : Document} (hdocument : ∀ members, document ≠ .object members) :
    ObjectViolation violation document { location := [], fault := .notObject } []
  | inside {members : List (String × Document)} {departure : Departure} {rank : Rank}
    (h : violation members departure rank) :
    ObjectViolation violation (.object members) departure rank

/-- A violation of a document that is to describe a clock. -/
def ClockViolation : Document → Departure → Rank → Prop :=
  ObjectViolation fun members departure rank =>
    IntegerViolation 0 "seconds" members departure rank ∨
      UnknownViolation 1 ["seconds"] members departure rank

/-- A violation in the member that holds a clock. -/
inductive ClockMemberViolation (place : Nat) (key : String)
    (members : List (String × Document)) : Departure → Rank → Prop
  | inClock {document : Document} {departure : Departure} {rank : Rank}
    (hmember : (key, document) ∈ members) (h : ClockViolation document departure rank) :
    ClockMemberViolation place key members (.within key departure) (place :: rank)

/-- A violation of a document that is to describe a state. -/
def RootViolation : Document → Departure → Rank → Prop :=
  ObjectViolation fun members departure rank =>
    (IntegerViolation 0 "coins" members departure rank ∨
      ClockMemberViolation 1 "clock" members departure rank) ∨
        UnknownViolation 2 ["coins", "clock"] members departure rank

/-- The violation comes before all others. -/
def IsFirst (violation : Departure → Rank → Prop) (departure : Departure) : Prop :=
  ∃ rank, violation departure rank ∧
    ∀ other later, violation other later → other = departure ∧ later = rank ∨ rank.Before later

theorem Rank.before_cons (place : Nat) {rank later : Rank} (h : rank.Before later) :
    Rank.Before (place :: rank) (place :: later) := List.Lex.cons h

theorem Rank.before_of_lt {place other : Nat} (h : place < other) (rank later : Rank) :
    Rank.Before (place :: rank) (other :: later) := List.Lex.rel h

/-! ## Lists of violations -/

/-- The departures are the violations in the order of their ranks. -/
def Lists (violation : Departure → Rank → Prop) (departures : List Departure) : Prop :=
  ∃ ranked : List (Departure × Rank), ranked.map (·.1) = departures ∧
    (ranked.Pairwise fun first second => first.2.Before second.2) ∧
    ∀ departure rank, (departure, rank) ∈ ranked ↔ violation departure rank

variable {violation first second : Departure → Rank → Prop} {departures others : List Departure}

theorem lists_nil (h : ∀ departure rank, ¬ violation departure rank) : Lists violation [] :=
  ⟨[], rfl, .nil, fun departure rank => by simpa using h departure rank⟩

theorem lists_singleton (departure : Departure) (rank : Rank)
    (h : ∀ other later, violation other later ↔ other = departure ∧ later = rank) :
    Lists violation [departure] :=
  ⟨[(departure, rank)], rfl, List.pairwise_singleton _ _, fun other later => by simp [h]⟩

/-- Of two lists the one with the earlier ranks comes first. -/
theorem Lists.append (hfirst : Lists first departures) (hsecond : Lists second others)
    (hranks : ∀ departure rank other later, first departure rank → second other later →
      rank.Before later)
    (h : ∀ departure rank,
      violation departure rank ↔ first departure rank ∨ second departure rank) :
    Lists violation (departures ++ others) := by
  obtain ⟨early, rfl, hearly, hfirst⟩ := hfirst
  obtain ⟨late, rfl, hlate, hsecond⟩ := hsecond
  refine ⟨early ++ late, List.map_append, ?_, fun departure rank => ?_⟩
  · rw [List.pairwise_append]
    exact ⟨hearly, hlate, fun a ha b hb =>
      hranks _ _ _ _ ((hfirst _ _).mp ha) ((hsecond _ _).mp hb)⟩
  · rw [List.mem_append, hfirst, hsecond, h]

/-- The violations of a value are listed as those of the member that holds it. -/
theorem Lists.within (hlists : Lists first departures) (name : String) (place : Nat)
    (h : ∀ departure rank, violation departure rank ↔
      ∃ inner later, first inner later ∧ departure = .within name inner ∧ rank = place :: later) :
    Lists violation (departures.map (.within name)) := by
  obtain ⟨ranked, rfl, hsorted, hmem⟩ := hlists
  refine ⟨ranked.map fun entry => (.within name entry.1, place :: entry.2), ?_, ?_, ?_⟩
  · simp
  · rw [List.pairwise_map]
    exact hsorted.imp fun hbefore => Rank.before_cons place hbefore
  · intro departure rank
    simp only [List.mem_map, Prod.exists, h, hmem, Prod.mk.injEq, eq_comm (a := departure),
      eq_comm (a := rank)]

theorem Lists.exists_rank {departure : Departure} (h : Lists violation departures)
    (hmember : departure ∈ departures) : ∃ rank, violation departure rank := by
  obtain ⟨ranked, rfl, -, hmem⟩ := h
  obtain ⟨⟨departure, rank⟩, hranked, rfl⟩ := List.mem_map.mp hmember
  exact ⟨rank, (hmem _ _).mp hranked⟩

theorem Lists.isFirst {departure : Departure} (h : Lists violation (departure :: others)) :
    IsFirst violation departure := by
  obtain ⟨ranked, hmap, hsorted, hmem⟩ := h
  obtain ⟨⟨_, rank⟩, rest, rfl, rfl, -⟩ := List.map_eq_cons_iff.mp hmap
  refine ⟨rank, (hmem _ _).mp List.mem_cons_self, fun other later hother => ?_⟩
  rcases List.mem_cons.mp ((hmem other later).mpr hother) with heq | hrest
  · exact Or.inl (Prod.mk.inj heq)
  · exact Or.inr ((List.pairwise_cons.mp hsorted).1 _ hrest)

/-! ## Where documents depart from their shapes -/

theorem clockShape_departures (members : List (String × Document)) :
    clockShape.departures (.object members) =
      Shape.fieldDepartures ("seconds", .integer) members ++
        Shape.unknownDepartures ["seconds"] members := by
  simp [clockShape, Shape.departures, Shape.fieldsDepartures]

theorem rootShape_departures (members : List (String × Document)) :
    rootShape.departures (.object members) =
      Shape.fieldDepartures ("coins", .integer) members ++
          Shape.fieldDepartures ("clock", clockShape) members ++
        Shape.unknownDepartures ["coins", "clock"] members := by
  simp [rootShape, Shape.departures, Shape.fieldsDepartures]

/-- The only departure of what is no object is the whole of it. -/
theorem departures_of_ne_object (fields : List (String × Shape))
    (h : ∀ members, document ≠ .object members) :
    (Shape.object fields).departures document = [{ location := [], fault := .notObject }] := by
  cases document with
  | object members => exact absurd rfl (h members)
  | _ => rfl

theorem lists_integerDepartures (place : Nat) (key : String) (h : DistinctKeys members) :
    Lists (IntegerViolation place key members)
      (Shape.fieldDepartures (key, .integer) members) := by
  rw [Shape.fieldDepartures]
  split
  · next hmember =>
    refine lists_nil ?_
    rintro _ _ ⟨hvalue, -⟩
    exact member?_eq_none_iff.mp hmember (List.mem_map_of_mem hvalue)
  · next document hmember =>
    have hin := h.member?_eq_some_iff.mp hmember
    by_cases hinteger : ∃ n, document = .integer n
    · obtain ⟨n, rfl⟩ := hinteger
      refine lists_nil ?_
      rintro _ _ ⟨hvalue, hnot⟩
      exact hnot n (h.eq_of_mem hvalue hin)
    · have hnot : ∀ n, document ≠ .integer n := not_exists.mp hinteger
      have hdepartures : Shape.integer.departures document =
          [{ location := [], fault := .notInteger }] := by
        cases document with
        | integer n => exact absurd rfl (hnot n)
        | _ => rfl
      rw [hdepartures]
      refine lists_singleton _ [place] fun departure rank => ⟨?_, ?_⟩
      · rintro ⟨-, -⟩
        exact ⟨rfl, rfl⟩
      · rintro ⟨rfl, rfl⟩
        exact .notInteger hin hnot

theorem eraseDups_eq_self {names : List String} (h : names.Nodup) : names.eraseDups = names := by
  induction names with
  | nil => rfl
  | cons name names ih =>
    obtain ⟨hname, hnames⟩ := List.nodup_cons.mp h
    have hfilter : names.filter (fun other => !other == name) = names := by
      rw [List.filter_eq_self]
      rintro other hother
      simpa using fun heq : other = name => hname (heq ▸ hother)
    rw [List.eraseDups_cons, hfilter, ih hnames]

theorem lists_unknownDepartures (place : Nat) (known : List String) (h : DistinctKeys members) :
    Lists (UnknownViolation place known members) (Shape.unknownDepartures known members) := by
  have hnames : Shape.unknownNames known members =
      (members.filter fun member => !known.contains member.1).map (·.1) := by
    rw [Shape.unknownNames, eraseDups_eq_self (h.filter _), List.filter_map]
    rfl
  -- the ranks are the places in the file, which stay in order when known members are left out
  refine ⟨(members.zipIdx.filter fun entry => !known.contains entry.1.1).map fun entry =>
    ({ location := [entry.1.1], fault := .unknownMember }, [place, entry.2]), ?_, ?_, ?_⟩
  · rw [Shape.unknownDepartures, hnames]
    nth_rewrite 2 [← List.zipIdx_map_fst 0 members]
    rw [List.filter_map, List.map_map, List.map_map, List.map_map]
    rfl
  · have hplaces : (members.zipIdx.map Prod.snd).Pairwise (· < ·) := by
      rw [List.zipIdx_map_snd]
      exact List.pairwise_lt_range'
    rw [List.pairwise_map] at hplaces ⊢
    refine (hplaces.filter _).imp fun hlt => ?_
    exact Rank.before_cons place (Rank.before_of_lt hlt [] [])
  · intro departure rank
    simp only [List.mem_map, List.mem_filter, List.mem_zipIdx_iff_getElem?, Prod.exists]
    constructor
    · rintro ⟨name, value, i, ⟨hmember, hname⟩, ⟨⟩⟩
      exact .unknown hmember (by simpa using hname)
    · rintro ⟨hmember, hname⟩
      exact ⟨_, _, _, ⟨hmember, by simpa using hname⟩, rfl⟩

/-- The violations of an object are those among its members. -/
theorem lists_object {violation : List (String × Document) → Departure → Rank → Prop}
    (hother : (∀ members, document ≠ .object members) →
      departures = [{ location := [], fault := .notObject }])
    (hobject : ∀ members, document = .object members → Lists (violation members) departures) :
    Lists (ObjectViolation violation document) departures := by
  by_cases hdocument : ∃ members, document = .object members
  · obtain ⟨members, rfl⟩ := hdocument
    obtain ⟨ranked, hmap, hsorted, hmem⟩ := hobject members rfl
    refine ⟨ranked, hmap, hsorted, fun departure rank => (hmem departure rank).trans ⟨.inside, ?_⟩⟩
    rintro (hnot | h)
    · exact absurd rfl (hnot members)
    · exact h
  · have hnot : ∀ members, document ≠ .object members := not_exists.mp hdocument
    rw [hother hnot]
    refine lists_singleton _ [] fun departure rank => ⟨?_, ?_⟩
    · rintro (- | -)
      · exact ⟨rfl, rfl⟩
      · exact absurd rfl (hnot _)
    · rintro ⟨rfl, rfl⟩
      exact .notObject hnot

theorem lists_clockDepartures (h : document.HasDistinctKeys) :
    Lists (ClockViolation document) (clockShape.departures document) := by
  refine lists_object (departures_of_ne_object _) ?_
  rintro members rfl
  rw [clockShape_departures]
  refine (lists_integerDepartures 0 "seconds" h.distinctKeys).append
    (lists_unknownDepartures 1 ["seconds"] h.distinctKeys) ?_ fun departure rank => Iff.rfl
  rintro _ _ _ _ ⟨-, -⟩ ⟨-, -⟩
  exact Rank.before_of_lt (by decide) _ _

theorem lists_clockMember (place : Nat) (key : String)
    (h : (Document.object members).HasDistinctKeys) :
    Lists (ClockMemberViolation place key members)
      (Shape.fieldDepartures (key, clockShape) members) := by
  rw [Shape.fieldDepartures]
  split
  · next hmember =>
    refine lists_nil ?_
    rintro _ _ ⟨hclock, -⟩
    exact member?_eq_none_iff.mp hmember (List.mem_map_of_mem hclock)
  · next document hmember =>
    have hclock := h.distinctKeys.member?_eq_some_iff.mp hmember
    refine (lists_clockDepartures (h.of_mem hclock)).within key place fun departure rank =>
      ⟨?_, ?_⟩
    · rintro ⟨hother, hviolation⟩
      obtain rfl := h.distinctKeys.eq_of_mem hclock hother
      exact ⟨_, _, hviolation, rfl, rfl⟩
    · rintro ⟨inner, later, hviolation, rfl, rfl⟩
      exact .inClock hclock hviolation

/-- A document departs from the shape of a state in its violations, in the order of their ranks. -/
theorem lists_rootDepartures (h : document.HasDistinctKeys) :
    Lists (RootViolation document) (rootShape.departures document) := by
  refine lists_object (departures_of_ne_object _) ?_
  rintro members rfl
  rw [rootShape_departures]
  have hknown := (lists_integerDepartures 0 "coins" h.distinctKeys).append
    (lists_clockMember 1 "clock" h) (by
      rintro _ _ _ _ ⟨-, -⟩ ⟨-, -⟩
      exact Rank.before_of_lt (by decide) _ _) fun _ _ => Iff.rfl
  refine hknown.append (lists_unknownDepartures 2 ["coins", "clock"] h.distinctKeys) ?_
    fun _ _ => Iff.rfl
  rintro _ _ _ _ (⟨-, -⟩ | ⟨-, -⟩) ⟨-, -⟩ <;>
    exact Rank.before_of_lt (by decide) _ _

/-! ## What is read -/

theorem holdsInteger_iff (key : String) (h : DistinctKeys members) (value : Int) :
    HoldsInteger key members value ↔
      Shape.fieldDepartures (key, .integer) members = [] ∧ integerMember key members = value := by
  rw [Shape.fieldDepartures, integerMember]
  constructor
  · rintro (hmember | hkey)
    · rw [h.member?_eq_some_iff.mpr hmember]
      exact ⟨rfl, rfl⟩
    · rw [member?_eq_none_iff.mpr hkey]
      exact ⟨rfl, rfl⟩
  · cases hmember : member? key members with
    | none =>
      rintro ⟨-, rfl⟩
      exact .missing (member?_eq_none_iff.mp hmember)
    | some document =>
      cases document with
      | integer n =>
        rintro ⟨-, rfl⟩
        exact .present (h.member?_eq_some_iff.mp hmember)
      | _ =>
        rintro ⟨hdepartures, -⟩
        cases hdepartures

theorem unknownDepartures_eq_nil_iff {known : List String} :
    Shape.unknownDepartures known members = [] ↔ ∀ member ∈ members, member.1 ∈ known := by
  rw [Shape.unknownDepartures, List.map_eq_nil_iff, List.eq_nil_iff_forall_not_mem]
  simp only [Shape.unknownNames, List.mem_eraseDups, List.mem_filter, List.mem_map,
    Bool.not_eq_true', List.contains_eq_mem, decide_eq_false_iff_not]
  constructor
  · intro h member hmember
    by_contra hname
    exact h member.1 ⟨⟨member, hmember, rfl⟩, hname⟩
  · rintro h name ⟨⟨member, hmember, rfl⟩, hname⟩
    exact hname (h member hmember)

theorem describesClock_iff (h : document.HasDistinctKeys) {clock : Clock} :
    DescribesClock document clock ↔
      clockShape.departures document = [] ∧ clockOf document = clock := by
  by_cases hobject : ∃ members, document = .object members
  · obtain ⟨members, rfl⟩ := hobject
    have hseconds := holdsInteger_iff "seconds" h.distinctKeys
    rw [clockShape_departures, List.append_eq_nil_iff, unknownDepartures_eq_nil_iff, clockOf]
    constructor
    · rintro ⟨known, seconds⟩
      obtain ⟨hdepartures, hvalue⟩ := (hseconds _).mp seconds
      exact ⟨⟨hdepartures, known⟩, by rw [hvalue]⟩
    · rintro ⟨⟨hdepartures, known⟩, rfl⟩
      exact ⟨known, (hseconds _).mpr ⟨hdepartures, rfl⟩⟩
  · have hnot : ∀ members, document ≠ .object members := not_exists.mp hobject
    rw [clockShape, departures_of_ne_object _ hnot]
    constructor
    · rintro ⟨-, -⟩
      exact absurd rfl (hnot _)
    · simp

theorem holdsClock_iff (key : String) (h : (Document.object members).HasDistinctKeys)
    (clock : Clock) :
    HoldsClock key members clock ↔
      Shape.fieldDepartures (key, clockShape) members = [] ∧
        ((member? key members).map clockOf).getD {} = clock := by
  rw [Shape.fieldDepartures]
  constructor
  · rintro (⟨hmember, hclock⟩ | hkey)
    · rw [h.distinctKeys.member?_eq_some_iff.mpr hmember]
      obtain ⟨hdepartures, hvalue⟩ := (describesClock_iff (h.of_mem hmember)).mp hclock
      exact ⟨List.map_eq_nil_iff.mpr hdepartures, hvalue⟩
    · rw [member?_eq_none_iff.mpr hkey]
      exact ⟨rfl, rfl⟩
  · cases hmember : member? key members with
    | none =>
      rintro ⟨-, rfl⟩
      exact .missing (member?_eq_none_iff.mp hmember)
    | some document =>
      have hclock := h.distinctKeys.member?_eq_some_iff.mp hmember
      rintro ⟨hdepartures, hvalue⟩
      exact .present hclock ((describesClock_iff (h.of_mem hclock)).mpr
        ⟨List.map_eq_nil_iff.mp hdepartures, hvalue⟩)

/-- A document describes a state if and only if it departs nowhere from the shape of states and the
state is the one that is read from it. -/
theorem describesRoot_iff (h : document.HasDistinctKeys) {root : Root} :
    DescribesRoot document root ↔
      rootShape.departures document = [] ∧ rootOf document = root := by
  by_cases hobject : ∃ members, document = .object members
  · obtain ⟨members, rfl⟩ := hobject
    have hcoins := holdsInteger_iff "coins" h.distinctKeys
    have hclock := holdsClock_iff "clock" h
    rw [rootShape_departures, List.append_eq_nil_iff, List.append_eq_nil_iff,
      unknownDepartures_eq_nil_iff, rootOf]
    constructor
    · rintro ⟨known, coins, clock⟩
      obtain ⟨hcoinsNil, hcoinsValue⟩ := (hcoins _).mp coins
      obtain ⟨hclockNil, hclockValue⟩ := (hclock _).mp clock
      exact ⟨⟨⟨hcoinsNil, hclockNil⟩, known⟩, by rw [hcoinsValue, hclockValue]⟩
    · rintro ⟨⟨⟨hcoinsNil, hclockNil⟩, known⟩, rfl⟩
      exact ⟨known, (hcoins _).mpr ⟨hcoinsNil, rfl⟩, (hclock _).mpr ⟨hclockNil, rfl⟩⟩
  · have hnot : ∀ members, document ≠ .object members := not_exists.mp hobject
    rw [rootShape, departures_of_ne_object _ hnot]
    constructor
    · rintro ⟨-, -, -⟩
      exact absurd rfl (hnot _)
    · simp

end Schema

end CoinConsole
