import CoinConsole.Proofs.Document.ReadableIntegers
import CoinConsole.Proofs.Game.ShortIntegers
import CoinConsole.Proofs.Save.Violations
import CoinConsole.Proofs.Text.LineBreaks

/-!
# What is relied on about the format of save files

The format of save files belongs to a library. What the program relies on is stated here as
properties of a format, and results about save files name those they need: it reads and writes JSON
(`SaveFormat.IsJson`) and checks shapes strictly (`SaveFormat.IsStrict`), it may tell the issues in
the order of the shape (`SaveFormat.ListsInOrder`), and what it tells about an issue is a line
(`SaveFormat.HasPlainWording`) and keys of the file (`SaveFormat.LocatesByKeys`). These are facts
about texts, documents and shapes; nothing in them is about files or about the program.

A format that reads and writes JSON and is strict reads back what it has written
(`Schema.read_write`), as long as the integers of the state are short enough to be read at all.
Those of a state that has been read are (`Schema.isReadable_of_read`).
-/

namespace CoinConsole

/-- The document, or an object inside it, has this key. -/
def Document.HasKey (key : String) (document : Document) : Prop :=
  ∃ members, IsPart (object members) document ∧ key ∈ members.map (·.1)

/-- The document for a state. -/
def Root.document (root : Root) : Document :=
  .object [("coins", .integer root.coins),
    ("clock", .object [("seconds", .integer root.clock.seconds)])]

theorem Root.hasDistinctKeys_document (root : Root) : root.document.HasDistinctKeys := by
  have hinteger : ∀ n, (Document.integer n).HasDistinctKeys := by rintro n members ⟨⟩
  have hclock : (Document.object [("seconds", .integer root.clock.seconds)]).HasDistinctKeys :=
    Document.hasDistinctKeys_object (List.nodup_singleton _) (by simpa using hinteger _)
  have hkeys : (["coins", "clock"] : List String).Nodup := by decide
  exact Document.hasDistinctKeys_object hkeys (by simpa using And.intro (hinteger _) hclock)

variable [SaveFormat]

/-- The integers of the state are short enough to be read from a save file. Where a minus sign does
not count as a digit, this says that they can be shown (`Root.isReadable_iff_isShort`). -/
structure Root.IsReadable (root : Root) : Prop where
  coins : Document.IsReadable SaveFormat.signCounts root.coins
  seconds : Document.IsReadable SaveFormat.signCounts root.clock.seconds

/-! ## Properties of formats -/

namespace SaveFormat

open Document Text

/-- The format reads and writes JSON. -/
structure IsJson : Prop where
  /-- A text that spells a document is read as this document, if the integers are short enough and
  arrays and objects are not nested too deep. -/
  parse_of_holds {document : Document} {text : String}
    (h : Holds signCounts maxDepth document text) : parse text = .ok document
  /-- A document with a longer integer is not read. -/
  integers_of_parse {document : Document} {text : String} (h : parse text = .ok document) :
    HasReadableIntegers signCounts document
  /-- What is written for a state spells the document for the state. -/
  holds_write {root : Root} (h : root.IsReadable) :
    Holds signCounts maxDepth root.document (write root)

/-- There is an issue for every place in which a document departs from the shape, and there are no
others. -/
def IsStrict : Prop :=
  ∀ (shape : Shape) {document : Document}, document.HasDistinctKeys →
    ((check shape document).map (·.location)).Perm
      ((shape.departures document).map (·.location))

/-- The issues are told in the order of the fields, with the unknown members behind them. -/
def ListsInOrder : Prop :=
  ∀ (shape : Shape) {document : Document}, document.HasDistinctKeys →
    (check shape document).map (·.location) = (shape.departures document).map (·.location)

/-- The wordings of issues are single lines. -/
structure HasPlainWording : Prop where
  parse {text : String} {issue : SchemaIssue} (h : parse text = .error issue) :
    IsSingleLine issue.message
  check {shape : Shape} {document : Document} {issue : SchemaIssue}
    (h : issue ∈ check shape document) : IsSingleLine issue.message

/-- The place of an issue is made of keys of the document; where there is no document, it is
empty. -/
structure LocatesByKeys : Prop where
  parse {text : String} {issue : SchemaIssue} (h : parse text = .error issue) :
    issue.location = []
  check {shape : Shape} {document : Document} {issue : SchemaIssue}
    (h : issue ∈ check shape document) : ∀ key ∈ issue.location, document.HasKey key

theorem ListsInOrder.isStrict (h : ListsInOrder) : IsStrict :=
  fun shape _ hkeys => .of_eq (h shape hkeys)

/-- A strict format has nothing to say about a document exactly if this has the shape. -/
theorem IsStrict.check_eq_nil_iff (h : IsStrict) (shape : Shape) {document : Document}
    (hkeys : document.HasDistinctKeys) :
    check shape document = [] ↔ shape.departures document = [] := by
  have hperm := h shape hkeys
  rw [← List.map_eq_nil_iff (f := (·.location)) (l := check shape document),
    ← List.map_eq_nil_iff (f := (·.location)) (l := shape.departures document)]
  exact ⟨fun hnil => List.nil_perm.mp (hnil ▸ hperm), fun hnil => List.perm_nil.mp (hnil ▸ hperm)⟩

end SaveFormat

namespace Schema

open Document

variable {document : Document} {root : Root}

/-! ## What is read -/

theorem readRoot_eq_ok_iff :
    readRoot document = .ok root ↔
      SaveFormat.check rootShape document = [] ∧ rootOf document = root := by
  rw [readRoot]
  split
  · next hcheck => simp [hcheck]
  · next hcheck => simp [hcheck]

theorem read_eq_ok_iff {text : String} :
    Schema.read text = .ok root ↔ ∃ document, SaveFormat.parse text = .ok document ∧
      readRoot document = .ok root := by
  rw [Schema.read]
  cases SaveFormat.parse text <;> simp

theorem read_eq_error_of_check {text : String} {first : SchemaIssue} {others : List SchemaIssue}
    (hparse : SaveFormat.parse text = .ok document)
    (hcheck : SaveFormat.check rootShape document = first :: others) :
    Schema.read text = .error { first, others } := by
  rw [Schema.read, hparse]
  dsimp only
  rw [readRoot, hcheck]

/-- What is wrong with a content is that it is no document, or what the check tells. -/
theorem exists_issue_of_read_eq_error {text : String} {error : SchemaError}
    (h : Schema.read text = .error error) :
    SaveFormat.parse text = .error error.first ∨ ∃ document,
      SaveFormat.parse text = .ok document ∧
        SaveFormat.check rootShape document = error.first :: error.others := by
  rw [Schema.read] at h
  split at h
  · next issue hparse =>
    obtain rfl := Except.error.inj h
    exact Or.inl hparse
  · next document hparse =>
    rw [readRoot] at h
    split at h
    · cases h
    · next hcheck =>
      obtain rfl := Except.error.inj h
      exact Or.inr ⟨document, hparse, hcheck⟩

/-! ## Reading back what has been written -/

/-- The content written for a state is read back as the state. -/
theorem read_write (hjson : SaveFormat.IsJson) (hstrict : SaveFormat.IsStrict)
    (h : root.IsReadable) : Schema.read (SaveFormat.write root) = .ok root := by
  have hdepartures : rootShape.departures root.document = [] := rfl
  have hcheck :=
    (hstrict.check_eq_nil_iff rootShape root.hasDistinctKeys_document).mpr hdepartures
  exact read_eq_ok_iff.mpr ⟨root.document, hjson.parse_of_holds (hjson.holds_write h),
    readRoot_eq_ok_iff.mpr ⟨hcheck, rfl⟩⟩

/-! ## What has been read -/

theorem isReadable_zero : Document.IsReadable SaveFormat.signCounts 0 := by
  have hsign := signDigits_le_one SaveFormat.signCounts (decide ((0 : Int) < 0))
  exact Nat.le_trans (Nat.add_le_add_right hsign 1) (by decide)

theorem isReadable_integerMember {members : List (String × Document)} (key : String)
    (h : ∀ member ∈ members, HasReadableIntegers SaveFormat.signCounts member.2) :
    Document.IsReadable SaveFormat.signCounts (integerMember key members) := by
  rw [integerMember]
  split
  · next value hmember =>
    cases h _ (mem_of_member? hmember) with
    | integer hvalue => exact hvalue
  · exact isReadable_zero

theorem isReadable_clockOf (h : HasReadableIntegers SaveFormat.signCounts document) :
    Document.IsReadable SaveFormat.signCounts (clockOf document).seconds := by
  cases h with
  | object h => exact isReadable_integerMember "seconds" h
  | _ => exact isReadable_zero

theorem isReadable_rootOf (h : HasReadableIntegers SaveFormat.signCounts document) :
    (rootOf document).IsReadable := by
  cases h with
  | object h =>
    refine ⟨isReadable_integerMember "coins" h, ?_⟩
    rw [rootOf]
    cases hclock : member? "clock" _ with
    | none => exact isReadable_zero
    | some document => exact isReadable_clockOf (h _ (mem_of_member? hclock))
  | _ => exact ⟨isReadable_zero, isReadable_zero⟩

/-- A state that has been read can be written and read again. -/
theorem isReadable_of_read (hjson : SaveFormat.IsJson) {text : String}
    (h : Schema.read text = .ok root) : root.IsReadable := by
  obtain ⟨document, hparse, hroot⟩ := read_eq_ok_iff.mp h
  obtain ⟨-, rfl⟩ := readRoot_eq_ok_iff.mp hroot
  exact isReadable_rootOf (hjson.integers_of_parse hparse)

end Schema

/-! ## Readable and short integers -/

namespace Root

theorem isReadable_newGame : ({} : Root).IsReadable :=
  ⟨Schema.isReadable_zero, Schema.isReadable_zero⟩

/-- Where a minus sign does not count as a digit, the integers that can be read are the ones that
can be shown. -/
theorem isReadable_iff_isShort (hsign : SaveFormat.signCounts = false) {root : Root} :
    root.IsReadable ↔ root.IsShort := by
  have hinteger : ∀ n : Int,
      Document.IsReadable SaveFormat.signCounts n ↔ CoinConsole.IsShort n := by
    intro n
    rw [hsign, Document.IsReadable, Document.signDigits, Bool.false_and, if_neg Bool.false_ne_true,
      Nat.zero_add]
    exact Iff.rfl
  exact ⟨fun h => ⟨(hinteger _).mp h.coins, (hinteger _).mp h.seconds⟩,
    fun h => ⟨(hinteger _).mpr h.coins, (hinteger _).mpr h.seconds⟩⟩

end Root

end CoinConsole
