import CoinConsole.Proofs.Document.Written
import CoinConsole.Proofs.Save.Format
import CoinConsole.Save.JsonFormat

/-!
# JSON save files

JSON has the properties that are relied on, whether a minus sign counts as a digit or not. States
are written as objects with a member on each line (`isJson_jsonFormat`), and the issues of a
document are those of its shape, one for one (`listsInOrder_jsonFormat`), each at a place that is
made of keys of the document (`locatesByKeys_jsonFormat`).
-/

namespace CoinConsole

open Document

variable (signCounts : Bool)

/-! ## What is written -/

namespace Root

/-- The member of a written object that holds an integer. -/
def writtenInteger (key : String) (value : Int) : Written where
  key := key
  value := .integer value
  chars := (toString value).toList

/-- The members a clock is written with. -/
def writtenClock (clock : Clock) : List Written := [writtenInteger "seconds" clock.seconds]

/-- The members a state is written with. -/
def written (root : Root) : List Written :=
  [writtenInteger "coins" root.coins,
    { key := "clock"
      value := .object ((writtenClock root.clock).map Written.member)
      chars := Written.object 4 2 (writtenClock root.clock) }]

theorem toList_json (root : Root) : root.json.toList = Written.object 2 0 root.written := by
  have hliteral : ∀ text : String, toString text = text := fun _ => rfl
  simp [json, hliteral, Written.object, Written.lines, Written.line, written, writtenClock,
    writtenInteger, lineBreak, List.replicate]

variable {signCounts}

theorem isSpelled_writtenInteger (depth : Nat) {key : String}
    (hkey : key.toList.all isPlain = true) {value : Int}
    (h : Document.IsReadable signCounts value) :
    (writtenInteger key value).IsSpelled signCounts depth :=
  ⟨hkey, spells_scalar depth (.integer (spellsInteger_toString h))⟩

theorem isSpelled_written (depth : Nat) {root : Root}
    (hcoins : Document.IsReadable signCounts root.coins)
    (hseconds : Document.IsReadable signCounts root.clock.seconds) :
    ∀ written ∈ root.written, written.IsSpelled signCounts (depth + 1) := by
  have hclock : ∀ written ∈ writtenClock root.clock, written.IsSpelled signCounts depth := by
    simpa [writtenClock] using isSpelled_writtenInteger depth (by rfl) hseconds
  have hobject := Written.spells_object 4 2 hclock (List.cons_ne_nil _ _)
  have hkey : "clock".toList.all isPlain = true := by rfl
  intro member hmember
  simp only [written, List.mem_cons, List.not_mem_nil, or_false] at hmember
  rcases hmember with rfl | rfl
  · exact isSpelled_writtenInteger (depth + 1) (by rfl) hcoins
  · exact ⟨hkey, hobject⟩

theorem holds_json {root : Root} (hcoins : Document.IsReadable signCounts root.coins)
    (hseconds : Document.IsReadable signCounts root.clock.seconds) :
    Holds signCounts maxDepth root.document root.json := by
  rw [Holds, toList_json]
  exact padded_self (Written.spells_object 2 0 (isSpelled_written (maxDepth - 2) hcoins hseconds)
    (List.cons_ne_nil _ _))

end Root

namespace Document

variable {signCounts} {text : String} {document : Document} {issue : SchemaIssue}

theorem parse_eq_ok_iff :
    Document.parse signCounts text = .ok document ↔
      Document.read signCounts text = some document := by
  rw [Document.parse]
  cases Document.read signCounts text <;> simp

theorem eq_notDocument_of_parse (h : Document.parse signCounts text = .error issue) :
    issue = .notDocument := by
  rw [Document.parse] at h
  cases hread : Document.read signCounts text with
  | none =>
    rw [hread] at h
    exact (Except.error.inj h).symm
  | some document =>
    rw [hread] at h
    cases h

end Document

theorem isJson_jsonFormat : @SaveFormat.IsJson (jsonFormat signCounts) := by
  refine @SaveFormat.IsJson.mk (jsonFormat signCounts) ?_ ?_ ?_
  · exact fun h => parse_eq_ok_iff.mpr (read_of_holds h)
  · exact fun h => hasReadableIntegers_of_read (parse_eq_ok_iff.mp h)
  · rintro root ⟨hcoins, hseconds⟩
    exact Root.holds_json hcoins hseconds

/-! ## What is told -/

theorem listsInOrder_jsonFormat : @SaveFormat.ListsInOrder (jsonFormat signCounts) := by
  intro shape document _
  exact List.map_map

theorem isStrict_jsonFormat : @SaveFormat.IsStrict (jsonFormat signCounts) :=
  @SaveFormat.ListsInOrder.isStrict (jsonFormat signCounts) (listsInOrder_jsonFormat signCounts)

theorem Fault.isSingleLine_message (fault : Fault) : Text.IsSingleLine fault.message := by
  cases fault <;> decide

theorem hasPlainWording_jsonFormat : @SaveFormat.HasPlainWording (jsonFormat signCounts) := by
  refine @SaveFormat.HasPlainWording.mk (jsonFormat signCounts) ?_ ?_
  · intro text issue h
    rw [eq_notDocument_of_parse h]
    decide
  · intro shape document issue h
    obtain ⟨departure, -, rfl⟩ := List.mem_map.mp h
    exact departure.fault.isSingleLine_message

/-! ## Places of departures -/

namespace Document

variable {key : String} {members : List (String × Document)}

theorem hasKey_of_mem (h : key ∈ members.map (·.1)) : (object members).HasKey key :=
  ⟨members, .self _, h⟩

theorem HasKey.of_mem {member : String × Document} (hmember : member ∈ members)
    (h : member.2.HasKey key) : (object members).HasKey key := by
  obtain ⟨inner, hinner, hkey⟩ := h
  exact ⟨inner, .member hmember hinner, hkey⟩

end Document

namespace Shape

open Schema

variable {departure : Departure} {members : List (String × Document)}

theorem hasKey_of_mem_unknownDepartures {known : List String}
    (h : departure ∈ unknownDepartures known members) :
    ∀ key ∈ departure.location, (Document.object members).HasKey key := by
  obtain ⟨name, hname, rfl⟩ := List.mem_map.mp h
  rw [unknownNames, List.mem_eraseDups, List.mem_filter] at hname
  intro key hkey
  rw [List.mem_singleton.mp hkey]
  exact hasKey_of_mem hname.1

mutual

/-- A document departs from its shape at places made of its keys. -/
theorem hasKey_of_mem_departures : ∀ (shape : Shape) {document : Document} {departure : Departure},
    departure ∈ shape.departures document → ∀ key ∈ departure.location, document.HasKey key
  | integer, document, departure, h => by
    cases document <;> simp_all [departures]
  | object fields, document, departure, h => by
    by_cases hobject : ∃ members, document = .object members
    · obtain ⟨members, rfl⟩ := hobject
      rcases List.mem_append.mp h with hfields | hunknown
      · exact hasKey_of_mem_fieldsDepartures fields hfields
      · exact hasKey_of_mem_unknownDepartures hunknown
    · rw [departures_of_ne_object fields (not_exists.mp hobject)] at h
      rw [List.mem_singleton.mp h]
      exact fun key hkey => absurd hkey List.not_mem_nil

theorem hasKey_of_mem_fieldsDepartures : ∀ (fields : List (String × Shape))
    {members : List (String × Document)} {departure : Departure},
    departure ∈ fieldsDepartures fields members →
      ∀ key ∈ departure.location, (Document.object members).HasKey key
  | [], _, _, h => by cases h
  | field :: fields, members, departure, h => by
    rcases List.mem_append.mp h with hfield | hfields
    · exact hasKey_of_mem_fieldDepartures field hfield
    · exact hasKey_of_mem_fieldsDepartures fields hfields

theorem hasKey_of_mem_fieldDepartures : ∀ (field : String × Shape)
    {members : List (String × Document)} {departure : Departure},
    departure ∈ fieldDepartures field members →
      ∀ key ∈ departure.location, (Document.object members).HasKey key
  | (name, shape), members, departure, h => by
    rw [fieldDepartures] at h
    split at h
    · cases h
    · next document hmember =>
      obtain ⟨inner, hinner, rfl⟩ := List.mem_map.mp h
      have hin := mem_of_member? hmember
      intro key hkey
      rcases List.mem_cons.mp hkey with rfl | hkey
      · exact hasKey_of_mem (List.mem_map_of_mem hin)
      · exact .of_mem hin (hasKey_of_mem_departures shape hinner key hkey)

end

end Shape

theorem locatesByKeys_jsonFormat : @SaveFormat.LocatesByKeys (jsonFormat signCounts) := by
  refine @SaveFormat.LocatesByKeys.mk (jsonFormat signCounts) ?_ ?_
  · intro text issue h
    rw [eq_notDocument_of_parse h]
    rfl
  · intro shape document issue h
    obtain ⟨departure, hdeparture, rfl⟩ := List.mem_map.mp h
    exact Shape.hasKey_of_mem_departures _ hdeparture

/-! ## The format of the program -/

theorem isJson_programFormat : SaveFormat.IsJson := isJson_jsonFormat false

theorem isStrict_programFormat : SaveFormat.IsStrict := isStrict_jsonFormat false

theorem hasPlainWording_programFormat : SaveFormat.HasPlainWording :=
  hasPlainWording_jsonFormat false

theorem locatesByKeys_programFormat : SaveFormat.LocatesByKeys := locatesByKeys_jsonFormat false

end CoinConsole
