import CoinConsole.Proofs.Save.Content
import CoinConsole.Proofs.Save.Refusals

/-!
# Which save files are accepted

In a format that reads and writes JSON and is strict, a save file that holds a document is loaded if
and only if the document describes a state, and the state is then the one it describes. Otherwise
the save file is reported as corrupt, and the reason starts with the place of a violation; it is the
first one if the format tells issues in order (`load_checks_schema`). This needs a document that the
format takes: one whose arrays and objects are nested deeper than in 200 levels is reported as
corrupt without a place, whatever its first violation is (`not_checksSchema_nested`).
-/

namespace CoinConsole

namespace SchemaIssue

theorem place_isPrefix_summary (issue : SchemaIssue) :
    (".".intercalate issue.location).toList <+: issue.summary.toList := by
  rw [summary]
  split
  · next hplace =>
    rw [hplace]
    exact List.nil_prefix
  · show _ <+: (".".intercalate issue.location ++ ": " ++ issue.message).toList
    rw [String.append_assoc, String.toList_append]
    exact List.prefix_append _ _

/-- An issue about the whole content has no place in its summary. -/
theorem summary_of_location_eq_nil {issue : SchemaIssue} (h : issue.location = []) :
    issue.summary = issue.message := by
  rw [summary, h]
  exact if_pos rfl

end SchemaIssue

namespace Save

open Document Schema FileSystem

theorem location_eq_nil_of_ne_object {document : Document} {violation : Departure}
    {rank : Schema.Rank}
    (h : RootViolation document violation rank)
    (hdocument : ∀ members, document ≠ .object members) : violation.location = [] := by
  cases h with
  | notObject => rfl
  | inside => exact absurd rfl (hdocument _)

section

variable [SaveFormat] {files : FileSystem} {path : Path} {document : Document}

/-- The violation is the one that is told first. It is the first of all if the format tells issues
in order. -/
structure IsToldFirst (document : Document) (violation : Departure) : Prop where
  isViolation : ∃ rank, RootViolation document violation rank
  isFirst : SaveFormat.ListsInOrder → IsFirst (RootViolation document) violation

/-- Loading a save file that holds the document answers as it should: with the state the document
describes, or else with an error whose reason starts with the place of the violation that is told
first. What is no object has no place, and the reason is the wording alone. -/
structure ChecksSchema (document : Document) (path : Path) (outcome : Except LoadError Root) :
    Prop where
  ok_iff : ∀ root, outcome = .ok root ↔ DescribesRoot document root
  refused : (∀ root, ¬ DescribesRoot document root) → ∃ error reason violation,
    outcome = .error (.save path (.content error)) ∧
      (LoadFault.content error).error path = .corrupt path reason ∧
      IsToldFirst document violation ∧
      (".".intercalate violation.location).toList <+: reason.toList ∧
      ((∀ members, document ≠ .object members) →
        violation.location = [] ∧ reason = error.first.message)

/-- A document that describes no state has an issue, and the first one is at the place of the
violation that is told first. -/
theorem exists_issues_of_not_describesRoot (hstrict : SaveFormat.IsStrict)
    (hkeys : document.HasDistinctKeys) (hnone : ∀ root, ¬ DescribesRoot document root) :
    ∃ issue others violation, SaveFormat.check rootShape document = issue :: others ∧
      IsToldFirst document violation ∧ issue.location = violation.location := by
  have hlists := lists_rootDepartures hkeys
  cases hcheck : SaveFormat.check rootShape document with
  | nil =>
    have hdepartures := (hstrict.check_eq_nil_iff rootShape hkeys).mp hcheck
    exact absurd ((describesRoot_iff hkeys).mpr ⟨hdepartures, rfl⟩) (hnone _)
  | cons issue others =>
    by_cases horder : SaveFormat.ListsInOrder
    · have hsame := horder rootShape hkeys
      rw [hcheck, List.map_cons] at hsame
      obtain ⟨violation, rest, hdepartures, hplace, -⟩ := List.map_eq_cons_iff.mp hsame.symm
      have hmember : violation ∈ rootShape.departures document := by simp [hdepartures]
      exact ⟨issue, others, violation, rfl,
        ⟨hlists.exists_rank hmember, fun _ => (hdepartures ▸ hlists).isFirst⟩, hplace.symm⟩
    · have hperm := hstrict rootShape hkeys
      rw [hcheck, List.map_cons] at hperm
      obtain ⟨violation, hmember, hplace⟩ := List.mem_map.mp (hperm.subset List.mem_cons_self)
      exact ⟨issue, others, violation, rfl,
        ⟨hlists.exists_rank hmember, fun h => absurd h horder⟩, hplace.symm⟩

/-- A save file is accepted if and only if the document it holds describes a state, and reported as
corrupt, with the violation of the document that is told first, if there is no such state. -/
theorem load_checks_schema (hjson : SaveFormat.IsJson) (hstrict : SaveFormat.IsStrict)
    {text : String} (hat : files.at? path = some (.file text.toUTF8))
    (hholds : Holds SaveFormat.signCounts maxDepth document text)
    (hkeys : document.HasDistinctKeys) : ChecksSchema document path (load files path) := by
  have hread : Schema.read text = readRoot document := by
    rw [Schema.read, hjson.parse_of_holds hholds]
  constructor
  · intro root
    rw [describesRoot_iff hkeys, ← hstrict.check_eq_nil_iff rootShape hkeys, ← readRoot_eq_ok_iff,
      ← hread, load_eq_ok_iff]
    constructor
    · rintro ⟨other, hother, hroot⟩
      obtain rfl : text = other := by
        rw [hat, Option.some.injEq, Node.file.injEq] at hother
        exact String.toByteArray_inj.mp hother
      exact hroot
    · exact fun hroot => ⟨text, hat, hroot⟩
  · intro hnone
    obtain ⟨issue, others, violation, hcheck, hfirst, hplace⟩ :=
      exists_issues_of_not_describesRoot hstrict hkeys hnone
    have herror := read_eq_error_of_check (hjson.parse_of_holds hholds) hcheck
    refine ⟨{ first := issue, others }, issue.summary, violation,
      load_of_schemaError (read_eq_ok_iff.mpr hat) herror, rfl, hfirst, ?_, fun hdocument => ?_⟩
    · rw [← hplace]
      exact issue.place_isPrefix_summary
    · obtain ⟨rank, hviolation⟩ := hfirst.isViolation
      have hnowhere := location_eq_nil_of_ne_object hviolation hdocument
      exact ⟨hnowhere, SchemaIssue.summary_of_location_eq_nil (hplace.trans hnowhere)⟩

end

/-- A save file with an unknown member, and a clock with another one. -/
def strangeMembers : List Written :=
  [⟨"y", .boolean true, "true".toList⟩,
    ⟨"clock", .object [("x", .null)], Written.object 4 2 [⟨"x", .null, "null".toList⟩]⟩]

/-- What is wrong with the clock is told before what is wrong in front of it. -/
theorem load_checks_schema_strange :
    let document := Document.object (strangeMembers.map Written.member)
    let content := String.ofList (Written.object 2 0 strangeMembers)
    Holds false maxDepth document content ∧ document.HasDistinctKeys ∧
      ChecksSchema document defaultPath
        (load (homeWith (.file content.toUTF8)) defaultPath) ∧
      IsFirst (RootViolation document) { location := ["clock", "x"], fault := .unknownMember } := by
  intro document content
  have hclock : ∀ written ∈ [(⟨"x", .null, "null".toList⟩ : Written)],
      written.IsSpelled false (maxDepth - 2) := by
    simpa using ⟨by decide, spells_scalar _ .null⟩
  have hmembers : ∀ written ∈ strangeMembers, written.IsSpelled false (maxDepth - 1) := by
    have hobject := Written.spells_object 4 2 hclock (List.cons_ne_nil _ _)
    simpa [strangeMembers] using
      ⟨⟨by decide, spells_scalar _ .true⟩, ⟨by decide, hobject⟩⟩
  have hholds : Holds false maxDepth document content := by
    rw [Holds, String.toList_ofList]
    exact padded_self (Written.spells_object 2 0 hmembers (List.cons_ne_nil _ _))
  have hnull : Document.null.HasDistinctKeys := by rintro members ⟨⟩
  have htrue : (Document.boolean true).HasDistinctKeys := by rintro members ⟨⟩
  have hclockKeys : (Document.object [("x", .null)]).HasDistinctKeys :=
    hasDistinctKeys_object (List.nodup_singleton _) (by simpa using hnull)
  have hkeys : document.HasDistinctKeys := by
    refine hasDistinctKeys_object (show (["y", "clock"] : List String).Nodup by decide) ?_
    simpa [strangeMembers, Written.member] using And.intro htrue hclockKeys
  have hchecks := load_checks_schema isJson_programFormat isStrict_programFormat
    (at?_homeWith (.file content.toUTF8)) hholds hkeys
  exact ⟨hholds, hkeys, hchecks, (lists_rootDepartures hkeys).isFirst⟩

/-! ## Deep documents -/

variable {signCounts : Bool}

/-- An object whose member `coins` is arrays within arrays. -/
def deepDocument (level : Nat) : Document := .object [("coins", nested level)]

/-- The characters of the member `coins` of such an object. -/
def deepMember (level : Nat) : List Char :=
  '"' :: ("coins".toList ++ ['"']) ++ ([] ++ ':' :: ([] ++ nestedChars (level + 1)))

/-- The content of a save file that holds such an object. -/
def deepContent (level : Nat) : String :=
  String.ofList ('\x7b' :: (deepMember level ++ ['\x7d']))

theorem spellsText_coins : SpellsText "coins" ('"' :: ("coins".toList ++ ['"'])) :=
  .intro (joined_plain (by decide))

theorem spells_deepDocument (level : Nat) :
    Spells signCounts (level + 2) (deepDocument level)
      ('\x7b' :: (deepMember level ++ ['\x7d'])) := by
  have hmember : SpellsMember (Spells signCounts (level + 1)) ("coins", nested level)
      (deepMember level) :=
    .intro spellsText_coins isLayout_nil isLayout_nil (spells_nested level)
  exact Or.inr (.object (.listed (.single (padded_self hmember))))

theorem holds_deepContent (level : Nat) :
    Holds signCounts (level + 2) (deepDocument level) (deepContent level) := by
  rw [Holds, deepContent, String.toList_ofList]
  exact padded_self (spells_deepDocument level)

theorem readMember_deepMember {depth level : Nat} (h : depth < level) (rest : List Char) :
    readMember (readValue signCounts depth) (skipLayout (deepMember level ++ rest)) = none := by
  have hbare : ∀ rest, skipLayout (List.replicate (level + 1) '[' ++ rest) =
      List.replicate (level + 1) '[' ++ rest := fun _ => rfl
  have hchars : skipLayout (deepMember level ++ rest) = '"' :: ("coins".toList ++ ['"']) ++
      ([] ++ ':' :: (List.replicate (level + 1) '[' ++
        (List.replicate (level + 1) ']' ++ rest))) := by
    show deepMember level ++ rest = _
    simp only [deepMember, nestedChars, List.append_assoc, List.nil_append, List.cons_append]
  rw [hchars, readMember_append _ spellsText_coins isLayout_nil, hbare,
    readValue_replicate_eq_none (Nat.succ_lt_succ h)]
  rfl

/-- The reader does not go as deep. -/
theorem read_deepContent {level : Nat} (h : maxDepth ≤ level) :
    Document.read signCounts (deepContent level) = none := by
  have hdepth : maxDepth - 1 < level := Nat.lt_of_lt_of_le (by decide) h
  have hmember : readMember (readValue signCounts (maxDepth - 1))
      (skipLayout (deepMember level ++ ['\x7d'])) = none := readMember_deepMember hdepth _
  have hsequence : readSequence (readMember (readValue signCounts (maxDepth - 1))) '\x7d'
      (deepMember level ++ ['\x7d']) = none :=
    readSequence_eq_none hmember (by rintro rest ⟨⟩)
  have hvalue : readValue signCounts maxDepth
      ('\x7b' :: (deepMember level ++ ['\x7d'])) = none := by
    show readValue signCounts (maxDepth - 1 + 1) _ = none
    rw [readValue, hsequence]
    rfl
  rw [Document.read, deepContent, String.toList_ofList, skipLayout_cons (by decide), hvalue]

theorem hasDistinctKeys_nested (level : Nat) : (nested level).HasDistinctKeys := by
  induction level with
  | zero => exact hasDistinctKeys_array (by simp)
  | succ level ih => exact hasDistinctKeys_array (by simpa using ih)

theorem hasDistinctKeys_deepDocument (level : Nat) : (deepDocument level).HasDistinctKeys :=
  hasDistinctKeys_object (List.nodup_singleton _) (by simpa using hasDistinctKeys_nested level)

/-- The one violation of the document is that `coins` is no integer. -/
theorem location_of_deepDocument {level : Nat} {violation : Departure} {rank : Schema.Rank}
    (h : RootViolation (deepDocument level) violation rank) : violation.location = ["coins"] := by
  cases h with
  | notObject hdocument => exact absurd rfl (hdocument _)
  | inside h =>
    rcases h with (hcoins | hclock) | hunknown
    · obtain ⟨-, -⟩ := hcoins
      rfl
    · obtain ⟨hmember, -⟩ := hclock
      simp at hmember
    · obtain ⟨hmember, hname⟩ := hunknown
      obtain rfl := List.mem_singleton.mp (List.mem_of_getElem? hmember)
      simp at hname

theorem not_describesRoot_deepDocument (level : Nat) (root : Root) :
    ¬ DescribesRoot (deepDocument level) root := by
  rintro ⟨-, hcoins, -⟩
  generalize root.coins = value at hcoins
  cases hcoins with
  | present hmember => cases level <;> simp [nested] at hmember
  | missing hkey => simp at hkey

/-- What is no document is refused, and no place is told. -/
theorem load_of_read_eq_none {text : String} (h : Document.read false text = none) :
    load (homeWith (.file text.toUTF8)) defaultPath =
      .error (.save defaultPath (.content { first := .notDocument, others := [] })) := by
  have hparse : SaveFormat.parse text = .error .notDocument := by
    show Document.parse false text = _
    rw [Document.parse, h]
  have hread : Schema.read text = .error { first := .notDocument, others := [] } := by
    rw [Schema.read, hparse]
  exact load_of_schemaError (read_eq_ok_iff.mpr (at?_homeWith _)) hread

/-- The wording for what is no document does not start with the place of the violation. -/
theorem not_checksSchema_deepDocument (level : Nat) :
    ¬ ChecksSchema (deepDocument level) defaultPath
      (.error (.save defaultPath (.content { first := .notDocument, others := [] }))) := by
  intro hchecks
  obtain ⟨error, reason, violation, herror, hreason, hfirst, hplace, -⟩ :=
    hchecks.refused (not_describesRoot_deepDocument level)
  obtain ⟨rank, hviolation⟩ := hfirst.isViolation
  obtain rfl : { first := .notDocument, others := [] } = error := by simpa using herror
  obtain rfl : SchemaIssue.notDocument.summary = reason := by
    simpa [LoadFault.error, SchemaError.reason] using hreason
  rw [location_of_deepDocument hviolation] at hplace
  revert hplace
  decide

/-- A document in more levels than the format takes is reported without a place, although `coins`
is no integer. So is a text with half a surrogate pair. -/
theorem not_checksSchema_nested :
    let outcome := load (homeWith (.file (deepContent 299).toUTF8)) defaultPath
    let half := load (homeWith (.file "\x7b\"a\": \"\\ud800\"\x7d".toUTF8)) defaultPath
    Holds false 301 (deepDocument 299) (deepContent 299) ∧ (deepDocument 299).HasDistinctKeys ∧
      ¬ ChecksSchema (deepDocument 299) defaultPath outcome ∧
      (∃ error, outcome = .error (.save defaultPath (.content error)) ∧
        error.first.location = []) ∧
      ∃ error, half = .error (.save defaultPath (.content error)) ∧ error.first.location = [] := by
  intro outcome half
  have hdeep : maxDepth ≤ 299 := by decide
  have houtcome : outcome = .error (.save defaultPath (.content ⟨.notDocument, []⟩)) :=
    load_of_read_eq_none (read_deepContent hdeep)
  have hhalf : half = .error (.save defaultPath (.content ⟨.notDocument, []⟩)) :=
    load_of_read_eq_none (by rfl)
  refine ⟨holds_deepContent 299, hasDistinctKeys_deepDocument 299, ?_, ⟨_, houtcome, rfl⟩,
    _, hhalf, rfl⟩
  rw [houtcome]
  exact not_checksSchema_deepDocument 299

end Save

end CoinConsole
