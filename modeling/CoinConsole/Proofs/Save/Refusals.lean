import CoinConsole.Proofs.Save.RoundTrip

/-!
# How loading fails

A game that cannot be loaded is reported with an error about its save file: a missing one, if the
way to the path ends where nothing stands (`LeadsNowhere`), and a corrupt one in every other case,
be it a directory, a file on the way, a name too long or a content that describes no state
(`Reported`). Two causes are not reported like that. A path with a null byte cannot be handed to
the operating system, and a file whose bytes are no text is not decoded; both end loading with an
error of their own (`load_reported_iff`).

Loading only looks: it answers with a state or an error and hands no files back.
-/

namespace CoinConsole

namespace FileSystem

variable {files : FileSystem} {place : Location} {path : Path}

/-! ## Ways that end nowhere -/

/-- On the way along `names` there is a location where nothing stands, perhaps the last one. -/
def EndsNowhere (files : FileSystem) (place : Location) (names : List String) : Prop :=
  ∃ front stop, front <+: names ∧ files.walk place front = .ok stop ∧ files.node? stop = none

theorem endsNowhere_nil : files.EndsNowhere place [] ↔ files.node? place = none := by
  constructor
  · rintro ⟨front, stop, hfront, hwalk, hnode⟩
    rw [List.prefix_nil.mp hfront, walk, Except.ok.injEq] at hwalk
    rwa [hwalk]
  · exact fun h => ⟨[], place, List.prefix_rfl, rfl, h⟩

theorem endsNowhere_cons {name : String} {rest : List String} :
    files.EndsNowhere place (name :: rest) ↔ files.node? place = none ∨
      files.node? place = some .directory ∧ name.utf8ByteSize ≤ maxNameBytes ∧
        files.EndsNowhere (enter place name) rest := by
  constructor
  · rintro ⟨front, stop, hfront, hwalk, hnode⟩
    rcases List.prefix_cons_iff.mp hfront with rfl | ⟨later, rfl, hlater⟩
    · rw [walk, Except.ok.injEq] at hwalk
      exact Or.inl (hwalk ▸ hnode)
    · obtain ⟨hdirectory, hshort, hwalk⟩ := walk_cons_eq_ok_iff.mp hwalk
      exact Or.inr ⟨hdirectory, hshort, later, stop, hlater, hwalk, hnode⟩
  · rintro (hnode | ⟨hdirectory, hshort, front, stop, hfront, hwalk, hnode⟩)
    · exact ⟨[], place, List.nil_prefix, rfl, hnode⟩
    · exact ⟨name :: front, stop, (List.prefix_cons_inj name).mpr hfront,
        walk_cons_eq_ok_iff.mpr ⟨hdirectory, hshort, hwalk⟩, hnode⟩

/-- A walk finds out that its way ends nowhere, on the way or at its end. -/
theorem walk_endsNowhere_iff {names : List String} :
    files.EndsNowhere place names ↔ files.walk place names = .error .missing ∨
      ∃ stop, files.walk place names = .ok stop ∧ files.node? stop = none := by
  induction names generalizing place with
  | nil => simp [endsNowhere_nil, walk]
  | cons name rest ih =>
    rw [endsNowhere_cons, ih, walk]
    cases hnode : files.node? place with
    | none => simp
    | some node =>
      cases node with
      | file content => simp
      | directory =>
        by_cases hlong : maxNameBytes < name.utf8ByteSize
        · simp [hlong, Nat.not_le.mpr hlong]
        · rw [if_neg hlong, ← apply_ite (fun next => files.walk next rest)]
          simp [enter, Nat.not_lt.mp hlong]

/-- The path can be handed over and looked up, and the way there ends where nothing stands. -/
structure LeadsNowhere (files : FileSystem) (path : Path) : Prop where
  noNull : path.hasNull = false
  short : path.text.utf8ByteSize ≤ maxPathBytes
  ends : files.EndsNowhere (files.start path.anchor) path.names

/-! ## Failed reads -/

theorem read_eq_nullByte_iff (files : FileSystem) :
    files.read path = .error .nullByte ↔ path.hasNull = true := by
  have haccess : files.access path = .error .nullByte ↔ path.hasNull = true :=
    access_eq_nullByte_iff
  rw [← haccess, read]
  cases files.access path with
  | error e => simp
  | ok place =>
    cases hnode : files.node? place with
    | none => simp [hnode]
    | some node => cases node <;> simp [hnode]

/-- Nothing is found at a path that leads nowhere, and only there. -/
theorem read_eq_missing_iff : files.read path = .error (.file .missing) ↔
    files.LeadsNowhere path := by
  have hleads : files.LeadsNowhere path ↔ path.hasNull = false ∧
      path.text.utf8ByteSize ≤ maxPathBytes ∧
        files.EndsNowhere (files.start path.anchor) path.names :=
    ⟨fun h => ⟨h.noNull, h.short, h.ends⟩, fun h => ⟨h.1, h.2.1, h.2.2⟩⟩
  rw [hleads, walk_endsNowhere_iff, read, access, resolve_eq]
  cases hnull : path.hasNull with
  | true => simp
  | false =>
    by_cases hlong : maxPathBytes < path.text.utf8ByteSize
    · simp [hlong, Nat.not_le.mpr hlong]
    · cases hwalk : files.walk (files.start path.anchor) path.names with
      | error e => simp [hlong, Nat.not_lt.mp hlong]
      | ok place =>
        cases hnode : files.node? place with
        | none => simp [hlong, Nat.not_lt.mp hlong, hnode]
        | some node => cases node <;> simp [hlong, hnode]

end FileSystem

namespace Save

open FileSystem

variable {files : FileSystem} {path : Path} {root : Root}

/-! ## Failed loads -/

/-- The bytes of a file are a text. -/
def IsText (content : ByteArray) : Prop := ∃ text : String, content = text.toUTF8

section

variable [SaveFormat]

/-- The state a file at the path describes. -/
def HoldsState (files : FileSystem) (path : Path) (root : Root) : Prop :=
  ∃ text, files.at? path = some (.file text.toUTF8) ∧ Schema.read text = .ok root

/-- What comes of loading is the state that the file at the path describes, or an error about the
save file: it is missing if the path leads nowhere, and corrupt if the path leads somewhere, but to
no state. -/
inductive Reported (files : FileSystem) (path : Path) : Except LoadError Root → Prop
  | loaded {root : Root} (holds : HoldsState files path root) : Reported files path (.ok root)
  | missing {fault : LoadFault} (error_eq : fault.error path = .missing path)
      (nowhere : files.LeadsNowhere path) : Reported files path (.error (.save path fault))
  | corrupt {fault : LoadFault} {reason : String} (error_eq : fault.error path = .corrupt path reason)
      (somewhere : ¬ files.LeadsNowhere path) (stateless : ∀ root, ¬ HoldsState files path root) :
      Reported files path (.error (.save path fault))

theorem load_of_nullByte (h : files.read path = .error .nullByte) :
    load files path = .error (.path .nullByte) := by
  rw [load, h]

theorem load_of_fileError {e : FileError} (h : files.read path = .error (.file e)) :
    load files path = .error (.save path (.file e)) := by
  rw [load, h]

theorem load_of_notText {content : ByteArray} (h : files.read path = .ok content)
    (htext : ¬ IsText content) : load files path = .error .notText := by
  have hdecode : String.fromUTF8? content = none := by
    rw [Option.eq_none_iff_forall_ne_some]
    exact fun text hsome => htext ⟨text, fromUTF8?_eq_some_iff.mp hsome⟩
  rw [load, h]
  simp only [hdecode]

theorem load_of_schemaError {text : String} {e : SchemaError}
    (h : files.read path = .ok text.toUTF8) (hread : Schema.read text = .error e) :
    load files path = .error (.save path (.content e)) := by
  rw [load, h]
  simp only [fromUTF8?_eq_some_iff.mpr rfl, hread]

/-- A file that cannot be read is missing or corrupt. -/
theorem reported_of_fileError {e : FileError} (h : files.read path = .error (.file e)) :
    Reported files path (load files path) := by
  have hnowhere : e = .missing ↔ files.LeadsNowhere path := by
    rw [← read_eq_missing_iff, h]
    simp
  have hstateless : ∀ root, ¬ HoldsState files path root := by
    rintro root ⟨text, hat, -⟩
    simp [read_eq_ok_iff.mpr hat] at h
  rw [load_of_fileError h]
  cases e with
  | missing => exact .missing rfl (hnowhere.mp rfl)
  | notDirectory => exact .corrupt rfl (mt hnowhere.mpr (by simp)) hstateless
  | isDirectory => exact .corrupt rfl (mt hnowhere.mpr (by simp)) hstateless
  | nameTooLong => exact .corrupt rfl (mt hnowhere.mpr (by simp)) hstateless

/-- A file that holds a text is loaded or corrupt. -/
theorem reported_of_text {text : String} (h : files.read path = .ok text.toUTF8) :
    Reported files path (load files path) := by
  have hat := read_eq_ok_iff.mp h
  cases hread : Schema.read text with
  | ok root =>
    rw [load_eq_ok_iff.mpr ⟨text, hat, hread⟩]
    exact .loaded ⟨text, hat, hread⟩
  | error e =>
    rw [load_of_schemaError h hread]
    refine .corrupt rfl ?_ ?_
    · rw [← read_eq_missing_iff, h]
      simp
    · rintro root ⟨other, hother, hstate⟩
      obtain rfl : text = other := by
        rw [hat, Option.some.injEq, Node.file.injEq] at hother
        exact String.toByteArray_inj.mp hother
      rw [hread] at hstate
      cases hstate

/-- The ways loading can go: either of the two exceptions, or what is reported. -/
inductive LoadCourse (files : FileSystem) (path : Path) : Except LoadError Root → Prop
  | unusable (hnull : path.hasNull = true) : LoadCourse files path (.error (.path .nullByte))
  | notText {content : ByteArray} (hnull : path.hasNull = false)
      (hat : files.at? path = some (.file content)) (htext : ¬ IsText content) :
      LoadCourse files path (.error .notText)
  | reported {outcome : Except LoadError Root} (hnull : path.hasNull = false)
      (htext : ∀ content, files.at? path = some (.file content) → IsText content)
      (h : Reported files path outcome) : LoadCourse files path outcome

/-- Loading takes one of the courses. -/
theorem loadCourse_load (files : FileSystem) (path : Path) :
    LoadCourse files path (load files path) := by
  cases hread : files.read path with
  | error e =>
    cases e with
    | nullByte =>
      rw [load_of_nullByte hread]
      exact .unusable ((read_eq_nullByte_iff files).mp hread)
    | file e =>
      have hnull : path.hasNull = false := by
        rw [← Bool.not_eq_true, ← read_eq_nullByte_iff files, hread]
        simp
      refine .reported hnull (fun content hat => ?_) (reported_of_fileError hread)
      simp [read_eq_ok_iff.mpr hat] at hread
  | ok content =>
    have hat := read_eq_ok_iff.mp hread
    have hnull : path.hasNull = false := by
      rw [← Bool.not_eq_true, ← read_eq_nullByte_iff files, hread]
      simp
    by_cases htext : IsText content
    · refine .reported hnull (fun other hother => ?_) ?_
      · rw [hat, Option.some.injEq, Node.file.injEq] at hother
        exact hother ▸ htext
      · obtain ⟨text, rfl⟩ := htext
        exact reported_of_text hread
    · rw [load_of_notText hread htext]
      exact .notText hnull hat htext

/-! ## Main result -/

/-- Whatever keeps a game from being loaded is reported as an error about its save file, unless the
path has a null byte or the file there is no text. The save file is said to be missing if and only
if the way to the path ends where nothing stands, and to be corrupt in all other cases in which it
describes no state. The two exceptions end loading with errors of their own, which arise in no
other case. -/
theorem load_reported_iff (files : FileSystem) (path : Path) :
    (Reported files path (load files path) ↔ path.hasNull = false ∧
      ∀ content, files.at? path = some (.file content) → IsText content) ∧
    (∀ fault, load files path = .error (.path fault) ↔
      fault = .nullByte ∧ path.hasNull = true) ∧
    (load files path = .error .notText ↔ path.hasNull = false ∧
      ∃ content, files.at? path = some (.file content) ∧ ¬ IsText content) := by
  have hcourse := loadCourse_load files path
  generalize load files path = outcome at hcourse ⊢
  cases hcourse with
  | unusable hnull =>
    refine ⟨⟨nofun, fun h => ?_⟩, fun fault => ?_, ⟨nofun, fun h => ?_⟩⟩
    · simp [hnull] at h
    · simp [hnull, eq_comm]
    · simp [hnull] at h
  | notText hnull hat htext =>
    refine ⟨⟨nofun, fun h => absurd (h.2 _ hat) htext⟩, fun fault => ?_, ?_⟩
    · simp [hnull]
    · exact iff_of_true rfl ⟨hnull, _, hat, htext⟩
  | reported hnull htext h =>
    refine ⟨iff_of_true h ⟨hnull, htext⟩, fun fault => ?_, ⟨?_, ?_⟩⟩
    · refine iff_of_false ?_ (by simp [hnull])
      rintro rfl
      cases h
    · rintro rfl
      cases h
    · rintro ⟨-, content, hat, hbytes⟩
      exact absurd (htext content hat) hbytes

end

/-- A save file with the byte 0xFF, which stands in no text. -/
def bytesFile : Node := .file ⟨#[0xFF]⟩

/-- A save file that is no text is not reported as a corrupt one. -/
theorem not_reported_bytesFile :
    load (homeWith bytesFile) defaultPath = .error .notText ∧
      ¬ Reported (homeWith bytesFile) defaultPath (load (homeWith bytesFile) defaultPath) := by
  have htext : ¬ IsText ⟨#[0xFF]⟩ := by
    rintro ⟨text, htext⟩
    have hdecode := fromUTF8?_eq_some_iff.mpr htext
    simp [show String.fromUTF8? ⟨#[0xFF]⟩ = none by cbv] at hdecode
  have hread : (homeWith bytesFile).read defaultPath = .ok ⟨#[0xFF]⟩ := by rfl
  have hload := load_of_notText hread htext
  rw [hload]
  exact ⟨rfl, nofun⟩

end Save

end CoinConsole
