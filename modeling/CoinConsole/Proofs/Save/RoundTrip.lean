import CoinConsole.Proofs.Save.Atomic
import CoinConsole.Proofs.Save.Content

/-!
# Saving and loading

In a format that reads and writes JSON and is strict, a state that has been saved is loaded again as
it was, if its integers can be read, and a state that has been loaded can be saved: its integers
were read, so they can be read again. Whether saving works depends on the directories alone, and
saving leaves those as they are; so if it has worked once, it works again, and writes the same
bytes.
-/

namespace CoinConsole.Save

open FileSystem

variable {files later : FileSystem} {path staging : Path} {root : Root}

/-! ## Texts and directories -/

theorem fromUTF8?_eq_some_iff {content : ByteArray} {text : String} :
    String.fromUTF8? content = some text ↔ content = text.toUTF8 := by
  unfold String.fromUTF8?
  constructor
  · intro h
    split at h
    · rw [← Option.some.inj h]
      rfl
    · simp at h
  · rintro rfl
    exact dif_pos text.isValidUTF8

/-- There is a directory for the staging file, and none in its place. -/
def IsSavable (files : FileSystem) (path : Path) : Prop :=
  ∃ staging origin, staging? path = some staging ∧ files.access staging = .ok origin ∧
    files.node? origin ≠ some .directory

theorem isSavable_congr (h : SameDirectories files later) :
    IsSavable later path ↔ IsSavable files path := by
  simp only [IsSavable, h.access_eq_ok_iff, ne_eq, h.directory]

theorem at?_eq_directory_congr (h : SameDirectories files later) :
    later.at? path = some .directory ↔ files.at? path = some .directory := by
  simp only [at?_eq_some_iff, h.access_eq_ok_iff, h.directory]

section

variable [SaveFormat]

/-! ## Loading -/

/-- A state is loaded when the file at the path is a text that describes it. -/
theorem load_eq_ok_iff :
    load files path = .ok root ↔
      ∃ text, files.at? path = some (.file text.toUTF8) ∧ Schema.read text = .ok root := by
  constructor
  · intro h
    rw [load] at h
    split at h
    · simp at h
    · simp at h
    · next content hcontent =>
      split at h
      · simp at h
      · next text htext =>
        obtain rfl := fromUTF8?_eq_some_iff.mp htext
        refine ⟨text, read_eq_ok_iff.mp hcontent, ?_⟩
        split at h
        · simp at h
        · next root' hroot => rw [hroot, Except.ok.inj h]
  · rintro ⟨text, hat, hroot⟩
    rw [load, read_eq_ok_iff.mpr hat]
    simp only [fromUTF8?_eq_some_iff.mpr rfl, hroot]

theorem isReadable_of_load (hjson : SaveFormat.IsJson) (h : load files path = .ok root) :
    root.IsReadable := by
  obtain ⟨text, -, htext⟩ := load_eq_ok_iff.mp h
  exact Schema.isReadable_of_read hjson htext

/-! ## When saving works -/

theorem exists_staging_of_save (h : (save files path root).1 = .ok true) :
    ∃ staging, staging? path = some staging := by
  cases hstaging : staging? path with
  | none => simp [save, hstaging] at h
  | some staging => exact ⟨staging, rfl⟩

/-- Saving works where the staging file can be written, unless a directory is in the way. -/
theorem save_eq_true_iff :
    (save files path root).1 = .ok true ↔
      IsSavable files path ∧ files.at? path ≠ some .directory := by
  constructor
  · intro h
    obtain ⟨staging, hstaging⟩ := exists_staging_of_save h
    have hcourse := saveCourse_save files root hstaging
    rw [h] at hcourse
    generalize (save files path root).2 = later at hcourse
    cases hcourse with
    | moved haccess horigin hpath htarget =>
      exact ⟨⟨staging, _, hstaging, haccess, horigin⟩, by rwa [at?_of_access hpath]⟩
  · rintro ⟨⟨staging, origin, hstaging, haccess, horigin⟩, hpath⟩
    have hcourse := saveCourse_save files root hstaging
    generalize (save files path root).1 = answer, (save files path root).2 = later at hcourse ⊢
    cases hcourse with
    | unusable hnull =>
      rw [← (isStaging_of_staging? hstaging).hasNull_eq, ← access_eq_nullByte_iff, haccess] at hnull
      simp at hnull
    | notReached hnot => exact absurd haccess (hnot origin)
    | blocked haccess' hdirectory =>
      rw [haccess] at haccess'
      exact absurd (Except.ok.inj haccess' ▸ hdirectory) horigin
    | notMoved haccess' horigin' htarget hdirectory =>
      exact absurd (at?_of_access htarget ▸ hdirectory) hpath
    | moved => rfl

/-- Where a game has been loaded, any game can be saved if the staging file can be written. -/
theorem save_eq_true_of_load (hload : load files path = .ok root)
    (hsavable : IsSavable files path) (other : Root) : (save files path other).1 = .ok true := by
  obtain ⟨text, hat, -⟩ := load_eq_ok_iff.mp hload
  exact save_eq_true_iff.mpr ⟨hsavable, by simp [hat]⟩

/-! ## What saving leaves as it is -/

theorem sameDirectories_save (files : FileSystem) (path : Path) (root : Root) :
    SameDirectories files (save files path root).2 := by
  cases hstaging : staging? path with
  | none => simpa [save, hstaging] using SameDirectories.refl files
  | some staging =>
    cases hanswer : (save files path root).1 with
    | error fault =>
      obtain ⟨-, -, hlater⟩ := unusable_of_save hstaging hanswer
      rw [hlater]
      exact SameDirectories.refl files
    | ok worked =>
      cases worked with
      | true => exact (replaced_of_save hstaging hanswer).changesOnly.toSameDirectories
      | false => exact (takenBack_of_save hstaging hanswer).changesOnly.toSameDirectories

/-- When saving has not worked, the path meets what it met before. -/
theorem at?_save_of_ne_true (h : (save files path root).1 ≠ .ok true) :
    (save files path root).2.at? path = files.at? path := by
  cases hstaging : staging? path with
  | none => simp [save, hstaging]
  | some staging =>
    cases hanswer : (save files path root).1 with
    | error fault =>
      obtain ⟨-, -, hlater⟩ := unusable_of_save hstaging hanswer
      rw [hlater]
    | ok worked =>
      cases worked with
      | true => exact absurd hanswer h
      | false => exact (takenBack_of_save hstaging hanswer).at?_eq

theorem at?_save (h : (save files path root).1 = .ok true) :
    (save files path root).2.at? path = some (.file (SaveFormat.write root).toUTF8) := by
  obtain ⟨staging, hstaging⟩ := exists_staging_of_save h
  exact (replaced_of_save hstaging h).content

/-- Saving works after a save where it worked before, whatever is saved. -/
theorem save_save_eq_true_iff (other : Root) :
    (save (save files path root).2 path other).1 = .ok true ↔
      (save files path root).1 = .ok true := by
  have hsame := sameDirectories_save files path root
  simp only [save_eq_true_iff, isSavable_congr hsame, ne_eq, at?_eq_directory_congr hsame]

/-! ## Round trips -/

/-- The state is loaded from the path, and saving it there once more leaves the bytes there. -/
structure IsKept (files : FileSystem) (path : Path) (root : Root) : Prop where
  load : load files path = .ok root
  save : ∃ content, files.read path = .ok content ∧
    (save files path root).2.read path = .ok content

theorem isKept_of_save (hjson : SaveFormat.IsJson) (hstrict : SaveFormat.IsStrict)
    (hreadable : root.IsReadable) (h : (save files path root).1 = .ok true) :
    IsKept (save files path root).2 path root where
  load := load_eq_ok_iff.mpr ⟨_, at?_save h, Schema.read_write hjson hstrict hreadable⟩
  save := ⟨_, read_eq_ok_iff.mpr (at?_save h),
    read_eq_ok_iff.mpr (at?_save ((save_save_eq_true_iff root).mpr h))⟩

theorem isKept_of_load (hload : load files path = .ok root)
    (h : (save files path root).1 ≠ .ok true) : IsKept (save files path root).2 path root := by
  obtain ⟨text, hat, hread⟩ := load_eq_ok_iff.mp hload
  have hlater : (Save.save files path root).2.at? path = some (.file text.toUTF8) :=
    (at?_save_of_ne_true h).trans hat
  have hagain := at?_save_of_ne_true (mt (save_save_eq_true_iff root).mp h)
  exact ⟨load_eq_ok_iff.mpr ⟨text, hlater, hread⟩, _, read_eq_ok_iff.mpr hlater,
    read_eq_ok_iff.mpr (hagain.trans hlater)⟩

/-- Saving and loading undo each other. A state whose integers can be read is loaded as it has been
saved. A state that has been loaded is kept by saving it where it was, and wherever else saving it
works; there it works again. -/
theorem save_load_inverse (hjson : SaveFormat.IsJson) (hstrict : SaveFormat.IsStrict) :
    (∀ files path root, root.IsReadable → (save files path root).1 = .ok true →
      load (save files path root).2 path = .ok root) ∧
    ∀ files path root, load files path = .ok root →
      IsKept (save files path root).2 path root ∧
      ∀ others elsewhere, (save others elsewhere root).1 = .ok true →
        IsKept (save others elsewhere root).2 elsewhere root ∧
        (save (save others elsewhere root).2 elsewhere root).1 = .ok true := by
  constructor
  · intro files path root hreadable hsave
    exact (isKept_of_save hjson hstrict hreadable hsave).load
  · intro files path root hload
    have hreadable := isReadable_of_load hjson hload
    constructor
    · by_cases hsave : (save files path root).1 = .ok true
      · exact isKept_of_save hjson hstrict hreadable hsave
      · exact isKept_of_load hload hsave
    · intro others elsewhere hsave
      exact ⟨isKept_of_save hjson hstrict hreadable hsave, (save_save_eq_true_iff root).mpr hsave⟩

/-- The state that a save file at home describes is loaded. -/
theorem load_homeWith {text : String} {document : Document}
    (hparse : SaveFormat.parse text = .ok document)
    (hroot : Schema.readRoot document = .ok root) :
    load (homeWith (.file text.toUTF8)) defaultPath = .ok root :=
  load_eq_ok_iff.mpr
    ⟨text, at?_homeWith _, Schema.read_eq_ok_iff.mpr ⟨document, hparse, hroot⟩⟩

end

/-- A debt is loaded as it has been saved, and a file with hardly anything in it is kept. -/
theorem save_load_debt_and_sparse_file :
    load (save (homeWith (.file .empty)) defaultPath { coins := -50 }).2 defaultPath =
        .ok { coins := -50 } ∧
      IsKept (save (homeWith (.file "\x7b \"clock\":\x7b\x7d \x7d".toUTF8)) defaultPath {}).2
        defaultPath {} := by
  obtain ⟨hsaved, hloaded⟩ :=
    save_load_inverse isJson_programFormat isStrict_programFormat
  constructor
  · exact hsaved _ _ _ ⟨by decide, by decide⟩ (by rfl)
  · have hparse : SaveFormat.parse "\x7b \"clock\":\x7b\x7d \x7d" =
        .ok (.object [("clock", .object [])]) := by rfl
    exact (hloaded _ _ _ (load_homeWith hparse (by rfl))).1

end CoinConsole.Save
