import CoinConsole.Proofs.Save.RoundTrip

/-!
# What saving and creating answer

Saving answers whether it has worked, whatever is in its way, as long as the path has a last name to
put the staging file beside and no null byte. The two kinds of path that get no answer are refused
before anything has been touched (`save_answers_iff`).

Creating a game asks first whether something stands at the path. It then refuses to replace that,
writes the save file of a new game, or says that it could not and leaves everything as it was
(`Creates`). Again there are two exceptions: a path with a null byte, and one that is too long to
ask for (`init_reported_iff`). That the new game is loaded from its save file is due to the format,
which reads and writes JSON and is strict.
-/

namespace CoinConsole.Save

open FileSystem

variable {files : FileSystem} {path staging : Path} {root : Root} {overwrite : Bool}

/-! ## Saving -/

theorem staging?_eq_none_iff : staging? path = none ↔ path.name = "" := by
  constructor
  · intro hnone
    exact Path.name_eq_empty_iff.mpr (names_eq_nil_of_staging? hnone)
  · intro hname
    cases hstaging : staging? path with
    | none => rfl
    | some staging =>
      obtain ⟨front, last, hnames, -⟩ := (isStaging_of_staging? hstaging).names
      simp [Path.name_eq_empty_iff.mp hname] at hnames

section

variable [SaveFormat]

/-- Beside a path without a last name nothing can be staged. -/
theorem save_of_no_name (files : FileSystem) (root : Root) (h : path.name = "") :
    save files path root = (.error (.emptyName path), files) := by
  rw [save, staging?_eq_none_iff.mpr h]

/-- A path with a null byte has a last name, and so has the staging path the null byte, too. -/
theorem save_of_hasNull (files : FileSystem) (root : Root) (h : path.hasNull = true) :
    save files path root = (.error .nullByte, files) := by
  cases hstaging : staging? path with
  | none =>
    have hnull := Path.hasNull_of_names_eq_nil (names_eq_nil_of_staging? hstaging)
    rw [hnull] at h
    cases h
  | some staging =>
    have haccess : files.access staging = .error .nullByte :=
      access_eq_nullByte_iff.mpr ((isStaging_of_staging? hstaging).hasNull_eq.trans h)
    rw [save, hstaging]
    dsimp only
    rw [write_of_error haccess]

theorem exists_answer_iff :
    (∃ worked, (save files path root).1 = .ok worked) ↔
      path.name ≠ "" ∧ path.hasNull = false := by
  constructor
  · rintro ⟨worked, hanswer⟩
    refine ⟨fun hname => ?_, ?_⟩
    · rw [save_of_no_name files root hname] at hanswer
      cases hanswer
    · rw [← Bool.not_eq_true]
      intro hnull
      rw [save_of_hasNull files root hnull] at hanswer
      cases hanswer
  · rintro ⟨hname, hnull⟩
    obtain ⟨staging, hstaging⟩ := exists_staging_of_name hname
    cases hanswer : (save files path root).1 with
    | ok worked => exact ⟨worked, rfl⟩
    | error fault =>
      obtain ⟨-, hnull', -⟩ := unusable_of_save hstaging hanswer
      rw [hnull] at hnull'
      cases hnull'

/-- Saving answers exactly for the paths that have a last name and no null byte, and the answer says
that it has worked exactly if the staging file can be written and no directory is in the way. For
other paths it fails before anything has changed. -/
theorem save_answers_iff (files : FileSystem) (path : Path) (root : Root) :
    ((∃ worked, (save files path root).1 = .ok worked) ↔
      path.name ≠ "" ∧ path.hasNull = false) ∧
    ((save files path root).1 = .ok true ↔
      IsSavable files path ∧ files.at? path ≠ some .directory) ∧
    (path.name = "" → save files path root = (.error (.emptyName path), files)) ∧
    (path.hasNull = true → save files path root = (.error .nullByte, files)) :=
  ⟨exists_answer_iff, save_eq_true_iff, save_of_no_name files root, save_of_hasNull files root⟩

end

/-- Saving to a directory that is not there is answered; saving to the root is not. -/
theorem save_answers_iff_no_directory :
    (∃ worked, (save (homeWith .directory) (Path.ofText "gone/game.save") {}).1 = .ok worked) ∧
      save (homeWith .directory) (Path.ofText "/") {} =
        (.error (.emptyName (Path.ofText "/")), homeWith .directory) := by
  obtain ⟨hanswers, -⟩ := save_answers_iff (homeWith .directory) (Path.ofText "gone/game.save") {}
  obtain ⟨-, -, hnameless, -⟩ := save_answers_iff (homeWith .directory) (Path.ofText "/") {}
  exact ⟨hanswers.mpr ⟨by decide, by decide⟩, hnameless (by decide)⟩

/-- The current directory cannot be saved to, and gets no answer. -/
theorem not_answered_current_directory :
    ¬ ∃ worked, (save (homeWith .directory) (Path.ofText ".") {}).1 = .ok worked := by
  rintro ⟨worked, hanswer⟩
  rw [save_of_no_name _ _ (by decide)] at hanswer
  cases hanswer

/-! ## Creating -/

section

variable [SaveFormat]

/-- If nothing stands in the way of a new save file, creating a game comes to saving it. -/
theorem init_of_free {present : Bool} (h : files.pathExists path = .ok present)
    (hfree : (present && !overwrite) = false) :
    init files path overwrite =
      (match (save files path {}).1 with
        | .error fault => .error (.path fault)
        | .ok false => .error (.save path .notWritten)
        | .ok true => .ok {},
        (save files path {}).2) := by
  rw [init, h]
  simp only [hfree, Bool.false_eq_true, if_false]
  obtain ⟨answer, later⟩ := save files path {}
  cases answer with
  | error fault => rfl
  | ok worked => cases worked <;> rfl

theorem init_of_present (h : files.pathExists path = .ok true) :
    init files path false = (.error (.save path .present), files) := by
  rw [init, h]
  rfl

theorem init_of_hasNull (files : FileSystem) (overwrite : Bool) (h : path.hasNull = true) :
    init files path overwrite = (.error (.path .nullByte), files) := by
  have hexists : files.pathExists path = .ok false := by
    rw [pathExists, access_eq_nullByte_iff.mpr h]
  rw [init_of_free hexists (Bool.false_and _), save_of_hasNull files {} h]

theorem init_of_long_path (overwrite : Bool)
    (h : files.access path = .error (.file .nameTooLong)) :
    init files path overwrite = (.error (.file .nameTooLong), files) := by
  have hexists : files.pathExists path = .error .nameTooLong := by
    rw [pathExists, h]
  rw [init, hexists]

/-- What creating a game may come to: what stands at the path is not to be replaced, and it is not;
the save file of a new game is written, and a new game is loaded from it; or it cannot be written,
and what was there is there still. -/
inductive Creates (files : FileSystem) (path staging : Path) (overwrite : Bool) :
    Except InitError Root × FileSystem → Prop
  | refused (there : files.at? path ≠ none) (keep : overwrite = false) :
    Creates files path staging overwrite (.error (.save path .present), files)
  | created {later : FileSystem} (free : files.at? path = none ∨ overwrite = true)
    (savable : IsSavable files path ∧ files.at? path ≠ some .directory)
    (load_eq : load later path = .ok {})
    (replaced : Replaced files later path staging (SaveFormat.write {}).toUTF8) :
    Creates files path staging overwrite (.ok {}, later)
  | notCreated {later : FileSystem} (free : files.at? path = none ∨ overwrite = true)
    (unsavable : ¬ (IsSavable files path ∧ files.at? path ≠ some .directory))
    (takenBack : TakenBack files later path staging) :
    Creates files path staging overwrite (.error (.save path .notWritten), later)

/-- Creating a game comes to one of these, if the path can be asked for. -/
theorem creates_init (hjson : SaveFormat.IsJson) (hstrict : SaveFormat.IsStrict)
    (hstaging : staging? path = some staging) (hnull : path.hasNull = false)
    (hasked : files.access path ≠ .error (.file .nameTooLong)) (overwrite : Bool) :
    Creates files path staging overwrite (init files path overwrite) := by
  have hexists := pathExists_eq hasked
  by_cases hfree : files.at? path = none ∨ overwrite = true
  · have hgo : ((files.at? path).isSome && !overwrite) = false := by
      rcases hfree with hnothing | hover
      · rw [hnothing]
        rfl
      · rw [hover]
        exact Bool.and_false _
    rw [init_of_free hexists hgo]
    cases hanswer : (save files path {}).1 with
    | error fault =>
      obtain ⟨-, hnull', -⟩ := unusable_of_save hstaging hanswer
      rw [hnull] at hnull'
      cases hnull'
    | ok worked =>
      cases worked with
      | true =>
        exact .created hfree (save_eq_true_iff.mp hanswer)
          (isKept_of_save hjson hstrict Root.isReadable_newGame hanswer).load
          (replaced_of_save hstaging hanswer)
      | false =>
        refine .notCreated hfree (fun hsavable => ?_) (takenBack_of_save hstaging hanswer)
        rw [save_eq_true_iff.mpr hsavable] at hanswer
        cases hanswer
  · obtain ⟨hthere, hkeep⟩ := not_or.mp hfree
    obtain rfl : overwrite = false := Bool.not_eq_true _ ▸ hkeep
    rw [Option.isSome_iff_ne_none.mpr hthere] at hexists
    rw [init_of_present hexists]
    exact .refused hthere rfl

/-- Creating a game at a path with a last name comes to one of the three: it is refused, done, or
taken back. Only a path with a null byte and one that is too long to ask for end it in another way,
and then nothing has been touched. -/
theorem init_reported_iff (hjson : SaveFormat.IsJson) (hstrict : SaveFormat.IsStrict)
    (files : FileSystem) {path : Path} (hname : path.name ≠ "") (overwrite : Bool) :
    ∃ staging, IsStaging path staging ∧
      (Creates files path staging overwrite (init files path overwrite) ↔
        path.hasNull = false ∧ files.access path ≠ .error (.file .nameTooLong)) ∧
      (path.hasNull = true → init files path overwrite = (.error (.path .nullByte), files)) ∧
      (files.access path = .error (.file .nameTooLong) →
        init files path overwrite = (.error (.file .nameTooLong), files)) := by
  obtain ⟨staging, hstaging⟩ := exists_staging_of_name hname
  refine ⟨staging, isStaging_of_staging? hstaging, ⟨fun hcreates => ⟨?_, ?_⟩, ?_⟩,
    init_of_hasNull files overwrite, init_of_long_path overwrite⟩
  · rw [← Bool.not_eq_true]
    intro hnull
    rw [init_of_hasNull files overwrite hnull] at hcreates
    cases hcreates
  · intro hlong
    rw [init_of_long_path overwrite hlong] at hcreates
    cases hcreates
  · rintro ⟨hnull, hasked⟩
    exact creates_init hjson hstrict hstaging hnull hasked overwrite

end

/-- An old save file is kept unless it may be replaced, and then a new game is loaded from it. -/
theorem init_reported_iff_old_game :
    (init (homeWith (.file .empty)) defaultPath false).2 = homeWith (.file .empty) ∧
      load (init (homeWith (.file .empty)) defaultPath true).2 defaultPath = .ok {} := by
  have hname : defaultPath.name ≠ "" := by decide
  have hreported := init_reported_iff isJson_programFormat isStrict_programFormat
    (homeWith (.file .empty)) hname
  have hplace : (homeWith (.file .empty)).access defaultPath = .ok ["home", "game.save"] := by rfl
  have hasked : (homeWith (.file .empty)).access defaultPath ≠ .error (.file .nameTooLong) := by
    rw [hplace]
    simp
  have hthere : (homeWith (.file .empty)).at? defaultPath ≠ none := by
    rw [at?_homeWith]
    simp
  have hworks : IsSavable (homeWith (.file .empty)) defaultPath ∧
      (homeWith (.file .empty)).at? defaultPath ≠ some .directory := by
    refine ⟨⟨Path.ofText "game.save.tmp", ["home", "game.save.tmp"], by rfl, by rfl, by decide⟩, ?_⟩
    rw [at?_homeWith]
    simp
  constructor
  · obtain ⟨staging, -, hiff, -⟩ := hreported false
    have hcreates := hiff.mpr ⟨by decide, hasked⟩
    generalize init (homeWith (.file .empty)) defaultPath false = outcome at hcreates ⊢
    cases hcreates with
    | refused => rfl
    | created free => simp [hthere] at free
    | notCreated free => simp [hthere] at free
  · obtain ⟨staging, -, hiff, -⟩ := hreported true
    have hcreates := hiff.mpr ⟨by decide, hasked⟩
    generalize init (homeWith (.file .empty)) defaultPath true = outcome at hcreates ⊢
    cases hcreates with
    | refused _ keep => cases keep
    | created _ _ load_eq => exact load_eq
    | notCreated _ unsavable => exact absurd hworks unsavable

/-- A name that is too long to ask for is not reported as one at which no game could be created. -/
theorem not_creates_long_name :
    init (homeWith .directory) (Path.ofText (letters 256)) false =
        (.error (.file .nameTooLong), homeWith .directory) ∧
      ∀ staging, ¬ Creates (homeWith .directory) (Path.ofText (letters 256)) staging false
        (init (homeWith .directory) (Path.ofText (letters 256)) false) := by
  have hmany : 0 < 256 := by decide
  have hlong : (homeWith .directory).access (Path.ofText (letters 256)) =
      .error (.file .nameTooLong) :=
    access_of_long_name (by decide) (isPathName_letters hmany) (hasNull_letters hmany)
      (by rw [utf8ByteSize_letters]; decide)
  have hinit := init_of_long_path false hlong
  refine ⟨hinit, fun staging hcreates => ?_⟩
  rw [hinit] at hcreates
  cases hcreates

end CoinConsole.Save
