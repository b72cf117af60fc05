import CoinConsole.Program.Play
import CoinConsole.Proofs.Save.Answers
import CoinConsole.Proofs.Save.Refusals

/-!
# Opening a game

Before a game is played the program may write the save file of a new one, and then loads what
stands at the path. A new save file is written only where nothing stands (`Play.opened`), so what
is there already is never touched (`Play.opening_opened`). Loading answers with the game or with an
error about its save file (`Play.startCourse_start`), if the path can be handed over, can be asked
for, and leads to no bytes that are no text.

Records that go to standard error leave the files alone, so the files are the same whatever is
logged on the way.
-/

namespace CoinConsole

open FileSystem

/-! ## Stages that log to standard error -/

namespace Stage

variable {stage : Stage}

/-- All records go to standard error, and none to a file. -/
def LogsToStderr (stage : Stage) : Prop := stage.setup.sinks = [.stderr]

theorem files_log (h : stage.LogsToStderr) (time : String) (record : Log.Record) :
    (stage.log time record).files = stage.files := by
  rw [LogsToStderr] at h
  simp only [files, log, Log.Setup.log, h, List.foldl_cons, List.foldl_nil, Log.Setup.writeText]
  split <;> rfl

theorem LogsToStderr.log (h : stage.LogsToStderr) (time : String) (record : Log.Record) :
    (stage.log time record).LogsToStderr := h

theorem files_logAll (h : stage.LogsToStderr) (time : String) (records : List Log.Record) :
    (stage.logAll time records).files = stage.files ∧
      (stage.logAll time records).LogsToStderr := by
  induction records generalizing stage with
  | nil => exact ⟨rfl, h⟩
  | cons record records ih =>
    have hlater := ih (h.log time record)
    rw [files_log h] at hlater
    exact hlater

theorem files_savedTo (stage : Stage) (path : Path) (files : FileSystem) :
    (stage.savedTo path files).files = files := by
  unfold savedTo
  dsimp only
  split
  · rfl
  · split <;> rfl

theorem LogsToStderr.savedTo (h : stage.LogsToStderr) (path : Path) (files : FileSystem) :
    (stage.savedTo path files).LogsToStderr := by
  rw [LogsToStderr] at h ⊢
  unfold Stage.savedTo
  dsimp only
  split
  · exact h
  · split
    · simp [withFiles, Log.Setup.moved, h, Log.Setup.movedSink]
    · exact h

end Stage

/-! ## Creating -/

namespace FileSystem

variable {files : FileSystem} {path : Path}

/-- A path without names leads to a directory. -/
theorem at?_of_names_eq_nil (hcurrent : files.node? files.current = some .directory)
    (hnull : path.hasNull = false) (h : path.names = []) : files.at? path = some .directory := by
  rw [at?_of_access (access_of_names_eq_nil hnull h)]
  cases path.anchor with
  | current => exact hcurrent
  | root => exact node?_nil files
  | doubleRoot => exact node?_nil files

end FileSystem

namespace Save

variable [SaveFormat] {files : FileSystem} {path : Path} {root : Root}

/-- Where nothing stands, saving either works or changes nothing. -/
theorem save_where_nothing (hcurrent : files.node? files.current = some .directory)
    (hnull : path.hasNull = false) (h : files.at? path = none) (root : Root) :
    (save files path root).1 = .ok true ∨
      (save files path root).1 = .ok false ∧ (save files path root).2 = files := by
  cases hstaging : staging? path with
  | none =>
    rw [at?_of_names_eq_nil hcurrent hnull (names_eq_nil_of_staging? hstaging)] at h
    cases h
  | some staging =>
    have hcourse := saveCourse_save files root hstaging
    generalize (save files path root).1 = answer, (save files path root).2 = later at hcourse ⊢
    cases hcourse with
    | unusable hnull' => simp [hnull] at hnull'
    | notReached => exact Or.inr ⟨rfl, rfl⟩
    | blocked => exact Or.inr ⟨rfl, rfl⟩
    | notMoved haccess horigin hpath htarget => simp [at?_of_access hpath, htarget] at h
    | moved => exact Or.inl rfl

/-- No game is loaded where nothing stands. -/
theorem load_ne_of_nothing (h : files.at? path = none) (root : Root) :
    load files path ≠ .ok root := by
  intro hload
  obtain ⟨text, htext, -⟩ := load_eq_ok_iff.mp hload
  rw [h] at htext
  cases htext

end Save

namespace Play

variable [SaveFormat] {files : FileSystem} {path : Path} {stage : Stage}

/-- The files from which the game is loaded: the save file of a new game is written among them, if
that was asked for and nothing stood at the path. -/
def opened (files : FileSystem) (path : Path) (create : Bool) : FileSystem :=
  if create = true ∧ files.at? path = none then (Save.save files path {}).2 else files

/-- What can be said about a path before anything is done: it can be handed over, it can be asked
for before it is created, and what stands there is no file of bytes that are no text. -/
structure Approachable (files : FileSystem) (path : Path) (create : Bool) : Prop where
  current : files.node? files.current = some .directory
  noNull : path.hasNull = false
  askable : create = true → files.access path ≠ .error (.file .nameTooLong)
  text : ∀ content, files.at? path = some (.file content) → Save.IsText content

/-- What the files are from which a game is loaded. -/
inductive Opening (files : FileSystem) (path : Path) (create : Bool) : FileSystem → Prop
  | kept (there : create = true → files.at? path ≠ none) : Opening files path create files
  | created (wanted : create = true) (nothing : files.at? path = none)
      (saved : (Save.save files path {}).1 = .ok true) :
      Opening files path create (Save.save files path {}).2
  | notCreated (wanted : create = true) (nothing : files.at? path = none)
      (failed : (Save.save files path {}).1 = .ok false) : Opening files path create files

theorem opening_opened {create : Bool} (h : Approachable files path create) :
    Opening files path create (opened files path create) := by
  unfold opened
  split
  · next hwanted =>
    obtain ⟨hcreate, hnothing⟩ := hwanted
    rcases Save.save_where_nothing h.current h.noNull hnothing {} with hsaved | ⟨hfailed, hfiles⟩
    · exact .created hcreate hnothing hsaved
    · rw [hfiles]
      exact .notCreated hcreate hnothing hfailed
  · next hnot => exact .kept fun hcreate hnothing => hnot ⟨hcreate, hnothing⟩

/-- What opening a game comes to. What is there already is kept, and a new save file that can be
written holds the state of a new game; nothing changes but at the path and beside it, where a
content is written before it is moved to the path. -/
structure Opens (files opened : FileSystem) (path : Path) (create : Bool) : Prop where
  kept : create = false ∨ files.at? path ≠ none → opened = files
  created : create = true → files.at? path = none → Save.IsSavable files path →
    Save.load opened path = .ok {}
  notCreated : create = true → files.at? path = none → ¬ Save.IsSavable files path →
    opened = files
  changesOnly : ChangesOnly files opened (path :: (Save.staging? path).toList)

theorem Opening.opens (hjson : SaveFormat.IsJson) (hstrict : SaveFormat.IsStrict) {create : Bool}
    {opened : FileSystem} (h : Opening files path create opened) :
    Opens files opened path create := by
  cases h with
  | kept there =>
    exact ⟨fun _ => rfl, fun hcreate hnothing => absurd hnothing (there hcreate),
      fun _ _ _ => rfl, ChangesOnly.refl files _⟩
  | created wanted nothing saved =>
    refine ⟨?_, fun _ _ _ => ?_, fun _ _ hnot => ?_, ?_⟩
    · rintro (hno | hthere)
      · simp [wanted] at hno
      · exact absurd nothing hthere
    · exact (Save.isKept_of_save hjson hstrict Root.isReadable_newGame saved).load
    · exact absurd (Save.save_eq_true_iff.mp saved).1 hnot
    · obtain ⟨staging, hstaging⟩ := Save.exists_staging_of_save saved
      rw [hstaging]
      exact (Save.replaced_of_save hstaging saved).changesOnly
  | notCreated wanted nothing failed =>
    refine ⟨fun _ => rfl, fun _ _ hsavable => ?_, fun _ _ _ => rfl, ChangesOnly.refl files _⟩
    have hsaved : (Save.save files path {}).1 = .ok true :=
      Save.save_eq_true_iff.mpr ⟨hsavable, by simp [nothing]⟩
    rw [failed] at hsaved
    cases hsaved

/-- Where there is no game after opening, opening has changed nothing. -/
theorem Opening.eq_of_load_ne (hjson : SaveFormat.IsJson) (hstrict : SaveFormat.IsStrict)
    {create : Bool} {opened : FileSystem} (h : Opening files path create opened)
    (hload : ∀ root, Save.load opened path ≠ .ok root) : opened = files := by
  cases h with
  | kept => rfl
  | created wanted nothing saved =>
    have hkept := Save.isKept_of_save hjson hstrict Root.isReadable_newGame saved
    exact absurd hkept.load (hload _)
  | notCreated => rfl

/-- How a start can go from the files that are opened: the game there is loaded, or there is none
and an error about the save file ends the program. Either way the files are not changed. -/
inductive StartCourse (files : FileSystem) (path : Path) : Except EarlyEnd Root × Stage → Prop
  | loaded {root : Root} {stage : Stage} (load_eq : Save.load files path = .ok root)
      (files_eq : stage.files = files) (logs : stage.LogsToStderr) :
      StartCourse files path (.ok root, stage)
  | refused {error : SaveError} {causes : List String} {stage : Stage}
      (load_ne : ∀ root, Save.load files path ≠ .ok root) (files_eq : stage.files = files)
      (logs : stage.LogsToStderr) : StartCourse files path (.error (.save error causes), stage)

theorem startCourse_load (hlogs : stage.LogsToStderr) (hnull : path.hasNull = false)
    (htext : ∀ content, stage.files.at? path = some (.file content) → Save.IsText content)
    (time : String) : StartCourse stage.files path (load time path stage) := by
  have hcourse := Save.loadCourse_load stage.files path
  cases hload : Save.load stage.files path with
  | ok root =>
    simp only [load, hload]
    exact .loaded hload (Stage.files_log hlogs _ _) (hlogs.log _ _)
  | error e =>
    have hne : ∀ root, Save.load stage.files path ≠ .ok root := by simp [hload]
    rw [hload] at hcourse
    cases hcourse with
    | unusable hnull' => simp [hnull] at hnull'
    | notText _ hat hbytes => exact absurd (htext _ hat) hbytes
    | reported _ _ hreported =>
      cases hreported with
      | missing =>
        simp only [load, hload]
        exact .refused hne rfl hlogs
      | corrupt =>
        simp only [load, hload]
        exact .refused hne rfl hlogs

/-! ## Starting -/

theorem create_of_present (time : String) (h : stage.files.pathExists path = .ok true) :
    create time path stage = (.ok (), stage) := by
  rw [create, h]

/-- A save file that is missing is written, if saving works. -/
theorem create_of_saved (hlogs : stage.LogsToStderr) (time : String)
    (hmissing : stage.files.pathExists path = .ok false)
    (hsaved : (Save.save stage.files path {}).1 = .ok true) :
    ∃ later, create time path stage = (.ok (), later) ∧
      later.files = (Save.save stage.files path {}).2 ∧ later.LogsToStderr := by
  have hinit := Save.init_of_free hmissing (Bool.false_and !false)
  rw [hsaved] at hinit
  have hsavedTo := hlogs.savedTo path (Save.save stage.files path {}).2
  have hlogged := Stage.files_logAll hsavedTo time [Save.savedRecord path true]
  rw [Stage.files_savedTo] at hlogged
  refine ⟨_, ?_, hlogged⟩
  rw [create, hmissing, hinit]
  rfl

/-- A save file that cannot be written ends the program. -/
theorem create_of_notSaved (hlogs : stage.LogsToStderr) (time : String)
    (hmissing : stage.files.pathExists path = .ok false)
    (hfailed : (Save.save stage.files path {}).1 = .ok false) :
    ∃ error later, create time path stage = (.error (.save error []), later) ∧
      later.files = (Save.save stage.files path {}).2 ∧ later.LogsToStderr := by
  have hinit := Save.init_of_free hmissing (Bool.false_and !false)
  rw [hfailed] at hinit
  have hwith : (stage.withFiles (Save.save stage.files path {}).2).LogsToStderr := hlogs
  refine ⟨.notCreated path InitFault.notWritten.reason, _, ?_,
    Stage.files_logAll hwith time [Save.savedRecord path false]⟩
  rw [create, hmissing, hinit]
  rfl

/-- A start takes its course from the files that are opened. -/
theorem startCourse_start {arguments : GameArguments} {settings : Settings}
    (hlogs : stage.LogsToStderr)
    (h : Approachable stage.files settings.savePath arguments.create) (time : String) :
    StartCourse (opened stage.files settings.savePath arguments.create) settings.savePath
      (start time arguments settings stage) := by
  rw [start]
  cases hcreate : arguments.create with
  | false =>
    simp only [opened, Bool.false_eq_true, false_and, if_false]
    exact startCourse_load hlogs h.noNull h.text time
  | true =>
    have hexists := pathExists_eq (h.askable hcreate)
    simp only [opened, if_true, true_and]
    cases hat : stage.files.at? settings.savePath with
    | some node =>
      rw [hat, Option.isSome_some] at hexists
      simp only [create_of_present time hexists, reduceCtorEq, if_false]
      exact startCourse_load hlogs h.noNull h.text time
    | none =>
      rw [hat, Option.isSome_none] at hexists
      rw [if_pos rfl]
      rcases Save.save_where_nothing h.current h.noNull hat {} with hsaved | ⟨hfailed, hfiles⟩
      · obtain ⟨later, hcreated, hlater, hlogs'⟩ := create_of_saved hlogs time hexists hsaved
        have hwritten := Save.at?_save hsaved
        rw [hcreated, ← hlater]
        rw [← hlater] at hwritten
        refine startCourse_load hlogs' h.noNull (fun content hcontent => ?_) time
        rw [hwritten, Option.some.injEq, Node.file.injEq] at hcontent
        exact ⟨_, hcontent.symm⟩
      · obtain ⟨error, later, hcreated, hlater, hlogs'⟩ :=
          create_of_notSaved hlogs time hexists hfailed
        rw [hcreated]
        refine .refused ?_ hlater hlogs'
        rw [hfiles]
        exact Save.load_ne_of_nothing hat

end Play

end CoinConsole
