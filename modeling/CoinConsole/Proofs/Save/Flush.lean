import CoinConsole.Proofs.Save.Sessions

/-!
# How sessions end

A session that cannot load its game does not come about, and nothing has changed. Any other one
saves its game once when its block has ended, be it by an exception or not (`session_visit`). A
path from which a game has been loaded can be saved to or not, but it is never refused as a path,
whatever has become of its directories in the meantime (`exists_answer_of_load`). So saving raises
nothing that could come before the exception of the block.
-/

namespace CoinConsole.Save

open FileSystem Command

variable {ε : Type} {files : FileSystem} {path : Path} {root : Root}

/-! ## Paths of loaded games -/

/-- The current directory is no file; it may be gone. -/
def CurrentIsNoFile (files : FileSystem) : Prop :=
  ∀ content, files.node? files.current ≠ some (.file content)

section

variable [SaveFormat]

theorem hasNull_of_load (h : load files path = .ok root) : path.hasNull = false := by
  obtain ⟨text, hat, -⟩ := load_eq_ok_iff.mp h
  obtain ⟨place, haccess, -⟩ := at?_eq_some_iff.mp hat
  exact (access_eq_ok_iff.mp haccess).1

/-- A path without names leads to a directory, from which no game is loaded. -/
theorem names_ne_nil_of_load (hcurrent : CurrentIsNoFile files) (h : load files path = .ok root) :
    path.names ≠ [] := by
  intro hnames
  obtain ⟨text, hat, -⟩ := load_eq_ok_iff.mp h
  rw [at?_of_access (access_of_names_eq_nil (hasNull_of_load h) hnames)] at hat
  cases hanchor : path.anchor with
  | current => exact hcurrent _ (hanchor ▸ hat)
  | root => simp [hanchor, start] at hat
  | doubleRoot => simp [hanchor, start] at hat

theorem exists_staging_of_load (hcurrent : CurrentIsNoFile files)
    (h : load files path = .ok root) : ∃ staging, staging? path = some staging := by
  cases hstaging : staging? path with
  | none => exact absurd (names_eq_nil_of_staging? hstaging) (names_ne_nil_of_load hcurrent h)
  | some staging => exact ⟨staging, rfl⟩

/-! ## What saving leaves -/

/-- What has become of the files when a game has been saved once more: its content is there, or
everything is as it was. -/
structure Flushes (left later : FileSystem) (path : Path) (last : Root) (worked : Bool) : Prop where
  save_eq : save left path last = (.ok worked, later)
  replaced : worked = true → ∃ staging, IsStaging path staging ∧
    Replaced left later path staging (SaveFormat.write last).toUTF8
  takenBack : worked = false → ∃ staging, IsStaging path staging ∧
    TakenBack left later path staging

/-- Saving to a path from which a game has been loaded answers whether it has worked, whatever the
files are by then. -/
theorem exists_answer_of_load (hcurrent : CurrentIsNoFile files) (h : load files path = .ok root)
    (left : FileSystem) (last : Root) : ∃ worked, (save left path last).1 = .ok worked := by
  obtain ⟨staging, hstaging⟩ := exists_staging_of_load hcurrent h
  cases hanswer : (save left path last).1 with
  | ok worked => exact ⟨worked, rfl⟩
  | error fault =>
    obtain ⟨-, hnull, -⟩ := unusable_of_save hstaging hanswer
    rw [hasNull_of_load h] at hnull
    cases hnull

theorem exists_flushes_of_load (hcurrent : CurrentIsNoFile files) (h : load files path = .ok root)
    (left : FileSystem) (last : Root) :
    ∃ worked, Flushes left (save left path last).2 path last worked := by
  obtain ⟨staging, hstaging⟩ := exists_staging_of_load hcurrent h
  obtain ⟨worked, hanswer⟩ := exists_answer_of_load hcurrent h left last
  refine ⟨worked, Prod.ext hanswer rfl, ?_, ?_⟩
  · rintro rfl
    exact ⟨staging, isStaging_of_staging? hstaging, replaced_of_save hstaging hanswer⟩
  · rintro rfl
    exact ⟨staging, isStaging_of_staging? hstaging, takenBack_of_save hstaging hanswer⟩

end

/-! ## Visits -/

/-- A block in which anything may also be done to the files. -/
structure Visit (ε : Type) extends Block ε where
  meddle : FileSystem → FileSystem

/-- Runs the commands of a visit and changes the files. -/
def Visit.play (visit : Visit ε) (root : Root) (files : FileSystem) :
    Played ε × Root × FileSystem :=
  let (played, last, left) := visit.toBlock.play root files
  (played, last, visit.meddle left)

/-- How a session ends for the one who has asked for it. -/
inductive SessionEnd (ε : Type)
  | notLoaded (error : LoadError)
  | notSaved (fault : PathFault)
  | raised (exception : ε)
  | completed

/-- How a block ends that saving does not interfere with. -/
def SessionEnd.ofException : Option ε → SessionEnd ε
  | none => completed
  | some exception => raised exception

/-- How a session ends. What saving raises would hide the exception of the block. -/
def sessionEnd : Except LoadError (Session (Played ε)) → SessionEnd ε
  | .error e => .notLoaded e
  | .ok session =>
    match session.saved with
    | .error fault => .notSaved fault
    | .ok _ => .ofException session.result.exception

section

variable [SaveFormat]

/-- The files after a session; one that does not come about has changed nothing. -/
def filesAfter {α : Type} (files : FileSystem) : Except LoadError (Session α) → FileSystem
  | .error _ => files
  | .ok session => session.files

theorem session_visit (h : load files path = .ok root) (visit : Visit ε) :
    session files path visit.play = .ok
      { result := ⟨(Command.runAll visit.commands root).1, visit.exception⟩
        saved := (save (visit.meddle files) path (Command.runAll visit.commands root).2).1
        files := (save (visit.meddle files) path (Command.runAll visit.commands root).2).2 } := by
  rw [session, h]
  rfl

/-! ## Main result -/

/-- A session whose game cannot be loaded ends with the error of loading. Nothing in its block
happens and the files are as they were. Any other session saves once, after its block, what the
commands have made of the game, to the files as the block has left them. It ends as its block has
ended, whether saving works or not. If saving works, the content for the game stands at the path; if
it fails, what stands at the path and below it is what the block has left there. -/
theorem session_flushes_once (hcurrent : CurrentIsNoFile files) (path : Path) (visit : Visit ε) :
    let outcome := session files path visit.play
    (∀ e, load files path = .error e →
      outcome = .error e ∧ sessionEnd outcome = .notLoaded e ∧ filesAfter files outcome = files) ∧
    ∀ root, load files path = .ok root →
      let last := (Command.runAll visit.commands root).2
      ∃ later worked, Flushes (visit.meddle files) later path last worked ∧
        outcome = .ok
          { result := ⟨(Command.runAll visit.commands root).1, visit.exception⟩
            saved := .ok worked
            files := later } ∧
        sessionEnd outcome = .ofException visit.exception ∧ filesAfter files outcome = later := by
  intro outcome
  constructor
  · intro e hload
    have houtcome : outcome = .error e := by
      show session files path visit.play = .error e
      rw [session, hload]
    rw [houtcome]
    exact ⟨rfl, rfl, rfl⟩
  · intro root hload last
    obtain ⟨worked, hflushes⟩ := exists_flushes_of_load hcurrent hload (visit.meddle files) last
    have houtcome : outcome = .ok
        { result := ⟨(Command.runAll visit.commands root).1, visit.exception⟩
          saved := .ok worked
          files := (save (visit.meddle files) path last).2 } := by
      show session files path visit.play = _
      rw [session_visit hload, congrArg Prod.fst hflushes.save_eq]
    rw [houtcome]
    exact ⟨_, worked, hflushes, rfl, rfl, rfl⟩

end

/-- A player whose home directory is deleted during the session is told of the interruption, and not
of the game that could not be saved. -/
theorem session_flushes_once_deleted :
    let files := homeWith (.file "\x7b\"coins\": 1\x7d".toUTF8)
    let outcome := session files defaultPath
      (Visit.play ⟨⟨[earnTwo], some "interrupted"⟩, (eraseTree · ["home"])⟩)
    load files defaultPath = .ok { coins := 1 } ∧
      sessionEnd outcome = .raised "interrupted" ∧ (filesAfter files outcome).nodes = [] := by
  intro files outcome
  have hcurrent : CurrentIsNoFile files := by
    intro content hcontent
    cases hcontent
  have hparse : SaveFormat.parse "\x7b\"coins\": 1\x7d" =
      .ok (.object [("coins", .integer 1)]) := by rfl
  have hload : load files defaultPath = .ok { coins := 1 } := load_homeWith hparse (by rfl)
  obtain ⟨-, hplayed⟩ := session_flushes_once hcurrent defaultPath
    ⟨⟨[earnTwo], some "interrupted"⟩, (eraseTree · ["home"])⟩
  obtain ⟨later, worked, hflushes, -, hend, hfiles⟩ := hplayed _ hload
  have hlater : (save (eraseTree files ["home"]) defaultPath
      (Command.runAll [earnTwo] { coins := 1 }).2).2.nodes = [] := by rfl
  refine ⟨hload, hend, ?_⟩
  rw [hfiles]
  rwa [hflushes.save_eq] at hlater

end CoinConsole.Save
