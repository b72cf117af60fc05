import CoinConsole.Proofs.Game.Commands
import CoinConsole.Proofs.Instruction.RoundTrip
import CoinConsole.Proofs.Save.RoundTrip

/-!
# Playing in sessions

Commands are played in blocks, each in a session of its own: the game is loaded, the commands of
the block are run, and the game is saved, even if the block ends in an exception. In a format that
reads and writes JSON and is strict, a session takes up the game where the one before left it
(`session_play`), so sessions in succession come to what one session comes to that runs all the
commands (`sessions_play`).
-/

namespace CoinConsole

namespace Save

open FileSystem Command

variable {ε : Type}

/-! ## Blocks -/

/-- The commands of a session, and the exception that is raised after them, if one is. -/
structure Block (ε : Type) where
  commands : List Command
  exception : Option ε

/-- What comes of a block: the answers to its commands, and the exception that has ended it. -/
structure Played (ε : Type) where
  answers : List Command.Answer
  exception : Option ε

/-- Runs the commands of a block. -/
def Block.play (block : Block ε) (root : Root) (files : FileSystem) :
    Played ε × Root × FileSystem :=
  let (answers, last) := Command.runAll block.commands root
  ({ answers, exception := block.exception }, last, files)

section

variable [SaveFormat]

/-- Plays blocks in one session after the other, up to the first that does not come about. -/
def sessions (path : Path) :
    List (Block ε) → FileSystem → Except LoadError (List (Session (Played ε)) × FileSystem)
  | [], files => .ok ([], files)
  | block :: others, files =>
    match session files path block.play with
    | .error e => .error e
    | .ok session =>
      match sessions path others session.files with
      | .error e => .error e
      | .ok (rest, last) => .ok (session :: rest, last)

variable {files : FileSystem} {path : Path} {root : Root}

/-- The game `root` is kept at the path, and a session on it can be saved. -/
structure IsPlayable (files : FileSystem) (path : Path) (root : Root) : Prop where
  load : load files path = .ok root
  savable : IsSavable files path

/-- A session goes on from the game that was saved, and leaves the game in which it ends. -/
theorem session_play (hjson : SaveFormat.IsJson) (hstrict : SaveFormat.IsStrict)
    (hplayable : IsPlayable files path root) (block : Block ε)
    (hreadable : (Command.runAll block.commands root).2.IsReadable) :
    ∃ later, session files path block.play = .ok
        { result := ⟨(Command.runAll block.commands root).1, block.exception⟩
          saved := .ok true
          files := later } ∧
      IsPlayable later path (Command.runAll block.commands root).2 ∧
      later.read path = .ok (SaveFormat.write (Command.runAll block.commands root).2).toUTF8 := by
  obtain ⟨hload, hsavable⟩ := hplayable
  have hsave : (save files path (Command.runAll block.commands root).2).1 = .ok true :=
    save_eq_true_of_load hload hsavable _
  have hkept := isKept_of_save hjson hstrict hreadable hsave
  refine ⟨(save files path (Command.runAll block.commands root).2).2, ?_, ⟨hkept.load, ?_⟩, ?_⟩
  · simp [session, hload, Block.play, hsave]
  · exact (isSavable_congr (sameDirectories_save files path _)).mpr hsavable
  · exact read_eq_ok_iff.mpr (at?_save hsave)

/-! ## Successions of sessions -/

/-- The commands of the blocks, one after the other. -/
def allCommands (blocks : List (Block ε)) : List Command := blocks.flatMap (·.commands)

theorem sessions_cons {block : Block ε} {others : List (Block ε)} {first : Session (Played ε)}
    {rest : List (Session (Played ε))} {last : FileSystem}
    (hfirst : session files path block.play = .ok first)
    (hothers : sessions path others first.files = .ok (rest, last)) :
    sessions path (block :: others) files = .ok (first :: rest, last) := by
  rw [sessions, hfirst]
  dsimp only
  rw [hothers]

/-- Sessions in succession answer the commands of their blocks as if these were run at once, and
leave the game in which they end. -/
theorem sessions_play (hjson : SaveFormat.IsJson) (hstrict : SaveFormat.IsStrict)
    {blocks : List (Block ε)} (hne : blocks ≠ []) (hplayable : IsPlayable files path root)
    (hreadable : Command.Stays Root.IsReadable (allCommands blocks) root) :
    ∃ played later, sessions path blocks files = .ok (played, later) ∧
      played.flatMap (·.result.answers) = (Command.runAll (allCommands blocks) root).1 ∧
      played.map (·.result.exception) = blocks.map (·.exception) ∧
      later.read path =
        .ok (SaveFormat.write (Command.runAll (allCommands blocks) root).2).toUTF8 := by
  -- every session starts from the file system and the game the one before has left
  induction blocks generalizing files root with
  | nil => exact absurd rfl hne
  | cons block others ih =>
    have hall : allCommands (block :: others) = block.commands ++ allCommands others :=
      List.flatMap_cons
    rw [hall] at hreadable ⊢
    obtain ⟨later, hsession, hlater, hread⟩ :=
      session_play hjson hstrict hplayable block hreadable.left.last
    rw [Command.runAll_append]
    cases others with
    | nil =>
      refine ⟨_, later, sessions_cons hsession rfl, ?_, rfl, hread⟩
      simp [allCommands, Command.runAll]
    | cons next others =>
      obtain ⟨played, last, hsessions, hanswers, hexceptions, hlast⟩ :=
        ih (List.cons_ne_nil _ _) hlater hreadable.right
      refine ⟨_, last, sessions_cons hsession hsessions, ?_, ?_, hlast⟩
      · rw [List.flatMap_cons, hanswers]
      · rw [List.map_cons, hexceptions]
        rfl

/-- It makes no difference where one session ends and the next begins. Whatever blocks the commands
are cut into, and however each of these ends, they get the answers they get in a single session,
and the save file ends up with the same bytes, if the integers of the game can be read all the
time. -/
theorem sessions_eq_session (hjson : SaveFormat.IsJson) (hstrict : SaveFormat.IsStrict)
    {blocks : List (Block ε)} (hne : blocks ≠ []) (exception : Option ε)
    (hload : load files path = .ok root) (hsavable : IsSavable files path)
    (hreadable : Command.Stays Root.IsReadable (allCommands blocks) root) :
    ∃ played later whole, sessions path blocks files = .ok (played, later) ∧
      session files path (Block.play ⟨allCommands blocks, exception⟩) = .ok whole ∧
      played.flatMap (·.result.answers) = whole.result.answers ∧
      played.map (·.result.exception) = blocks.map (·.exception) ∧
      later.read path = whole.files.read path ∧
      whole.files.read path =
        .ok (SaveFormat.write (Command.runAll (allCommands blocks) root).2).toUTF8 := by
  have hplayable : IsPlayable files path root := ⟨hload, hsavable⟩
  obtain ⟨played, later, hsessions, hanswers, hexceptions, hlater⟩ :=
    sessions_play hjson hstrict hne hplayable hreadable
  obtain ⟨after, hwhole, -, hafter⟩ :=
    session_play hjson hstrict hplayable ⟨allCommands blocks, exception⟩ hreadable.last
  exact ⟨played, later, _, hsessions, hwhole, hanswers, hexceptions, hlater.trans hafter.symm,
    hafter⟩

end

/-- A player earns two coins, is interrupted, and earns two more in the next session. -/
theorem sessions_eq_session_interrupted :
    ∃ played later whole,
      sessions defaultPath [⟨[earnTwo], some ()⟩, ⟨[earnTwo], none⟩]
        (homeWith (.file "\x7b\x7d".toUTF8)) = .ok (played, later) ∧
      session (homeWith (.file "\x7b\x7d".toUTF8)) defaultPath
        (Block.play ⟨[earnTwo, earnTwo], (none : Option Unit)⟩) = .ok whole ∧
      later.read defaultPath = whole.files.read defaultPath ∧
      later.read defaultPath = .ok (SaveFormat.write { coins := 4 }).toUTF8 := by
  have hearn : ∀ root : Root,
      rootAfter root (runCommand earnTwo.text root earnTwo.options earnTwo.mode) =
        (root.add 2).2 := by
    intro root
    have hformed : (Instruction.call "add" [2]).WellFormed := by decide +kernel
    have hread : parseText "add(2)" none (some .strict) = .ok (.call "add" [2]) :=
      parseText_format hformed .strict
    rw [earnTwo, runCommand, hread]
    rfl
  have hload : load (homeWith (.file "\x7b\x7d".toUTF8)) defaultPath = .ok {} :=
    load_homeWith (by rfl : SaveFormat.parse "\x7b\x7d" = .ok (.object [])) (by rfl)
  have hsavable : IsSavable (homeWith (.file "\x7b\x7d".toUTF8)) defaultPath :=
    ⟨Path.ofText "game.save.tmp", ["home", "game.save.tmp"], by rfl, by rfl, by decide⟩
  have hreadable : Command.Stays Root.IsReadable [earnTwo, earnTwo] {} := by
    refine .cons ⟨by decide, by decide⟩ (.cons ?_ (Command.stays_nil ?_))
    · rw [hearn]
      exact ⟨by decide, by decide⟩
    · rw [hearn, hearn]
      exact ⟨by decide, by decide⟩
  have hne : ([⟨[earnTwo], some ()⟩, ⟨[earnTwo], none⟩] : List (Block Unit)) ≠ [] :=
    List.cons_ne_nil _ _
  obtain ⟨played, later, whole, hsessions, hwhole, -, -, hread, hcontent⟩ :=
    sessions_eq_session isJson_programFormat isStrict_programFormat hne none hload
      hsavable hreadable
  refine ⟨played, later, whole, hsessions, hwhole, hread, ?_⟩
  rw [hread, hcontent]
  simp only [allCommands, List.flatMap_cons, List.flatMap_nil, List.append_nil, List.cons_append,
    List.nil_append, Command.runAll, hearn]
  rfl

end Save

end CoinConsole
