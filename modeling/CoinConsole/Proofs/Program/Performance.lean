import CoinConsole.Proofs.Console.Capacity
import CoinConsole.Proofs.Program.CommandLine
import CoinConsole.Proofs.Program.Opening

/-!
# Whole runs of the program

A run of the program plays the lines it is given on the game in the save file, and saves what comes
of it (`Performance.PlaysOn`); or there is no game to play, and it says so, reads no line and
leaves the files alone (`Performance.Declines`). Which of the two it is depends on whether the game
can be loaded once it has been opened (`perform_plays_lines`).

One run is neither. A save path that is too long to ask whether it is there makes the program fail
if the save file is to be created, though it is reported like any other bad path if it is not
(`perform_fails_on_long_path`).
-/

namespace CoinConsole

open FileSystem

/-! ## How the program is started -/

/-- The invocation gives the arguments and leads to the settings, with a known level for log records
and no file for them. -/
structure Invocation.Means (invocation : Invocation) (arguments : GameArguments)
    (settings : Settings) : Prop where
  parse : GameArguments.interface.parse {} invocation.arguments = .ok arguments
  noLogFile : arguments.logFile = .absent
  level : ∃ level, arguments.logLevel.read = .ok level
  settings : Settings.ofValues invocation.saveVariable arguments.settingsValues = .ok settings

/-- The settings for a request. -/
def GameRequest.settings (request : GameRequest) (h : 0 < request.scrollback) : Settings where
  savePath := Path.ofText request.save
  parseMode := if request.permissive then .permissive else .strict
  scrollback := request.scrollback
  prompt := Settings.defaultPrompt
  scrollback_pos := h

/-- Every request can be made, whatever the environment says. -/
theorem GameRequest.means (request : GameRequest) (saveVariable : Option String) (time : String)
    (hsave : request.save ≠ "--") (hpos : 0 < request.scrollback)
    (hlimit : (request.scrollback : Int) ≤ Transcript.maxLimit) :
    Invocation.Means { arguments := request.arguments, saveVariable, time } request.meaning
      (request.settings hpos) where
  parse := parse_arguments hsave hlimit
  noLogFile := rfl
  level := ⟨.warning, by rfl⟩
  settings := by
    have hread := Settings.readLimit_natCast hpos
    obtain ⟨save, create, permissive, scrollback⟩ := request
    cases permissive <;>
      simp [Settings.ofValues, GameArguments.settingsValues, meaning, Settings.readPath,
        Settings.readScrollback, hread, settings] <;> rfl

namespace Play

variable {invocation : Invocation} {arguments : GameArguments} {settings : Settings}
  {files : FileSystem} {stage : Stage} {root : Root}

/-- The program is configured to send records of its level to standard error. -/
theorem configure_of_level (h : invocation.Means arguments settings) {level : Log.Level}
    (hlevel : arguments.logLevel.read = .ok level) (files : FileSystem) :
    configure invocation (.ofFiles files) =
      (.ok (arguments, settings),
        { journal := { files, stderr := [] }
          setup := { sinks := [.stderr], level, propagate := false } }) := by
  have hsetup : (Stage.ofFiles files).setup.configure files arguments.logLevel arguments.logFile =
      (.ok (), { sinks := [.stderr], level, propagate := false }, files) := by
    rw [h.noLogFile, Log.Setup.configure, Log.Setup.openSink]
    simp only [hlevel]
  have hfiles : (Stage.ofFiles files).files = files := rfl
  rw [configure, h.parse, hfiles]
  dsimp only
  rw [hsetup]
  dsimp only
  rw [h.settings]
  rfl

/-- The program is configured without touching a file. -/
theorem configure_of_means (h : invocation.Means arguments settings) (files : FileSystem) :
    ∃ stage, configure invocation (.ofFiles files) = (.ok (arguments, settings), stage) ∧
      stage.files = files ∧ stage.LogsToStderr := by
  obtain ⟨level, hlevel⟩ := h.level
  exact ⟨_, configure_of_level h hlevel files, rfl, rfl⟩

/-! ## Ends -/

section

variable [SaveFormat]

/-- Closing a game saves it. -/
theorem files_close (hlogs : stage.LogsToStderr) (time : String) (path : Path) (root : Root) :
    (close time path root stage).files = (Save.save stage.files path root).2 := by
  rw [close]
  split
  · next files hsave =>
    rw [Stage.files_log (hlogs.savedTo path files), Stage.files_savedTo, hsave]
  · next files hsave =>
    have hwith : (stage.withFiles files).LogsToStderr := hlogs
    rw [Stage.files_log hwith, hsave]
    rfl
  · next fault files hsave =>
    rw [hsave]
    rfl

/-- The game after the lines have been played on it. -/
def lastRoot (settings : Settings) (root : Root) (lines : List String) : Root :=
  (Command.runAll (Console.commands settings.parseMode lines) root).2

end

end Play

namespace Performance

/-- The run has played the lines on the game `root` that was loaded from `files`: the console ran on
them behind its prompt, the program ended without fault, and the last game has been saved. If
saving worked and the integers of the last game can be read, it is loaded again from the save
file. -/
structure PlaysOn [SaveFormat] (performance : Performance) (files : FileSystem)
    (settings : Settings) (root : Root) (lines : List String) : Prop where
  ending : performance.ending = .exit 0
  screen : ∃ console, Console.start root settings = .ok console ∧
    performance.screen = (console.run lines).screen
  prompt : ∃ behind, performance.screen = settings.prompt ++ behind
  files_eq : performance.stage.files =
    (Save.save files settings.savePath (Play.lastRoot settings root lines)).2
  reloads : (Save.save files settings.savePath (Play.lastRoot settings root lines)).1 = .ok true →
    (Play.lastRoot settings root lines).IsReadable →
    Save.load performance.stage.files settings.savePath =
      .ok (Play.lastRoot settings root lines)

/-- The run has ended without a game: with an error code, nothing on the screen, not even a prompt,
and every file as it was. -/
structure Declines (performance : Performance) (files : FileSystem) : Prop where
  ending : performance.ending = .exit 1
  screen : performance.screen = ""
  files_eq : performance.stage.files = files

end Performance

namespace Play

variable {invocation : Invocation} {arguments : GameArguments} {settings : Settings}
  {files : FileSystem} {stage : Stage} {root : Root} {lines : List String}

/-- A console is started on every game. -/
theorem exists_start (hlimit : (settings.scrollback : Int) ≤ Transcript.maxLimit) (root : Root) :
    ∃ console, Console.start root settings = .ok console ∧ console.root = root ∧
      console.settings = settings ∧ console.running = true := by
  obtain ⟨console, hstart⟩ := Console.exists_start_iff.mpr hlimit
  exact ⟨console, hstart, Console.start_eq_ok hstart⟩

/-- A run that is refused at the start declines. -/
theorem declines_endEarly (hlogs : stage.LogsToStderr) (time : String) (error : SaveError)
    (causes : List String) : (endEarly time stage (.save error causes)).Declines stage.files :=
  ⟨rfl, rfl, Stage.files_log hlogs _ _⟩

section

variable [SaveFormat]

/-- A loaded game is played on the lines. -/
theorem playsOn_onLines (hjson : SaveFormat.IsJson) (hstrict : SaveFormat.IsStrict)
    (hlogs : stage.LogsToStderr)
    (hlimit : (settings.scrollback : Int) ≤ Transcript.maxLimit)
    (hshort : Command.StaysShort (Console.commands settings.parseMode lines) root)
    (invocation : Invocation) :
    (onLines invocation settings root lines stage).PlaysOn stage.files settings root lines := by
  obtain ⟨console, hstart, hroot, hsettings, hrunning⟩ := exists_start hlimit root
  rw [← hroot, ← hsettings] at hshort
  have hplays := Console.plays_run hrunning hshort
  obtain ⟨hfiles, hlogs'⟩ := Stage.files_logAll hlogs invocation.time (console.run lines).records
  have hlast : (console.run lines).console.root = lastRoot settings root lines := by
    rw [hplays.root, hroot, hsettings]
    rfl
  have hclosed := files_close hlogs' invocation.time settings.savePath (lastRoot settings root lines)
  rw [hfiles] at hclosed
  have hperformance : onLines invocation settings root lines stage =
      { ending := .exit 0, screen := (console.run lines).screen
        stage := close invocation.time settings.savePath (lastRoot settings root lines)
          (stage.logAll invocation.time (console.run lines).records) } := by
    rw [onLines, hstart]
    simp only [hplays.fault, hlast]
  rw [hperformance]
  refine ⟨rfl, ⟨console, hstart, rfl⟩, hsettings ▸ hplays.exists_screen, hclosed,
    fun hsaved hreadable => ?_⟩
  rw [hclosed]
  exact (Save.isKept_of_save hjson hstrict hreadable hsaved).load

/-! ## Runs -/

/-- How a run goes on from its start. -/
def goOn (invocation : Invocation) (settings : Settings) (lines : List String) :
    Except EarlyEnd Root × Stage → Performance
  | (.error e, stage) => endEarly invocation.time stage e
  | (.ok root, stage) => onLines invocation settings root lines stage

/-- A run goes on as its start went, whatever the lines are. -/
theorem exists_startCourse (hmeans : invocation.Means arguments settings)
    (hpath : Approachable files settings.savePath arguments.create) :
    ∃ outcome, StartCourse (opened files settings.savePath arguments.create) settings.savePath
        outcome ∧
      ∀ lines, perform invocation lines files = goOn invocation settings lines outcome := by
  obtain ⟨stage, hconfigure, rfl, hlogs⟩ := configure_of_means hmeans files
  refine ⟨_, startCourse_start hlogs hpath invocation.time, fun lines => ?_⟩
  rw [perform, hconfigure]
  rfl

/-- The lines are played on a game that is there. -/
theorem playsOn_perform (hjson : SaveFormat.IsJson) (hstrict : SaveFormat.IsStrict)
    (hmeans : invocation.Means arguments settings)
    (hlimit : (settings.scrollback : Int) ≤ Transcript.maxLimit)
    (hpath : Approachable files settings.savePath arguments.create)
    (hload : Save.load (opened files settings.savePath arguments.create) settings.savePath =
      .ok root)
    (hshort : Command.StaysShort (Console.commands settings.parseMode lines) root) :
    (perform invocation lines files).PlaysOn (opened files settings.savePath arguments.create)
      settings root lines := by
  obtain ⟨outcome, hcourse, hperform⟩ := exists_startCourse hmeans hpath
  rw [hperform]
  cases hcourse with
  | loaded hload' hstage hlogs =>
    obtain rfl := Except.ok.inj (hload.symm.trans hload')
    rw [← hstage]
    exact playsOn_onLines hjson hstrict hlogs hlimit hshort invocation
  | refused hnone => exact absurd hload (hnone root)

/-- Where no game is there, the run declines, and no line makes a difference. -/
theorem declines_perform (hjson : SaveFormat.IsJson) (hstrict : SaveFormat.IsStrict)
    (hmeans : invocation.Means arguments settings)
    (hpath : Approachable files settings.savePath arguments.create)
    (hnone : ∀ root, Save.load (opened files settings.savePath arguments.create)
      settings.savePath ≠ .ok root) :
    (perform invocation lines files).Declines files ∧
      ∀ others, perform invocation others files = perform invocation lines files := by
  have hopened := (opening_opened hpath).eq_of_load_ne hjson hstrict hnone
  obtain ⟨outcome, hcourse, hperform⟩ := exists_startCourse hmeans hpath
  rw [hopened] at hcourse hnone
  cases hcourse with
  | loaded hload => exact absurd hload (hnone _)
  | refused _ hstage hlogs =>
    refine ⟨?_, fun others => (hperform others).trans (hperform lines).symm⟩
    rw [hperform, ← hstage]
    exact declines_endEarly hlogs _ _ _

/-- A path that is too long to ask for makes the program fail if its save file is to be created. -/
theorem perform_of_long_path (hmeans : invocation.Means arguments settings)
    (hcreate : arguments.create = true)
    (hlong : files.access settings.savePath = .error (.file .nameTooLong)) (lines : List String) :
    (perform invocation lines files).ending = .failed (.file .nameTooLong) := by
  obtain ⟨stage, hconfigure, rfl, hlogs⟩ := configure_of_means hmeans files
  have hasked : stage.files.pathExists settings.savePath = .error .nameTooLong := by
    rw [pathExists, hlong]
  have hstart : start invocation.time arguments settings stage =
      (.error (.failure (.file .nameTooLong)), stage) := by
    rw [start, if_pos hcreate, create, hasked]
  rw [perform, hconfigure]
  dsimp only
  rw [hstart]
  rfl

/-! ## Main result -/

/-- A run of the program plays the lines exactly if there is a game to play. The game is opened
first (`Opens`): what stands at the save path is kept, and only where nothing stands is the save
file of a new game written, if that is asked for. If a game can be loaded then, the lines are
played on it, from the first up to the one that ends the session, and the program ends well. If
none can be loaded, the program ends with an error code, has read no line, and leaves every file
as it was. The format of the save files reads and writes JSON and is strict. -/
theorem perform_plays_lines (hjson : SaveFormat.IsJson) (hstrict : SaveFormat.IsStrict)
    (hmeans : invocation.Means arguments settings)
    (hlimit : (settings.scrollback : Int) ≤ Transcript.maxLimit)
    (hpath : Approachable files settings.savePath arguments.create) (lines : List String) :
    let opened := opened files settings.savePath arguments.create
    Opens files opened settings.savePath arguments.create ∧
    (∀ root, Save.load opened settings.savePath = .ok root →
      Command.StaysShort (Console.commands settings.parseMode lines) root →
      (perform invocation lines files).PlaysOn opened settings root lines) ∧
    ((∀ root, Save.load opened settings.savePath ≠ .ok root) →
      (perform invocation lines files).Declines files ∧
      ∀ others, perform invocation others files = perform invocation lines files) :=
  ⟨(opening_opened hpath).opens hjson hstrict,
    fun _ => playsOn_perform hjson hstrict hmeans hlimit hpath,
    declines_perform hjson hstrict hmeans hpath⟩

end

/-- A home directory with nothing in it. -/
def emptyHome : FileSystem where
  current := ["home"]
  nodes := [(["home"], .directory)]

/-- Runs the program in an empty home directory. -/
def performAtHome (request : GameRequest) (lines : List String) : Performance :=
  perform { arguments := request.arguments, saveVariable := none, time := "" } lines emptyHome

/-- Two coins are earned in a new game, and nothing is run after the session has ended. -/
theorem perform_plays_lines_new_game :
    let performance := performAtHome ⟨"game.save", true, false, 1000⟩
      ["add(2)", "", ":help", ":quit", "add(5)"]
    performance.ending = .exit 0 ∧
      Save.load performance.stage.files (Path.ofText "game.save") = .ok { coins := 2 } := by
  have hread : parseText "add(2)" none (some .strict) = .ok (.call "add" [2]) :=
    parseText_format (by decide +kernel : (Instruction.call "add" [2]).WellFormed) .strict
  have hearn : rootAfter {} (runCommand "add(2)" {} none (some .strict)) = { coins := 2 } := by
    rw [runCommand, hread]
    rfl
  have hshort : Command.StaysShort [{ text := "add(2)", mode := some .strict }] {} :=
    .cons ⟨by decide, by decide⟩ (Command.stays_nil (hearn ▸ ⟨by decide, by decide⟩))
  have hlines : Console.gameLines ["add(2)", "", ":help", ":quit", "add(5)"] = ["add(2)"] := by
    decide
  have hcommands : Console.commands .strict ["add(2)", "", ":help", ":quit", "add(5)"] =
      [{ text := "add(2)", mode := some .strict }] := by
    rw [Console.commands, hlines, List.map_singleton]
  have hplace : emptyHome.access (Path.ofText "game.save") = .ok ["home", "game.save"] := by rfl
  have hnothing : emptyHome.at? (Path.ofText "game.save") = none := by rfl
  have hsavable : Save.IsSavable emptyHome (Path.ofText "game.save") :=
    ⟨Path.ofText "game.save.tmp", ["home", "game.save.tmp"], by rfl, by rfl, by decide⟩
  have hpath : Approachable emptyHome (Path.ofText "game.save") true :=
    ⟨by decide, by decide, by simp [hplace], by simp [hnothing]⟩
  obtain ⟨settings, hmeans, hsave, hmode, hlimit⟩ :
      ∃ settings, Invocation.Means _ _ settings ∧ settings.savePath = Path.ofText "game.save" ∧
        settings.parseMode = .strict ∧ (settings.scrollback : Int) ≤ Transcript.maxLimit :=
    ⟨_, GameRequest.means ⟨"game.save", true, false, 1000⟩ none "" (by decide) (by decide)
      (by decide), rfl, rfl, by decide⟩
  rw [← hsave] at hnothing hsavable hpath ⊢
  obtain ⟨hopens, hplays, -⟩ := perform_plays_lines isJson_programFormat
    isStrict_programFormat hmeans hlimit hpath
    ["add(2)", "", ":help", ":quit", "add(5)"]
  have hload := hopens.created rfl hnothing hsavable
  have hdone := hplays {} hload (by rw [hmode, hcommands]; exact hshort)
  have hsavable' := (Save.isSavable_congr hopens.changesOnly.toSameDirectories).mpr hsavable
  have hlast : lastRoot settings {} ["add(2)", "", ":help", ":quit", "add(5)"] =
      { coins := 2 } := by
    rw [lastRoot, hmode, hcommands]
    exact hearn
  have hreadable : ({ coins := 2 } : Root).IsReadable := ⟨by decide, by decide⟩
  rw [← hlast] at hreadable ⊢
  exact ⟨hdone.ending, hdone.reloads (Save.save_eq_true_of_load hload hsavable' _) hreadable⟩

/-- A save path that is too long is reported like any other bad path, unless its save file is to be
created: then the program fails. -/
theorem perform_fails_on_long_path :
    (performAtHome ⟨letters 300, false, false, 1000⟩ ["add(1)"]).ending = .exit 1 ∧
      (performAtHome ⟨letters 300, true, false, 1000⟩ ["add(1)"]).ending =
        .failed (.file .nameTooLong) := by
  have hhome : emptyHome.node? emptyHome.current = some .directory := by decide
  have hmany : 0 < 300 := by decide
  have hnull := hasNull_letters hmany
  have hlong : emptyHome.access (Path.ofText (letters 300)) = .error (.file .nameTooLong) :=
    access_of_long_name hhome (isPathName_letters hmany) hnull (by rw [utf8ByteSize_letters]; decide)
  have hnothing : emptyHome.at? (Path.ofText (letters 300)) = none := by rw [at?, hlong]
  have hmeans : ∀ create, Invocation.Means _ _ _ := fun create =>
    GameRequest.means ⟨letters 300, create, false, 1000⟩ none "" (letters_ne hmany (by decide))
      (Nat.succ_pos _) (by show (1000 : Int) ≤ Transcript.maxLimit; decide)
  have hpath : Approachable emptyHome (Path.ofText (letters 300)) false :=
    ⟨hhome, hnull, by simp, by simp [hnothing]⟩
  have hnone := Save.load_ne_of_nothing hnothing
  constructor
  · exact (declines_perform isJson_programFormat isStrict_programFormat (hmeans false)
      hpath hnone).1.ending
  · exact perform_of_long_path (hmeans true) rfl hlong _

end Play

end CoinConsole
