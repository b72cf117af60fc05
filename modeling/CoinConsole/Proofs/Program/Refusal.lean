import CoinConsole.Proofs.Program.Performance
import CoinConsole.Proofs.Text.LineBreaks

/-!
# Refused save files

A save file whose content is refused ends the program with an error code and one complaint on
standard error (`Performance.Refuses`). The complaint is made of the path, the place of the issue
that is told first, and wordings, of the program and of the format of save files. The format words
issues in single lines, and takes the names in their places from the file. So if the path has no
line breaks, the complaint has none unless it names a key of the file that has one
(`perform_reports_refused_content`).
-/

namespace CoinConsole

open FileSystem Text

/-! ## Refusals on one line -/

/-- A name in the place of the issue that is reported has a line break. -/
def SchemaError.NamesLineBreak (error : SchemaError) : Prop :=
  ∃ name ∈ error.first.location, ¬ IsSingleLine name

/-- The summary of an issue is on one line if the names in its place are. -/
theorem SchemaIssue.isSingleLine_summary_iff {issue : SchemaIssue}
    (hmessage : IsSingleLine issue.message) :
    IsSingleLine issue.summary ↔ ∀ name ∈ issue.location, IsSingleLine name := by
  rw [← isSingleLine_intercalate (by decide : IsSingleLine "."), summary]
  split
  · next hplace =>
    rw [hplace]
    exact iff_of_true hmessage (by decide)
  · refine ⟨fun h => ?_, fun h => (h.append (by decide)).append hmessage⟩
    exact (isSingleLine_append.mp (isSingleLine_append.mp h).1).1

namespace Schema

variable [SaveFormat] {text : String} {error : SchemaError}

/-- The reason for which a content is refused is on one line unless it names a line break. -/
theorem isSingleLine_reason_iff (hwording : SaveFormat.HasPlainWording)
    (h : Schema.read text = .error error) :
    IsSingleLine error.reason ↔ ¬ error.NamesLineBreak := by
  have hmessage : IsSingleLine error.first.message := by
    rcases exists_issue_of_read_eq_error h with hparse | ⟨document, -, hcheck⟩
    · exact hwording.parse hparse
    · exact hwording.check (hcheck ▸ List.mem_cons_self)
  rw [SchemaError.reason, SchemaIssue.isSingleLine_summary_iff hmessage]
  simp [SchemaError.NamesLineBreak]

/-- What is named in the place of the issue that is reported are keys of the document. -/
theorem exists_hasKey_of_mem_location (hkeys : SaveFormat.LocatesByKeys)
    (h : Schema.read text = .error error) {name : String} (hname : name ∈ error.first.location) :
    ∃ document, SaveFormat.parse text = .ok document ∧ document.HasKey name := by
  rcases exists_issue_of_read_eq_error h with hparse | ⟨document, hparse, hcheck⟩
  · rw [hkeys.parse hparse] at hname
    cases hname
  · exact ⟨document, hparse, hkeys.check (hcheck ▸ List.mem_cons_self) name hname⟩

end Schema

theorem SaveError.isSingleLine_corrupt_iff {path : Path} (hpath : IsSingleLine path.text)
    (reason : String) : IsSingleLine (SaveError.corrupt path reason).message ↔
      IsSingleLine reason := by
  have hopening : IsSingleLine "Failed to load game save " := by decide
  refine ⟨fun h => (isSingleLine_append.mp h).2, fun h => ?_⟩
  exact ((hopening.append hpath).append (by decide)).append h

/-! ## Runs that are refused -/

/-- The run has ended without a game, and has complained about the save file on standard error, in
one text and nothing else. -/
structure Performance.Refuses (performance : Performance) (files : FileSystem)
    (error : SaveError) : Prop extends performance.Declines files where
  stderr : performance.stage.journal.stderr = [s!"{error.message}, exiting"]

/-- A record below the level of the logger leaves no trace. -/
theorem Stage.log_of_lt {stage : Stage} {record : Log.Record}
    (h : record.level < stage.setup.leastLevel) (time : String) :
    stage.log time record = stage := by
  rw [Stage.log, Log.Setup.log, if_neg (Int.not_le.mpr h)]

theorem FileSystem.pathExists_of_at? {files : FileSystem} {path : Path} {node : Node}
    (h : files.at? path = some node) : files.pathExists path = .ok true := by
  have haccess : files.access path ≠ .error (.file .nameTooLong) := by
    intro hlong
    rw [at?, hlong] at h
    cases h
  rw [pathExists_eq haccess, h, Option.isSome_some]

/-- What stands somewhere stands there still after a file has been opened to append to it. -/
theorem FileSystem.at?_of_openAppend {files later : FileSystem} {path other : Path}
    {place : Location} {node : Node} (h : files.openAppend path = .ok (place, later))
    (hother : files.at? other = some node) : later.at? other = some node := by
  rw [openAppend] at h
  split at h
  · cases h
  · split at h
    · cases h
    · cases h
      exact hother
    · next hnothing =>
      cases h
      have hfree : files.node? place ≠ some .directory := by simp [hnothing]
      obtain ⟨standing, haccess, hnode⟩ := at?_eq_some_iff.mp hother
      refine at?_eq_some_iff.mpr
        ⟨standing, (sameDirectories_put _ hfree).access_eq_ok_iff.mpr haccess, ?_⟩
      rw [node?_put files (ne_nil_of_not_directory hfree), if_neg, hnode]
      -- the new file is put where nothing stood
      rintro rfl
      rw [hnothing] at hnode
      cases hnode

/-- A logger that is set up has its level, and what stood somewhere stands there still. -/
theorem Log.Setup.configure_eq_ok {setup later : Setup} {files opened : FileSystem}
    {choice : LevelChoice} {level : Level} {file : Given Path}
    (h : setup.configure files choice file = (.ok (), later, opened))
    (hlevel : choice.read = .ok level) :
    later.level = level ∧
      ∀ path node, files.at? path = some node → opened.at? path = some node := by
  rw [configure] at h
  cases hsink : openSink files file with
  | error e => simp [hsink] at h
  | ok sunk =>
    obtain ⟨sink, between⟩ := sunk
    simp only [hsink, hlevel, Prod.mk.injEq, true_and] at h
    obtain ⟨rfl, rfl⟩ := h
    refine ⟨rfl, fun path node hnode => ?_⟩
    cases file with
    | absent =>
      cases hsink
      exact hnode
    | blank => cases hsink
    | value logFile =>
      rw [openSink] at hsink
      split at hsink
      · cases hsink
      · next hopen =>
        cases hsink
        exact at?_of_openAppend hopen hnode

namespace Play

variable {invocation : Invocation} {arguments : GameArguments} {settings : Settings}
  {files : FileSystem} {stage : Stage} {text : String} {error : SchemaError} {level : Log.Level}

/-- The program is ready to start: its logger shows records of a level, nothing has been written to
standard error, and what stood somewhere stands there still. -/
structure Configured (files : FileSystem) (level : Log.Level) (stage : Stage) : Prop where
  level_eq : stage.setup.level = level
  quiet : stage.journal.stderr = []
  keeps : ∀ path node, files.at? path = some node → stage.files.at? path = some node

/-- A program that is configured has its level, wherever its records go. -/
theorem configured_of_configure
    (h : configure invocation (.ofFiles files) = (.ok (arguments, settings), stage))
    (hlevel : arguments.logLevel.read = .ok level) : Configured files level stage := by
  rw [configure] at h
  cases hparse : GameArguments.interface.parse {} invocation.arguments with
  | error stop => simp [hparse] at h
  | ok given =>
    rw [hparse] at h
    dsimp only at h
    split at h
    · cases h
    · next setup opened hsetup =>
      split at h
      · cases h
      · cases h
        obtain ⟨hlevel', hkeeps⟩ := Log.Setup.configure_eq_ok hsetup hlevel
        exact ⟨hlevel', rfl, hkeeps⟩

/-- A content that is refused ends the start, and nothing is created before. -/
theorem start_of_refused [SaveFormat]
    (hfile : stage.files.at? settings.savePath = some (.file text.toUTF8))
    (hread : Schema.read text = .error error) (time : String) (arguments : GameArguments) :
    start time arguments settings stage =
      (.error (.save (.corrupt settings.savePath error.reason) (SaveFormat.account error)),
        stage) := by
  have hload : load time settings.savePath stage =
      (.error (.save (.corrupt settings.savePath error.reason) (SaveFormat.account error)),
        stage) := by
    rw [load, Save.load_of_schemaError (read_eq_ok_iff.mpr hfile) hread]
    rfl
  rw [start, create_of_present time (pathExists_of_at? hfile)]
  dsimp only
  rw [hload, ite_self]

/-- An error about the save file makes a run refuse that shows only warnings and what is worse. -/
theorem refuses_endEarly (hlevel : stage.setup.level = .warning)
    (hquiet : stage.journal.stderr = []) (time : String) (error : SaveError)
    (causes : List String) :
    (endEarly time stage (.save error causes)).Refuses stage.files error := by
  have hbelow : (stoppedRecord error causes).level < stage.setup.leastLevel := by
    rw [Log.Setup.leastLevel, hlevel, ite_self]
    exact (by decide : Log.Level.debug < Log.Level.warning)
  rw [endEarly, Stage.log_of_lt hbelow]
  exact ⟨⟨rfl, rfl, rfl⟩, by rw [Stage.complain, hquiet]; rfl⟩

/-- A content that is refused makes a run refuse that shows only warnings and what is worse. -/
theorem refuses_perform [SaveFormat]
    (hconfigure : configure invocation (.ofFiles files) = (.ok (arguments, settings), stage))
    (hlevel : arguments.logLevel.read = .ok .warning)
    (hfile : files.at? settings.savePath = some (.file text.toUTF8))
    (hread : Schema.read text = .error error) (lines : List String) :
    (perform invocation lines files).Refuses stage.files
      (.corrupt settings.savePath error.reason) := by
  obtain ⟨hwarning, hquiet, hkeeps⟩ := configured_of_configure hconfigure hlevel
  rw [perform, hconfigure]
  dsimp only
  rw [start_of_refused (hkeeps _ _ hfile) hread]
  exact refuses_endEarly hwarning hquiet invocation.time _ _

/-! ## Main result -/

/-- A save file whose content is refused is reported as corrupt. The run ends with an error code,
shows nothing but the complaint, and leaves every file as it was, except that the file for log
records is created if one is named and missing. If the path has no line breaks, the complaint is a
single line, unless the issue that is told first names a key of the file that has a line break. -/
theorem perform_reports_refused_content [SaveFormat] (hwording : SaveFormat.HasPlainWording)
    (hkeys : SaveFormat.LocatesByKeys)
    (hconfigure : configure invocation (.ofFiles files) = (.ok (arguments, settings), stage))
    (hlevel : arguments.logLevel.read = .ok .warning)
    (hpath : IsSingleLine settings.savePath.text)
    (hfile : files.at? settings.savePath = some (.file text.toUTF8))
    (hread : Schema.read text = .error error) (lines : List String) :
    let refusal : SaveError := .corrupt settings.savePath error.reason
    (∃ fault, Save.load files settings.savePath = .error (.save settings.savePath fault) ∧
      fault.error settings.savePath = refusal) ∧
    (perform invocation lines files).Refuses stage.files refusal ∧
    (∀ path node, files.at? path = some node → stage.files.at? path = some node) ∧
    (IsSingleLine refusal.message ↔ ¬ error.NamesLineBreak) ∧
    (IsSingleLine s!"{refusal.message}, exiting" ↔ ¬ error.NamesLineBreak) ∧
    (error.NamesLineBreak → ∃ document key, SaveFormat.parse text = .ok document ∧
      document.HasKey key ∧ ¬ IsSingleLine key) := by
  intro refusal
  have hmessage : IsSingleLine refusal.message ↔ ¬ error.NamesLineBreak :=
    (SaveError.isSingleLine_corrupt_iff hpath _).trans
      (Schema.isSingleLine_reason_iff hwording hread)
  refine ⟨⟨_, Save.load_of_schemaError (read_eq_ok_iff.mpr hfile) hread, rfl⟩,
    refuses_perform hconfigure hlevel hfile hread lines,
    (configured_of_configure hconfigure hlevel).keeps, hmessage, ?_, ?_⟩
  · rw [← hmessage]
    exact ⟨fun h => (isSingleLine_append.mp h).1, fun h => h.append (by decide)⟩
  · rintro ⟨name, hname, hbreak⟩
    obtain ⟨document, hparse, hkey⟩ := Schema.exists_hasKey_of_mem_location hkeys hread hname
    exact ⟨document, name, hparse, hkey, hbreak⟩

/-- Runs the program with the content of the save file at home. -/
def performOn (content : String) (lines : List String) : Performance :=
  perform { arguments := (GameRequest.mk "game.save" false false 1000).arguments
            saveVariable := none, time := "" }
    lines (Save.homeWith (.file content.toUTF8))

/-- A save file with a member that does not belong there. -/
theorem perform_reports_refused_content_unknown_member :
    let complaint :=
      "Failed to load game save game.save: gold: Extra inputs are not permitted, exiting"
    let performance := performOn "\x7b\"gold\": 1\x7d" ["add(1)"]
    performance.ending = .exit 1 ∧ performance.screen = "" ∧
      performance.stage.journal.stderr = [complaint] ∧ IsSingleLine complaint := by
  intro complaint performance
  have hparse : SaveFormat.parse "\x7b\"gold\": 1\x7d" = .ok (.object [("gold", .integer 1)]) := by
    rfl
  have hcheck : SaveFormat.check Schema.rootShape (.object [("gold", .integer 1)]) =
      [⟨["gold"], Fault.unknownMember.message⟩] := by rfl
  have hread := Schema.read_eq_error_of_check hparse hcheck
  have hplain : ¬ SchemaError.NamesLineBreak ⟨⟨["gold"], Fault.unknownMember.message⟩, []⟩ := by
    rintro ⟨name, hname, hbreak⟩
    obtain rfl := List.mem_singleton.mp hname
    exact hbreak (by decide)
  have hmeans := GameRequest.means ⟨"game.save", false, false, 1000⟩ none "" (by decide)
    (by decide) (by decide)
  have hconfigure := configure_of_level hmeans (by rfl)
    (Save.homeWith (.file "\x7b\"gold\": 1\x7d".toUTF8))
  obtain ⟨-, hrefuses, -, -, hline, -⟩ := perform_reports_refused_content
    hasPlainWording_programFormat locatesByKeys_programFormat hconfigure (by rfl)
    (by decide) (Save.at?_homeWith _) hread ["add(1)"]
  have hperformance : performance = perform _ ["add(1)"] _ := rfl
  rw [hperformance]
  exact ⟨hrefuses.ending, hrefuses.screen, hrefuses.stderr, hline.mpr hplain⟩

/-- A member whose name has a line feed makes two lines of the complaint. -/
theorem perform_complains_on_two_lines :
    let complaint :=
      "Failed to load game save game.save: a\nb: Extra inputs are not permitted, exiting"
    let performance := performOn "\x7b\"a\\nb\": 1\x7d" []
    IsSingleLine "game.save" ∧ performance.ending = .exit 1 ∧
      performance.stage.journal.stderr = [complaint] ∧ ¬ IsSingleLine complaint := by
  intro complaint performance
  have hparse : SaveFormat.parse "\x7b\"a\\nb\": 1\x7d" =
      .ok (.object [("a\nb", .integer 1)]) := by rfl
  have hcheck : SaveFormat.check Schema.rootShape (.object [("a\nb", .integer 1)]) =
      [⟨["a\nb"], Fault.unknownMember.message⟩] := by rfl
  have hread := Schema.read_eq_error_of_check hparse hcheck
  have hmeans := GameRequest.means ⟨"game.save", false, false, 1000⟩ none "" (by decide)
    (by decide) (by decide)
  have hconfigure := configure_of_level hmeans (by rfl)
    (Save.homeWith (.file "\x7b\"a\\nb\": 1\x7d".toUTF8))
  have hrefuses := refuses_perform hconfigure (by rfl) (Save.at?_homeWith _) hread []
  have hperformance : performance = perform _ [] _ := rfl
  rw [hperformance]
  exact ⟨by decide, hrefuses.ending, hrefuses.stderr, by decide⟩

end Play

end CoinConsole
