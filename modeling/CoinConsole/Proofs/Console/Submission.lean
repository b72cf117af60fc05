import CoinConsole.Proofs.Console.Conversation

/-!
# Submitting the lines that are heard

A run of the console hears the lines up to the first that ends the session (`heardLines`), and comes
to what submitting these one after the other comes to (`submitAll`): each is prompted for, what it
adds is shown, and the lines behind them stay unread. Lines that do not end the session can be cut
off the front of a run (`Console.run_append`), so a run is followed up to the line that ends it, or
up to the first line whose value cannot be shown, where it breaks off.
-/

namespace CoinConsole

/-! ## Replies -/

namespace Reply

/-- The reply has lines to show. -/
def IsShown (reply : Reply) : Prop := ∃ lines, reply.lines = .ok lines

/-- What is shown of a reply, all but the echo. -/
def shown (reply : Reply) : List String :=
  match reply.lines with
  | .error _ => []
  | .ok lines => lines.drop 1

/-- What happens on the screen for a reply, the prompt first. -/
def events (prompt : String) (reply : Reply) : List ScreenEvent :=
  .prompt prompt :: reply.shown.map .line

end Reply

theorem Run.output_after (run : Run) (prompt : String) (replies : List Reply)
    (records : List Log.Record) :
    (run.after (replies.flatMap (Reply.events prompt)) records).output =
      replies.flatMap Reply.shown ++ run.output := by
  induction replies with
  | nil => rfl
  | cons reply replies ih =>
    simp only [Run.output, Run.after, List.flatMap_cons, List.filterMap_append,
      List.append_assoc] at ih ⊢
    rw [ih, Reply.events, List.filterMap_cons, List.filterMap_map]
    exact congrArg (· ++ _) List.filterMap_some

theorem Run.prompts_after (run : Run) (prompt : String) (replies : List Reply)
    (records : List Log.Record) :
    (run.after (replies.flatMap (Reply.events prompt)) records).prompts =
      List.replicate replies.length prompt ++ run.prompts := by
  induction replies with
  | nil => rfl
  | cons reply replies ih =>
    simp only [Run.prompts, Run.after, List.flatMap_cons, List.filterMap_append,
      List.append_assoc] at ih ⊢
    rw [ih]
    simp [Reply.events, List.filterMap_map, List.replicate_succ]

namespace Console

/-! ## Submissions -/

/-- Submits lines one after the other, whatever comes of them; gives the replies, and the console
after the last of them. -/
def submitAll : List String → Console → List Reply × Console
  | [], console => ([], console)
  | line :: rest, console =>
    let reply := console.submit line
    let (replies, last) := submitAll rest reply.console
    (reply :: replies, last)

/-- The lines up to the first that ends the session, and that line. -/
def heardLines : List String → List String
  | [] => []
  | line :: rest => if endsSession line then [line] else line :: heardLines rest

/-- The commands to the game among the lines. -/
def addressed (mode : ParseMode) (lines : List String) : List Command :=
  (lines.filter isGameLine).map fun line => { text := line, mode := some mode }

variable {console : Console} {line : String} {lines front rest : List String}

theorem submitAll_append (first second : List String) (console : Console) :
    submitAll (first ++ second) console =
      ((submitAll first console).1 ++ (submitAll second (submitAll first console).2).1,
        (submitAll second (submitAll first console).2).2) := by
  induction first generalizing console with
  | nil => rfl
  | cons line rest ih => simp only [List.cons_append, submitAll, ih]

theorem length_submitAll (lines : List String) (console : Console) :
    (submitAll lines console).1.length = lines.length := by
  induction lines generalizing console with
  | nil => rfl
  | cons line rest ih => simp only [submitAll, List.length_cons, ih]

theorem settings_submitAll (lines : List String) (console : Console) :
    (submitAll lines console).2.settings = console.settings := by
  induction lines generalizing console with
  | nil => rfl
  | cons line rest ih =>
    rw [submitAll]
    exact (ih _).trans (takes_submit console line).settings

/-- The console stops as soon as a line ends the session. -/
theorem running_submitAll (lines : List String) (console : Console) :
    (submitAll lines console).2.running = (console.running && !lines.any endsSession) := by
  induction lines generalizing console with
  | nil => simp [submitAll]
  | cons line rest ih =>
    rw [submitAll, List.any_cons, Bool.not_or, ← Bool.and_assoc, ← (takes_submit console line).running]
    exact ih _

theorem addressed_singleton (mode : ParseMode) (line : String) :
    addressed mode [line] = commands mode [line] := by
  cases hgame : isGameLine line with
  | true => rw [commands_of_gameLine hgame]; simp [addressed, hgame, commands_nil]
  | false =>
    cases hends : endsSession line with
    | true => rw [commands_of_endsSession hends]; simp [addressed, hgame]
    | false => rw [commands_of_not_gameLine hgame hends]; simp [addressed, hgame, commands_nil]

theorem addressed_cons (mode : ParseMode) (line : String) (rest : List String) :
    addressed mode (line :: rest) = commands mode [line] ++ addressed mode rest := by
  rw [← addressed_singleton, addressed, ← List.singleton_append, List.filter_append, List.map_append]
  rfl

/-- The game is the one in which the commands among the lines end. -/
theorem root_submitAll (lines : List String) (console : Console) :
    (submitAll lines console).2.root =
      (Command.runAll (addressed console.settings.parseMode lines) console.root).2 := by
  induction lines generalizing console with
  | nil => rfl
  | cons line rest ih =>
    have htakes := takes_submit console line
    rw [submitAll, addressed_cons, Command.runAll_append, ← htakes.root, ← htakes.settings]
    exact ih _

/-- All replies have lines to show. -/
def AllShown (lines : List String) (console : Console) : Prop :=
  ∀ reply ∈ (submitAll lines console).1, reply.IsShown

theorem allShown_nil (console : Console) : AllShown [] console := by
  simp [AllShown, submitAll]

theorem allShown_cons (line : String) (rest : List String) (console : Console) :
    AllShown (line :: rest) console ↔
      (console.submit line).IsShown ∧ AllShown rest (console.submit line).console := by
  simp only [AllShown, submitAll, List.forall_mem_cons]

/-- All replies have lines to show while the integers of the game stay short. -/
theorem allShown_of_staysShort
    (hshort : Command.StaysShort (addressed console.settings.parseMode lines) console.root) :
    AllShown lines console := by
  induction lines generalizing console with
  | nil => exact allShown_nil console
  | cons line rest ih =>
    have htakes := takes_submit console line
    rw [addressed_cons] at hshort
    have hfirst : (console.submit line).console.root.IsShort := by
      rw [htakes.root]
      exact hshort.left.last
    have hothers : Command.StaysShort
        (addressed (console.submit line).console.settings.parseMode rest)
        (console.submit line).console.root := by
      rw [htakes.settings, htakes.root]
      exact hshort.right
    exact (allShown_cons line rest console).mpr ⟨htakes.shows hfirst, ih hothers⟩

/-- Either all replies have lines to show, or there is a first that has none. -/
theorem allShown_or_fails (lines : List String) (console : Console) :
    AllShown lines console ∨ ∃ front line error, front ++ [line] <+: lines ∧
      AllShown front console ∧
      ((submitAll front console).2.submit line).lines = .error error := by
  induction lines generalizing console with
  | nil => exact Or.inl (allShown_nil console)
  | cons line rest ih =>
    cases hlines : (console.submit line).lines with
    | error error =>
      exact Or.inr ⟨[], line, error, ⟨rest, rfl⟩, allShown_nil console, hlines⟩
    | ok shown =>
      rcases ih (console.submit line).console with hothers | ⟨front, last, error, hfront, hshown, hlast⟩
      · exact Or.inl ((allShown_cons line rest console).mpr ⟨⟨shown, hlines⟩, hothers⟩)
      · refine Or.inr ⟨line :: front, last, error, (List.prefix_cons_inj line).mpr hfront, ?_, hlast⟩
        exact (allShown_cons line front console).mpr ⟨⟨shown, hlines⟩, hshown⟩

/-! ## Lines that are heard -/

/-- What is not heard is behind the first line that ends the session. -/
theorem heardLines_append_unheard (lines : List String) :
    heardLines lines ++ (lines.dropWhile fun line => !endsSession line).drop 1 = lines := by
  induction lines with
  | nil => rfl
  | cons line rest ih =>
    rw [heardLines]
    cases hends : endsSession line with
    | true => simp [hends]
    | false =>
      rw [if_neg Bool.false_ne_true, List.dropWhile_cons_of_pos (by simp [hends])]
      exact congrArg (line :: ·) ih

theorem isPrefix_heardLines (lines : List String) : heardLines lines <+: lines :=
  ⟨_, heardLines_append_unheard lines⟩

/-- The commands of a conversation are those among the lines that are heard. -/
theorem addressed_heardLines (mode : ParseMode) (lines : List String) :
    addressed mode (heardLines lines) = commands mode lines := by
  induction lines with
  | nil => rfl
  | cons line rest ih =>
    rw [heardLines]
    cases hends : endsSession line with
    | true =>
      rw [if_pos rfl, addressed_singleton, commands_of_endsSession hends,
        commands_of_endsSession hends]
    | false => rw [if_neg Bool.false_ne_true, addressed_cons, ih, ← commands_cons hends]

/-- All lines are heard if none of them ends the session. -/
theorem heardLines_of_goesOn (h : lines.any endsSession = false) : heardLines lines = lines := by
  induction lines with
  | nil => rfl
  | cons line rest ih =>
    rw [List.any_cons, Bool.or_eq_false_iff] at h
    rw [heardLines, h.1, ih h.2]
    rfl

theorem any_heardLines (lines : List String) :
    (heardLines lines).any endsSession = lines.any endsSession := by
  induction lines with
  | nil => rfl
  | cons line rest ih =>
    rw [heardLines]
    split
    · next hends => simp [hends]
    · rw [List.any_cons, List.any_cons, ih]

/-- Only the last line that is heard may end the session. -/
theorem goesOn_of_mem_dropLast (h : line ∈ (heardLines lines).dropLast) :
    endsSession line = false := by
  induction lines with
  | nil => cases h
  | cons first rest ih =>
    rw [heardLines] at h
    split at h
    · cases h
    · next hgoesOn =>
      cases hrest : heardLines rest with
      | nil =>
        rw [hrest] at h
        cases h
      | cons next later =>
        rw [hrest, List.dropLast_cons_cons, ← hrest, List.mem_cons] at h
        rcases h with rfl | hlater
        · exact Bool.not_eq_true _ ▸ hgoesOn
        · exact ih hlater

/-! ## Runs -/

/-- The line that ends a session shows nothing but its echo. -/
theorem lines_submit_of_endsSession (console : Console) (h : endsSession line = true) :
    (console.submit line).lines = .ok [console.settings.prompt ++ line] := by
  have hquit : control console.transcript (Text.strip line) = ([], false) := by
    rw [endsSession] at h
    simp only [control, h, if_true]
  rw [submit_control console (head?_of_endsSession h), hquit]

/-- A command that is carried out shows its value, if that can be shown. -/
theorem lines_submit_of_value {instruction : Instruction} {value : Value}
    (hgame : isGameLine line = true)
    (hread : parseText line none (some console.settings.parseMode) = .ok instruction)
    (hvalue : (console.root.handle instruction).1 = .ok value) :
    (console.submit line).lines =
      value.text.map fun shown => [console.settings.prompt ++ line, shown] := by
  have hrun := runCommand_mode line console.root console.settings.parseMode
  rw [runCommand, hread] at hrun
  have hrender : (runLine line console.root console.settings.parseMode).result.render =
      value.text := by
    rw [← Except.ok.inj hrun, runInstruction_of_value line hvalue]
    rfl
  rw [isGameLine, Bool.and_eq_true, bne_iff_ne, bne_iff_ne] at hgame
  rw [submit, if_neg hgame.1, if_neg hgame.2]
  simp only [hrender]
  cases value.text <;> rfl

/-- Lines that have something to show, and of which only the last may end the session, are
submitted before the others are run. -/
theorem run_append (hrunning : console.running = true)
    (hgoesOn : ∀ line ∈ front.dropLast, endsSession line = false)
    (hshown : AllShown front console) (rest : List String) :
    console.run (front ++ rest) =
      ((submitAll front console).2.run rest).after
        ((submitAll front console).1.flatMap (Reply.events console.settings.prompt))
        ((submitAll front console).1.flatMap Reply.records) := by
  induction front generalizing console with
  | nil => rfl
  | cons line front ih =>
    have htakes := takes_submit console line
    obtain ⟨⟨shown, hlines⟩, hothers⟩ := (allShown_cons line front console).mp hshown
    have hafter : (console.submit line).console.run (front ++ rest) =
        ((submitAll front (console.submit line).console).2.run rest).after
          ((submitAll front (console.submit line).console).1.flatMap
            (Reply.events console.settings.prompt))
          ((submitAll front (console.submit line).console).1.flatMap Reply.records) := by
      cases front with
      | nil => simp only [submitAll, List.flatMap_nil, List.nil_append, Run.after]
      | cons next front =>
        rw [List.dropLast_cons_cons, List.forall_mem_cons] at hgoesOn
        rw [← htakes.settings]
        refine ih ?_ hgoesOn.2 hothers
        rw [htakes.running, hrunning, hgoesOn.1]
        rfl
    rw [List.cons_append, run_cons hrunning hlines, hafter]
    simp [submitAll, Run.after, Reply.events, Reply.shown, hlines]

/-- What a run has come to that has heard and shown all the lines it should. -/
structure Completes (console : Console) (lines : List String) (run : Run) : Prop where
  fault : run.fault = none
  prompts : run.prompts =
    List.replicate ((heardLines lines).length + if lines.any endsSession then 0 else 1)
      console.settings.prompt
  output : run.output =
    (submitAll (heardLines lines) console).1.flatMap Reply.shown ++
      if lines.any endsSession then [] else [""]
  unread : lines = heardLines lines ++ run.unread
  root : run.console.root =
    (Command.runAll (addressed console.settings.parseMode (heardLines lines)) console.root).2
  running : run.console.running = !lines.any endsSession

/-- What a run has come to that has heard and shown the lines `front`, and then could not show what
came of `line`. -/
structure BreaksOff (console : Console) (lines front : List String) (line : String)
    (error : ShowError) (run : Run) : Prop where
  heard : front ++ [line] <+: heardLines lines
  shown : AllShown front console
  reply : ((submitAll front console).2.submit line).lines = .error error
  fault : run.fault = some error
  prompts : run.prompts = List.replicate (front.length + 1) console.settings.prompt
  output : run.output = (submitAll front console).1.flatMap Reply.shown
  unread : lines = front ++ line :: run.unread
  root : run.console.root =
    (Command.runAll (addressed console.settings.parseMode (front ++ [line])) console.root).2
  running : run.console.running = true

theorem BreaksOff.not_completes {error : ShowError} {run : Run}
    (h : BreaksOff console lines front line error run) : ¬Completes console lines run := by
  intro hcompletes
  have hfault := h.fault
  rw [hcompletes.fault] at hfault
  cases hfault

theorem completes_run (hrunning : console.running = true)
    (hshown : AllShown (heardLines lines) console) :
    Completes console lines (console.run lines) := by
  obtain ⟨unread, hlines⟩ := isPrefix_heardLines lines
  have hrun := run_append hrunning (fun _ => goesOn_of_mem_dropLast) hshown unread
  have hroot := root_submitAll (heardLines lines) console
  have hlast := running_submitAll (heardLines lines) console
  rw [hrunning, any_heardLines, Bool.true_and] at hlast
  rw [hlines] at hrun
  rw [hrun]
  cases hends : lines.any endsSession with
  | true =>
    rw [run_of_not_running (by rw [hlast, hends]; rfl)]
    refine ⟨rfl, ?_, ?_, hlines.symm, hroot, hlast⟩
    · rw [Run.prompts_after, length_submitAll, hends]
      simp [Run.prompts]
    · rw [Run.output_after, hends]
      rfl
  | false =>
    have hall := heardLines_of_goesOn hends
    obtain rfl : unread = [] := by simpa [hall] using hlines
    rw [run, if_pos (by rw [hlast, hends]; rfl), settings_submitAll]
    refine ⟨rfl, ?_, ?_, hlines.symm, hroot, hlast⟩
    · rw [Run.prompts_after, length_submitAll, hends, ← List.replicate_append_replicate]
      rfl
    · rw [Run.output_after, hends]
      rfl

theorem breaksOff_run (hrunning : console.running = true) {error : ShowError}
    (hheard : front ++ [line] <+: heardLines lines) (hshown : AllShown front console)
    (hreply : ((submitAll front console).2.submit line).lines = .error error) :
    BreaksOff console lines front line error (console.run lines) := by
  have hgoesOn : ∀ other ∈ front, endsSession other = false := by
    intro other hmem
    obtain ⟨back, hback⟩ := hheard
    have hothers : other ∈ (heardLines lines).dropLast := by
      rw [← hback, List.append_assoc, List.singleton_append,
        List.dropLast_append_of_ne_nil (List.cons_ne_nil line back)]
      exact List.mem_append_left _ hmem
    exact goesOn_of_mem_dropLast hothers
  have hline : endsSession line = false := by
    rw [← Bool.not_eq_true]
    intro hends
    rw [lines_submit_of_endsSession _ hends] at hreply
    cases hreply
  have hgoes : (submitAll front console).2.running = true := by
    rw [running_submitAll, hrunning, List.any_eq_false.mpr (by simpa using hgoesOn)]
    rfl
  obtain ⟨later, hlines⟩ := hheard.trans (isPrefix_heardLines lines)
  rw [List.append_assoc, List.singleton_append] at hlines
  have hrun := run_append hrunning (fun other hmem => hgoesOn other (List.dropLast_subset front hmem))
    hshown (line :: later)
  have htakes := takes_submit (submitAll front console).2 line
  rw [hlines, run, if_pos hgoes] at hrun
  simp only [hreply] at hrun
  rw [hrun]
  refine ⟨hheard, hshown, hreply, rfl, ?_, ?_, hlines.symm, ?_, ?_⟩
  · rw [Run.prompts_after, length_submitAll, settings_submitAll, ← List.replicate_append_replicate]
    rfl
  · rw [Run.output_after]
    exact List.append_nil _
  · have hroot := root_submitAll (front ++ [line]) console
    rw [submitAll_append] at hroot
    exact hroot
  · simp only [Run.after]
    rw [htakes.running, hgoes, hline]
    rfl

/-- A running console prompts first. -/
theorem head?_events_run (hrunning : console.running = true) (lines : List String) :
    (console.run lines).events.head? = some (.prompt console.settings.prompt) := by
  cases lines with
  | nil => rw [run, if_pos hrunning]; rfl
  | cons line rest =>
    simp only [run, if_pos hrunning]
    split <;> rfl

/-- A running console runs the commands of the lines, as long as the integers stay short. -/
theorem plays_run (hrunning : console.running = true)
    (hshort : Command.StaysShort (commands console.settings.parseMode lines) console.root) :
    Plays console lines (console.run lines) := by
  rw [← addressed_heardLines] at hshort
  have hdone := completes_run hrunning (allShown_of_staysShort hshort)
  refine ⟨?_, hdone.fault, ?_, head?_events_run hrunning lines⟩
  · rw [hdone.root, addressed_heardLines]
  · have hunread := (heardLines_append_unheard lines).trans hdone.unread
    exact (List.append_cancel_left hunread).symm

/-! ## New consoles -/

section

variable {root : Root} {settings : Settings}

/-- A console for a game, as it is before the first line. -/
def fresh (root : Root) (settings : Settings) : Console where
  root
  settings
  transcript := { limit := settings.scrollback, lines := [], length_le := Nat.zero_le _ }
  running := true

/-- A console starts unless its scrollback is too large, and then says so. -/
theorem start_eq (root : Root) (settings : Settings) :
    start root settings = if Transcript.maxLimit < settings.scrollback then .error .tooLarge
      else .ok (fresh root settings) := by
  have hsome : ¬ (settings.scrollback : Int) ≤ 0 := by
    have hpos := settings.scrollback_pos
    omega
  rw [start, Transcript.ofLimit, if_neg hsome]
  by_cases hlarge : Transcript.maxLimit < settings.scrollback
  · rw [if_pos hlarge, if_pos hlarge]
  · rw [if_neg hlarge, if_neg hlarge]
    rfl

theorem start_eq_ok_iff :
    start root settings = .ok console ↔
      (settings.scrollback : Int) ≤ Transcript.maxLimit ∧ console = fresh root settings := by
  rw [start_eq]
  by_cases hlarge : Transcript.maxLimit < settings.scrollback
  · simp [hlarge, Int.not_le.mpr hlarge]
  · simp [hlarge, Int.not_lt.mp hlarge, eq_comm]

theorem start_eq_error_iff {error : TranscriptError} :
    start root settings = .error error ↔
      error = .tooLarge ∧ Transcript.maxLimit < settings.scrollback := by
  rw [start_eq]
  by_cases hlarge : Transcript.maxLimit < settings.scrollback
  · simp [hlarge, eq_comm]
  · simp [hlarge]

theorem start_eq_ok (h : start root settings = .ok console) :
    console.root = root ∧ console.settings = settings ∧ console.running = true := by
  obtain ⟨-, rfl⟩ := start_eq_ok_iff.mp h
  exact ⟨rfl, rfl, rfl⟩

end

/-! ## Main result -/

/-- A run of a new console comes to what submitting the lines that are heard comes to, exactly if
all their replies can be shown, as they can while the integers of the game stay short. Otherwise it
breaks off at the first line whose reply cannot be shown. No line makes a console that has stopped
go on. -/
theorem run_folds_submit {root : Root} {settings : Settings}
    (hstart : start root settings = .ok console) (lines : List String) :
    (console.root = root ∧ console.settings = settings) ∧
    (Completes console lines (console.run lines) ↔ AllShown (heardLines lines) console) ∧
    ((∃ front line error, BreaksOff console lines front line error (console.run lines)) ↔
      ¬AllShown (heardLines lines) console) ∧
    (Command.StaysShort (addressed settings.parseMode (heardLines lines)) root →
      AllShown (heardLines lines) console) ∧
    ∀ (stopped : Console) (line : String), stopped.running = false →
      (stopped.submit line).console.running = false := by
  obtain ⟨rfl, rfl, hrunning⟩ := start_eq_ok hstart
  have hbreaks : ¬AllShown (heardLines lines) console →
      ∃ front line error, BreaksOff console lines front line error (console.run lines) := by
    intro hnot
    obtain ⟨front, line, error, hheard, hshown, hreply⟩ :=
      (allShown_or_fails (heardLines lines) console).resolve_left hnot
    exact ⟨front, line, error, breaksOff_run hrunning hheard hshown hreply⟩
  refine ⟨⟨rfl, rfl⟩, ⟨fun hcompletes => ?_, completes_run hrunning⟩, ⟨?_, hbreaks⟩,
    allShown_of_staysShort, fun stopped line hstopped => ?_⟩
  · refine Classical.byContradiction fun hnot => ?_
    obtain ⟨front, line, error, hbreak⟩ := hbreaks hnot
    exact hbreak.not_completes hcompletes
  · rintro ⟨front, line, error, hbreak⟩ hshown
    exact hbreak.not_completes (completes_run hrunning hshown)
  · rw [(takes_submit stopped line).running, hstopped, Bool.false_and]

/-- The settings that are used when none are given. -/
def usualSettings : Settings where
  savePath := Save.defaultPath
  parseMode := .strict
  scrollback := 1000
  prompt := Settings.defaultPrompt
  scrollback_pos := by decide

/-- A new console with the usual settings. -/
def usual (root : Root) : Console where
  root
  settings := usualSettings
  transcript := { limit := 1000, lines := [], length_le := Nat.zero_le _ }
  running := true

theorem start_usual (root : Root) : start root usualSettings = .ok (usual root) := rfl

theorem lines_submit_usual {root : Root} {instruction : Instruction} {value : Value}
    (hgame : isGameLine line = true)
    (hread : parseText line none (some .strict) = .ok instruction)
    (hvalue : (root.handle instruction).1 = .ok value) :
    ((usual root).submit line).lines = value.text.map fun shown => ["~ " ++ line, shown] :=
  lines_submit_of_value hgame hread hvalue

/-- Two coins are earned, a blank line is typed, and the session is ended; the line behind is not
read. -/
theorem run_folds_submit_until_quit :
    let run := (usual {}).run ["add(2)", " ", ":quit", "add(5)"]
    run.fault = none ∧ run.prompts = ["~ ", "~ ", "~ "] ∧ run.output = ["2"] ∧
      run.unread = ["add(5)"] ∧ run.console.root = { coins := 2 } ∧
      run.console.running = false := by
  intro run
  have hread : parseText "add(2)" none (some .strict) = .ok (.call "add" [2]) :=
    parseText_format (by decide +kernel : (Instruction.call "add" [2]).WellFormed) .strict
  have hearn : rootAfter {} (runCommand "add(2)" {} none (some .strict)) = { coins := 2 } := by
    rw [runCommand, hread]
    rfl
  have hheard : heardLines ["add(2)", " ", ":quit", "add(5)"] = ["add(2)", " ", ":quit"] := by
    decide
  have hcommands : addressed .strict ["add(2)", " ", ":quit"] =
      [{ text := "add(2)", mode := some .strict }] := by
    rw [addressed, (by decide : ["add(2)", " ", ":quit"].filter isGameLine = ["add(2)"])]
    rfl
  have hends : ["add(2)", " ", ":quit", "add(5)"].any endsSession = true := by decide
  have hshort : Command.StaysShort [{ text := "add(2)", mode := some .strict }] {} :=
    .cons ⟨by decide, by decide⟩ (Command.stays_nil (hearn ▸ ⟨by decide, by decide⟩))
  obtain ⟨-, hcompletes, -, hshows, -⟩ :=
    run_folds_submit (start_usual {}) ["add(2)", " ", ":quit", "add(5)"]
  rw [hheard] at hcompletes hshows
  have hdone := hcompletes.mpr (hshows (hcommands.symm ▸ hshort))
  have hunread := hdone.unread
  have hroot := hdone.root
  have hprompts := hdone.prompts
  have houtput := hdone.output
  rw [hheard] at hunread hroot hprompts houtput
  refine ⟨hdone.fault, hprompts.trans (by rw [hends]; rfl), ?_,
    by simpa using hunread.symm, hroot.trans ?_, hdone.running.trans (by rw [hends]; rfl)⟩
  · have hfirst : ((usual {}).submit "add(2)").lines = .ok ["~ add(2)", "2"] := by
      have hvalue : (({} : Root).handle (.call "add" [2])).1 = .ok (.integer 2) := rfl
      have hshown : (Value.integer 2).text = .ok "2" := showInteger_of_isShort (by decide)
      rw [lines_submit_usual (by decide +kernel) hread hvalue, hshown]
      rfl
    rw [houtput, hends]
    simp only [submitAll, List.flatMap_cons, List.flatMap_nil, Reply.shown, hfirst,
      submit_blank _ (by decide : Text.strip " " = ""),
      lines_submit_of_endsSession _ (by decide : endsSession ":quit" = true)]
    rfl
  · rw [show (usual {}).settings.parseMode = .strict from rfl, hcommands]
    exact hearn

/-- One coin breaks off the run of a game that has as many coins as can be shown. -/
theorem breaksOff_on_long_value {root : Root} (rest : List String)
    (hlong : Nat.pow 10 maxShownDigits ≤ (root.coins + 1).natAbs) :
    BreaksOff (usual root) ("add(1)" :: rest) [] "add(1)" .tooManyDigits
      ((usual root).run ("add(1)" :: rest)) := by
  have hread : parseText "add(1)" none (some .strict) = .ok (.call "add" [1]) :=
    parseText_format (by decide +kernel : (Instruction.call "add" [1]).WellFormed) .strict
  have hvalue : (root.handle (.call "add" [1])).1 = .ok (.integer (root.coins + 1)) := rfl
  have htext : (Value.integer (root.coins + 1)).text = .error .tooManyDigits := by
    rw [Value.text, showInteger, if_neg (Nat.not_lt.mpr hlong)]
  have hreply : ((usual root).submit "add(1)").lines = .error .tooManyDigits := by
    rw [lines_submit_usual (by decide +kernel) hread hvalue, htext]
    rfl
  have hheard : [] ++ ["add(1)"] <+: heardLines ("add(1)" :: rest) := by
    rw [heardLines, if_neg (by decide)]
    exact ⟨heardLines rest, rfl⟩
  exact breaksOff_run rfl hheard (allShown_nil _) hreply

/-- A game whose coins have as many digits as can be shown, all of them nines. -/
def fullPurse : Root := { coins := ((Nat.pow 10 maxShownDigits - 1 : Nat) : Int) }

theorem one_le_pow_maxShownDigits : 1 ≤ Nat.pow 10 maxShownDigits := by
  rw [Nat.pow_eq]
  exact Nat.pow_pos (by decide)

theorem coins_fullPurse_add_one : fullPurse.coins + 1 = (Nat.pow 10 maxShownDigits : Nat) := by
  have hpos := one_le_pow_maxShownDigits
  rw [fullPurse]
  dsimp only
  omega

/-- A full purse can be shown, but not with one coin more. -/
theorem isShort_fullPurse : fullPurse.IsShort ∧ ¬ IsShort (fullPurse.coins + 1) := by
  have hpos := one_le_pow_maxShownDigits
  have hcoins := coins_fullPurse_add_one
  refine ⟨⟨isShort_iff_lt.mpr (by omega), isShort_zero⟩, ?_⟩
  rw [isShort_iff_lt]
  omega

/-- A coin is added to a full purse, and the purse is emptied then. No line ends the session, but
the coin is not answered, and the other line not read. -/
theorem run_breaks_off_on_long_value :
    let run := (usual fullPurse).run ["add(1)", "reset()"]
    start fullPurse usualSettings = .ok (usual fullPurse) ∧
      heardLines ["add(1)", "reset()"] = ["add(1)", "reset()"] ∧
      run.fault = some .tooManyDigits ∧ run.output = [] ∧ run.unread = ["reset()"] ∧
      ¬Completes (usual fullPurse) ["add(1)", "reset()"] run := by
  have hlong : Nat.pow 10 maxShownDigits ≤ (fullPurse.coins + 1).natAbs :=
    Nat.not_lt.mp (mt isShort_iff_lt.mpr isShort_fullPurse.2)
  have hbreak := breaksOff_on_long_value ["reset()"] hlong
  exact ⟨start_usual fullPurse, by decide, hbreak.fault, hbreak.output,
    by simpa using hbreak.unread.symm, hbreak.not_completes⟩

end Console

end CoinConsole
