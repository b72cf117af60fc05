import CoinConsole.Console.Repl
import CoinConsole.Proofs.Game.Commands
import CoinConsole.Proofs.Game.Pipeline

/-!
# Conversations

What a conversation at the console does to the game: the lines addressed to the game are run in
order, up to the line that ends the session; blank lines and lines to the console itself leave the
game alone (`Console.commands`). One line is taken at a time (`Console.takes_submit`); a run takes
the others from the console the first one leaves (`Console.run_cons`).

A conversation breaks off when a value cannot be shown. A value that is an integer is one of the
integers of the game as the line leaves it, so this does not happen while those are short.
-/

namespace CoinConsole

/-! ## Values that can be shown -/

/-- A clock answers with its own seconds, with a truth value, or not at all. -/
theorem Clock.exists_text_of_value {clock : Clock} {instruction : Instruction} {value : Value}
    (h : (clock.handle instruction).1 = .ok value)
    (hshort : IsShort (clock.handle instruction).2.seconds) :
    ∃ shown, value.text = .ok shown := by
  unfold handle at h hshort
  split at h
  · obtain rfl := Except.ok.inj h
    exact ⟨_, showInteger_of_isShort hshort⟩
  · cases h
  · next arguments =>
    cases harg : firstArgument arguments with
    | error e => simp [harg] at h
    | ok amount =>
      simp only [harg] at h hshort
      obtain rfl := Except.ok.inj h
      by_cases hback : amount < 0
      · rw [advance, if_pos hback]
        exact ⟨_, rfl⟩
      · rw [advance, if_neg hback] at hshort ⊢
        exact ⟨_, showInteger_of_isShort hshort⟩
  · cases h

/-- A game answers with its own coins, with what its clock answers, with a truth value, with
nothing, or not at all. -/
theorem Root.exists_text_of_value {root : Root} {instruction : Instruction} {value : Value}
    (h : (root.handle instruction).1 = .ok value)
    (hshort : (root.handle instruction).2.IsShort) : ∃ shown, value.text = .ok shown := by
  unfold handle at h hshort
  split at h
  · obtain rfl := Except.ok.inj h
    exact ⟨_, showInteger_of_isShort hshort.coins⟩
  · cases h
  · obtain rfl := Except.ok.inj h
    exact ⟨_, rfl⟩
  · exact Clock.exists_text_of_value h hshort.seconds
  · next arguments =>
    cases harg : firstArgument arguments with
    | error e => simp [harg] at h
    | ok amount =>
      simp only [harg] at h hshort
      obtain rfl := Except.ok.inj h
      exact ⟨_, showInteger_of_isShort hshort.coins⟩
  · next arguments =>
    cases harg : firstArgument arguments with
    | error e => simp [harg] at h
    | ok amount =>
      rw [harg] at h
      obtain rfl := Except.ok.inj h
      rw [spend]
      split <;> exact ⟨_, rfl⟩
  · obtain rfl := Except.ok.inj h
    exact ⟨_, rfl⟩
  · cases h

/-- The line that a command shows exists as long as it leaves the game with short integers. -/
theorem exists_render_runLine {text : String} {root : Root} {mode : ParseMode}
    (hshort : (runLine text root mode).root.IsShort) :
    ∃ shown, (runLine text root mode).result.render = .ok shown := by
  unfold runLine at hshort ⊢
  split
  · exact ⟨_, rfl⟩
  · next tokens htokens =>
    rw [htokens] at hshort
    dsimp only at hshort
    split
    · exact ⟨_, rfl⟩
    · next instruction hread =>
      rw [hread] at hshort
      dsimp only at hshort
      cases hhandle : (root.handle instruction).1 with
      | error e =>
        rw [runInstruction_of_error text hhandle]
        exact ⟨_, rfl⟩
      | ok value =>
        have hrender : ∀ last, (Outcome.done text instruction value last).result.render =
            value.text := fun _ => rfl
        rw [runInstruction_of_value text hhandle] at hshort ⊢
        rw [hrender]
        exact Root.exists_text_of_value hhandle hshort

namespace Console

/-! ## Lines to the game -/

/-- Whether a line is addressed to the game: it is not blank, and does not start with a colon. -/
def isGameLine (line : String) : Bool :=
  Text.strip line != "" && (Text.strip line).toList.head? != some ':'

/-- Whether a line tells the console to end the session. -/
def endsSession (line : String) : Bool := isQuit (splitCommand (Text.strip line)).1

/-- The lines to the game that come before the line that ends the session. -/
def gameLines (lines : List String) : List String :=
  (lines.takeWhile fun line => !endsSession line).filter isGameLine

/-- The commands of a conversation. -/
def commands (mode : ParseMode) (lines : List String) : List Command :=
  (gameLines lines).map fun line => { text := line, mode := some mode }

variable {console : Console} {line : String} {lines rest : List String} {mode : ParseMode}

/-- The line that ends a session starts with a colon. -/
theorem head?_of_endsSession (h : endsSession line = true) :
    (Text.strip line).toList.head? = some ':' := by
  rw [endsSession, isQuit, Bool.or_eq_true, beq_iff_eq, beq_iff_eq] at h
  obtain ⟨cs, hname⟩ : ∃ cs, (splitCommand (Text.strip line)).1 = String.ofList (':' :: cs) := by
    rcases h with h | h
    · exact ⟨"quit".toList, h⟩
    · exact ⟨"exit".toList, h⟩
  have hprefix := List.takeWhile_prefix (· != ' ') (l := (Text.strip line).toList)
  rw [splitCommand, String.ofList_inj] at hname
  rw [hname] at hprefix
  obtain ⟨tail, htail⟩ := hprefix
  rw [← htail]
  rfl

theorem isGameLine_of_endsSession (h : endsSession line = true) : isGameLine line = false := by
  rw [isGameLine, head?_of_endsSession h]
  simp

theorem endsSession_of_isGameLine (h : isGameLine line = true) : endsSession line = false := by
  rw [← Bool.not_eq_true]
  intro hends
  rw [isGameLine_of_endsSession hends] at h
  cases h

theorem commands_nil (mode : ParseMode) : commands mode [] = [] := rfl

theorem commands_of_endsSession (h : endsSession line = true) (rest : List String) :
    commands mode (line :: rest) = [] := by
  simp [commands, gameLines, h]

theorem commands_of_gameLine (h : isGameLine line = true) (rest : List String) :
    commands mode (line :: rest) =
      { text := line, mode := some mode } :: commands mode rest := by
  simp [commands, gameLines, h, endsSession_of_isGameLine h]

theorem commands_of_not_gameLine (h : isGameLine line = false) (hends : endsSession line = false)
    (rest : List String) : commands mode (line :: rest) = commands mode rest := by
  simp [commands, gameLines, h, hends]

theorem commands_cons (hends : endsSession line = false) (rest : List String) :
    commands mode (line :: rest) = commands mode [line] ++ commands mode rest := by
  cases hgame : isGameLine line with
  | true => rw [commands_of_gameLine hgame, commands_of_gameLine hgame]; rfl
  | false =>
    rw [commands_of_not_gameLine hgame hends, commands_of_not_gameLine hgame hends]
    rfl

/-! ## One line -/

theorem submit_blank (console : Console) (h : Text.strip line = "") :
    console.submit line =
      { lines := .ok [console.settings.prompt ++ line]
        console := console.shown [console.settings.prompt ++ line], records := [] } := by
  rw [submit, if_pos h]

theorem submit_control (console : Console) (h : (Text.strip line).toList.head? = some ':') :
    let answer := control console.transcript (Text.strip line)
    let lines := (console.settings.prompt ++ line) :: answer.1
    console.submit line =
      { lines := .ok lines
        console := { console.shown lines with running := console.running && answer.2 }
        records := [] } := by
  have hne : Text.strip line ≠ "" := by
    intro hblank
    simp [hblank] at h
  rw [submit, if_neg hne, if_pos h]

/-- A control line ends the session exactly if it says so. -/
theorem control_running (transcript : Transcript) (line : String) :
    (control transcript (Text.strip line)).2 = !endsSession line := by
  unfold control endsSession
  dsimp only
  split
  · next hquit => simp [hquit]
  · next hquit =>
    rw [Bool.not_eq_true] at hquit
    rw [hquit]
    split
    · rfl
    · split <;> rfl

theorem submit_game (console : Console) (h : isGameLine line = true) :
    let outcome := runLine line console.root console.settings.parseMode
    (console.submit line).console.root = outcome.root ∧
      (console.submit line).console.settings = console.settings ∧
      (console.submit line).console.running = console.running ∧
      (outcome.root.IsShort → ∃ lines, (console.submit line).lines = .ok lines) := by
  rw [isGameLine, Bool.and_eq_true, bne_iff_ne, bne_iff_ne] at h
  intro outcome
  rw [submit, if_neg h.1, if_neg h.2]
  dsimp only
  split
  · next e hrender =>
    refine ⟨rfl, rfl, rfl, fun hshort => ?_⟩
    obtain ⟨shown, hshown⟩ := exists_render_runLine hshort
    rw [hrender] at hshown
    cases hshown
  · exact ⟨rfl, rfl, rfl, fun _ => ⟨_, rfl⟩⟩

/-- What the console has done with a line: it has run it if it is a command, keeps its settings,
stops if the line ends the session, and has lines to show while the integers are short. -/
structure Takes (console : Console) (line : String) (reply : Reply) : Prop where
  root : reply.console.root =
    (Command.runAll (commands console.settings.parseMode [line]) console.root).2
  settings : reply.console.settings = console.settings
  running : reply.console.running = (console.running && !endsSession line)
  shows : reply.console.root.IsShort → ∃ lines, reply.lines = .ok lines

/-- Every line is taken in this way. -/
theorem takes_submit (console : Console) (line : String) :
    Takes console line (console.submit line) := by
  cases hgame : isGameLine line with
  | true =>
    have hends := endsSession_of_isGameLine hgame
    obtain ⟨hroot, hsettings, hrunning, hshows⟩ := submit_game console hgame
    refine ⟨?_, hsettings, by simpa [hends] using hrunning, hroot ▸ hshows⟩
    rw [hroot, commands_of_gameLine hgame, commands_nil, Command.runAll, Command.runAll,
      runCommand_mode]
    rfl
  | false =>
    have hcommands : commands console.settings.parseMode [line] = [] := by
      cases hends : endsSession line with
      | true => exact commands_of_endsSession hends []
      | false => exact commands_of_not_gameLine hgame hends []
    rw [isGameLine, Bool.and_eq_false_iff, bne_eq_false_iff_eq, bne_eq_false_iff_eq] at hgame
    rcases hgame with hblank | hcolon
    · have hends : endsSession line = false := by
        rw [endsSession, hblank]
        decide
      rw [submit_blank console hblank]
      exact ⟨by rw [hcommands]; rfl, rfl, by simp [hends, shown], fun _ => ⟨_, rfl⟩⟩
    · rw [submit_control console hcolon]
      exact ⟨by rw [hcommands]; rfl, rfl, by simp [control_running], fun _ => ⟨_, rfl⟩⟩

/-! ## Whole conversations -/

/-- What a run of the console on lines has done: it has run their commands on the game without
breaking off, has left unread what follows the line that ends the session, and has started with a
prompt. -/
structure Plays (console : Console) (lines : List String) (run : Run) : Prop where
  root : run.console.root =
    (Command.runAll (commands console.settings.parseMode lines) console.root).2
  fault : run.fault = none
  unread : run.unread = (lines.dropWhile fun line => !endsSession line).drop 1
  prompt : run.events.head? = some (.prompt console.settings.prompt)

theorem run_of_not_running (h : console.running = false) (lines : List String) :
    console.run lines = { events := [], records := [], console, unread := lines } := by
  cases lines <;> simp [run, h]

theorem run_cons (hrunning : console.running = true) {shown : List String}
    (h : (console.submit line).lines = .ok shown) (rest : List String) :
    console.run (line :: rest) =
      ((console.submit line).console.run rest).after
        (.prompt console.settings.prompt :: (shown.drop 1).map .line)
        (console.submit line).records := by
  simp only [run, hrunning, if_true, h]

/-- What is on the screen starts with the prompt. -/
theorem Plays.exists_screen {run : Run} (h : Plays console lines run) :
    ∃ behind, run.screen = console.settings.prompt ++ behind := by
  obtain ⟨later, hevents⟩ := List.head?_eq_some_iff.mp h.prompt
  rw [Run.screen, hevents, List.map_cons, String.join_cons]
  exact ⟨_, rfl⟩

end Console

end CoinConsole
