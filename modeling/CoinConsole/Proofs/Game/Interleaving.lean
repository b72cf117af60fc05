import CoinConsole.Proofs.Game.Commands
import CoinConsole.Proofs.Instruction.RoundTrip

/-!
# Interleaved commands

A command to the clock sees nothing of the game but the clock and changes nothing else, and no other
command sees or changes the clock. So a part of the game and the commands to it can be looked at on
their own: what they are answered, and what becomes of the part, is the same when all other commands
are left out (`Command.Confined.log_filter`). How the commands to the clock and all others are
interleaved therefore makes no difference to any of them, nor to the game at the end.
-/

namespace CoinConsole

/-! ## Instructions to the clock -/

/-- Whether the instruction looks up the clock. -/
def Instruction.isClock : Instruction → Bool
  | property name => name == "clock"
  | call _ _ => false
  | member name _ => name == "clock"

namespace Root

variable {root other : Root} {instruction : Instruction}

/-- A game is its coins and its clock. -/
theorem eq_of_parts (hcoins : root.coins = other.coins) (hclock : root.clock = other.clock) :
    root = other := by
  obtain ⟨coins, clock⟩ := root
  obtain rfl : coins = other.coins := hcoins
  obtain rfl : clock = other.clock := hclock
  rfl

/-- An instruction to the clock goes by the clock alone, and leaves the coins. -/
theorem handle_of_isClock (h : instruction.isClock = true) (hclock : root.clock = other.clock) :
    (root.handle instruction).1 = (other.handle instruction).1 ∧
      (root.handle instruction).2.clock = (other.handle instruction).2.clock ∧
      (root.handle instruction).2.coins = root.coins := by
  cases instruction with
  | property name =>
    obtain rfl : name = "clock" := eq_of_beq h
    exact ⟨rfl, hclock, rfl⟩
  | call name arguments => cases h
  | member name rest =>
    obtain rfl : name = "clock" := eq_of_beq h
    simp only [handle, hclock, and_self]

/-- Any other instruction goes by the coins alone, and leaves the clock. -/
theorem handle_of_not_isClock (h : instruction.isClock = false)
    (hcoins : root.coins = other.coins) :
    (root.handle instruction).1 = (other.handle instruction).1 ∧
      (root.handle instruction).2.coins = (other.handle instruction).2.coins ∧
      (root.handle instruction).2.clock = root.clock := by
  unfold handle
  split
  · exact ⟨by rw [hcoins], hcoins, rfl⟩
  · exact ⟨by rw [hcoins], hcoins, rfl⟩
  · cases h
  · cases h
  · next arguments =>
    cases firstArgument arguments with
    | error e => exact ⟨rfl, hcoins, rfl⟩
    | ok amount => simp [add, hcoins]
  · next arguments =>
    cases firstArgument arguments with
    | error e => exact ⟨rfl, hcoins, rfl⟩
    | ok amount =>
      by_cases henough : 0 ≤ amount ∧ amount ≤ other.coins <;> simp [spend, hcoins, henough]
  · exact ⟨rfl, rfl, rfl⟩
  · exact ⟨rfl, hcoins, rfl⟩

end Root

namespace Command

/-! ## Single commands -/

/-- Whether the command is read as an instruction to the clock. -/
def isClock (command : Command) : Bool :=
  match parseText command.text command.options command.mode with
  | .error _ => false
  | .ok instruction => instruction.isClock

/-- Runs a command; gives the answer, and the game after it. -/
def run (command : Command) (root : Root) : Answer × Root :=
  let outcome := runCommand command.text root command.options command.mode
  (outcome.map (·.result), rootAfter root outcome)

theorem runAll_cons (command : Command) (others : List Command) (root : Root) :
    runAll (command :: others) root =
      ((command.run root).1 :: (runAll others (command.run root).2).1,
        (runAll others (command.run root).2).2) := rfl

/-- A command that is not read has one answer for all games, and leaves them as they are. -/
theorem run_of_unread {command : Command} {failure : LineFailure}
    (h : parseText command.text command.options command.mode = .error failure) :
    ∃ answer, ∀ root, command.run root = (answer, root) := by
  refine ⟨(command.run {}).1, fun root => ?_⟩
  simp only [run, runCommand, h]
  cases failure <;> rfl

/-- A command that is read reports what the game answers to its instruction. -/
theorem run_of_read {command : Command} {instruction : Instruction}
    (h : parseText command.text command.options command.mode = .ok instruction) :
    ∃ report : Except HandleError Value → CommandResult, ∀ root,
      command.run root =
        (.ok (report (root.handle instruction).1), (root.handle instruction).2) := by
  refine ⟨fun answer =>
    match answer with
    | .error e => (Outcome.refused command.text (some instruction) (.handle e) {}).result
    | .ok value => (Outcome.done command.text instruction value {}).result, fun root => ?_⟩
  simp only [run, runCommand, h, runInstruction]
  cases root.handle instruction with
  | mk answer next => cases answer <;> rfl

/-! ## Parts of the game -/

/-- The commands picked out by `own` see nothing of a game but the part, and no other command
changes that part. -/
structure Confined {α : Type} (own : Command → Bool) (part : Root → α) : Prop where
  owned : ∀ {command : Command} {root other : Root}, own command = true →
    part root = part other →
    (command.run root).1 = (command.run other).1 ∧
      part (command.run root).2 = part (command.run other).2
  foreign : ∀ {command : Command} (root : Root), own command = false →
    part (command.run root).2 = part root

theorem confined_clock : Confined isClock Root.clock := by
  constructor
  · intro command root other hown hclock
    rw [isClock] at hown
    split at hown
    · cases hown
    · next instruction hread =>
      obtain ⟨report, hrun⟩ := run_of_read hread
      obtain ⟨hanswer, hnext, -⟩ := Root.handle_of_isClock hown hclock
      rw [hrun, hrun, hanswer]
      exact ⟨rfl, hnext⟩
  · intro command root hforeign
    rw [isClock] at hforeign
    split at hforeign
    · next failure hread =>
      obtain ⟨answer, hrun⟩ := run_of_unread hread
      rw [hrun]
    · next instruction hread =>
      obtain ⟨report, hrun⟩ := run_of_read hread
      rw [hrun]
      exact (Root.handle_of_not_isClock hforeign (Eq.refl root.coins)).2.2

theorem confined_coins : Confined (fun command => !command.isClock) Root.coins := by
  constructor
  · intro command root other hown hcoins
    rw [isClock, Bool.not_eq_true'] at hown
    split at hown
    · next failure hread =>
      obtain ⟨answer, hrun⟩ := run_of_unread hread
      rw [hrun, hrun]
      exact ⟨rfl, hcoins⟩
    · next instruction hread =>
      obtain ⟨report, hrun⟩ := run_of_read hread
      obtain ⟨hanswer, hnext, -⟩ := Root.handle_of_not_isClock hown hcoins
      rw [hrun, hrun, hanswer]
      exact ⟨rfl, hnext⟩
  · intro command root hforeign
    rw [isClock, Bool.not_eq_false'] at hforeign
    split at hforeign
    · cases hforeign
    · next instruction hread =>
      obtain ⟨report, hrun⟩ := run_of_read hread
      rw [hrun]
      exact (Root.handle_of_isClock hforeign (Eq.refl root.clock)).2.2

/-! ## Runs -/

/-- The commands with the answers to them. -/
def log (commands : List Command) (root : Root) : List (Command × Answer) :=
  commands.zip (runAll commands root).1

theorem log_cons (command : Command) (others : List Command) (root : Root) :
    log (command :: others) root =
      (command, (command.run root).1) :: log others (command.run root).2 := rfl

/-- Commands confined to a part of the game get the answers, and leave the part, that they do when
no other commands are run between them. -/
theorem Confined.log_filter {α : Type} {own : Command → Bool} {part : Root → α}
    (h : Confined own part) (commands : List Command) {root other : Root}
    (hpart : part root = part other) :
    (log commands root).filter (fun entry => own entry.1) = log (commands.filter own) other ∧
      part (runAll commands root).2 = part (runAll (commands.filter own) other).2 := by
  -- the two games differ outside the part, but never in it
  induction commands generalizing root other with
  | nil => exact ⟨rfl, hpart⟩
  | cons command others ih =>
    rw [log_cons, runAll_cons, List.filter_cons, List.filter_cons]
    cases hown : own command with
    | true =>
      obtain ⟨hanswer, hnext⟩ := h.owned hown hpart
      obtain ⟨hlog, hlast⟩ := ih hnext
      simp only [if_true]
      rw [log_cons, runAll_cons, hlog, hanswer]
      exact ⟨rfl, hlast⟩
    | false =>
      simp only [Bool.false_eq_true, if_false]
      exact ih ((h.foreign root hown).trans hpart)

/-- Commands confined to a part cannot tell two runs apart in which they come in the same order. -/
theorem Confined.congr {α : Type} {own : Command → Bool} {part : Root → α}
    (h : Confined own part) {first second : List Command}
    (hsame : first.filter own = second.filter own) (root : Root) :
    (log first root).filter (fun entry => own entry.1) =
        (log second root).filter (fun entry => own entry.1) ∧
      part (runAll first root).2 = part (runAll second root).2 := by
  obtain ⟨hfirst, hfirstPart⟩ := h.log_filter first (Eq.refl (part root))
  obtain ⟨hsecond, hsecondPart⟩ := h.log_filter second (Eq.refl (part root))
  rw [hfirst, hfirstPart, hsecond, hsecondPart, hsame]
  exact ⟨rfl, rfl⟩

/-- Commands to the clock and all other commands do not interfere. However the same commands of
either kind are interleaved, each command is answered alike, and the game ends up the same. -/
theorem runAll_eq_of_interleaved {first second : List Command}
    (hclock : first.filter isClock = second.filter isClock)
    (hothers : first.filter (fun command => !command.isClock) =
      second.filter (fun command => !command.isClock)) (root : Root) :
    (runAll first root).2 = (runAll second root).2 ∧
    (log first root).filter (fun entry => entry.1.isClock) =
      (log second root).filter (fun entry => entry.1.isClock) ∧
    (log first root).filter (fun entry => !entry.1.isClock) =
      (log second root).filter (fun entry => !entry.1.isClock) := by
  obtain ⟨hclockLog, hclockPart⟩ := confined_clock.congr hclock root
  obtain ⟨hothersLog, hcoinsPart⟩ := confined_coins.congr hothers root
  exact ⟨Root.eq_of_parts hcoinsPart hclockPart, hclockLog, hothersLog⟩

/-- A player earns two coins, moves the clock on by three seconds and types a blank line, in two
orders. -/
theorem runAll_eq_of_interleaved_earn_advance :
    let advance : Command := { text := "clock.advance(3)", mode := some .strict }
    let blank : Command := { text := "", mode := some .strict }
    (advance.isClock = true ∧ earnTwo.isClock = false ∧ blank.isClock = false) ∧
    (runAll [earnTwo, advance, blank] {}).2 = (runAll [advance, earnTwo, blank] {}).2 ∧
    (log [earnTwo, advance, blank] {}).filter (fun entry => entry.1.isClock) =
      (log [advance, earnTwo, blank] {}).filter (fun entry => entry.1.isClock) ∧
    (log [earnTwo, advance, blank] {}).filter (fun entry => !entry.1.isClock) =
      (log [advance, earnTwo, blank] {}).filter (fun entry => !entry.1.isClock) := by
  intro advance blank
  have hadvance : advance.isClock = true := by
    have hformed : (Instruction.member "clock" (.call "advance" [3])).WellFormed := by
      decide +kernel
    have hread : parseText "clock.advance(3)" none (some .strict) =
        .ok (.member "clock" (.call "advance" [3])) := parseText_format hformed .strict
    simp only [isClock, advance, hread, Instruction.isClock, beq_self_eq_true]
  have hearn : earnTwo.isClock = false := by
    have hformed : (Instruction.call "add" [2]).WellFormed := by decide +kernel
    have hread : parseText "add(2)" none (some .strict) = .ok (.call "add" [2]) :=
      parseText_format hformed .strict
    simp only [isClock, earnTwo, hread, Instruction.isClock]
  have hblank : blank.isClock = false := by
    have htokens : tokenize "" = .ok [] := congrArg Prod.fst (scan_nil 0)
    have hread : parse [] none (some .strict) = .error (.parse (.missingToken (.empty 0))) := rfl
    simp only [isClock, blank, parseText, htokens, hread]
  refine ⟨⟨hadvance, hearn, hblank⟩, runAll_eq_of_interleaved ?_ ?_ {}⟩
  · simp [hadvance, hearn, hblank]
  · simp [hadvance, hearn, hblank]

end Command

end CoinConsole
