import CoinConsole.Game.Command
import CoinConsole.Proofs.Game.ShortIntegers

/-!
# Lists of commands

Commands that are run one after the other, each on the game that the one before has left
(`Command.runAll`), and properties that a game has all the while (`Command.Stays`).
-/

namespace CoinConsole

/-- A line as a caller has it run. -/
structure Command where
  text : String
  options : Option ParserOptions := none
  mode : Option ParseMode := none

namespace Command

/-- What a caller gets for a line: a result, unless options and mode are in conflict. -/
abbrev Answer := Except OptionsConflict CommandResult

/-- Runs lines one after the other; gives the answers, and the game after the last of them. -/
def runAll : List Command → Root → List Answer × Root
  | [], root => ([], root)
  | command :: others, root =>
    let outcome := runCommand command.text root command.options command.mode
    let (answers, last) := runAll others (rootAfter root outcome)
    (outcome.map (·.result) :: answers, last)

theorem runAll_append (first second : List Command) (root : Root) :
    runAll (first ++ second) root =
      ((runAll first root).1 ++ (runAll second (runAll first root).2).1,
        (runAll second (runAll first root).2).2) := by
  induction first generalizing root with
  | nil => rfl
  | cons command others ih =>
    simp only [List.cons_append, runAll, ih]

/-- The game has the property all the time while the commands are run. -/
def Stays (P : Root → Prop) (commands : List Command) (root : Root) : Prop :=
  ∀ played, played <+: commands → P (runAll played root).2

/-- The integers of the game stay short while the commands are run. -/
abbrev StaysShort : List Command → Root → Prop := Stays Root.IsShort

variable {P : Root → Prop} {first second commands : List Command} {root : Root}

theorem stays_nil (h : P root) : Stays P [] root := by
  intro played hplayed
  rwa [List.prefix_nil.mp hplayed]

theorem Stays.cons {command : Command} (h : P root)
    (hothers : Stays P commands
      (rootAfter root (runCommand command.text root command.options command.mode))) :
    Stays P (command :: commands) root := by
  intro played hplayed
  rcases List.prefix_cons_iff.mp hplayed with rfl | ⟨rest, rfl, hrest⟩
  · exact h
  · exact hothers rest hrest

theorem Stays.last (h : Stays P commands root) : P (runAll commands root).2 :=
  h commands List.prefix_rfl

theorem Stays.left (h : Stays P (first ++ second) root) : Stays P first root :=
  fun played hplayed => h played (hplayed.trans (List.prefix_append first second))

theorem Stays.right (h : Stays P (first ++ second) root) :
    Stays P second (runAll first root).2 := by
  intro played hplayed
  have hall := h (first ++ played) ((List.prefix_append_right_inj first).mpr hplayed)
  rwa [runAll_append] at hall

/-- A line that earns the player two coins. -/
def earnTwo : Command := { text := "add(2)", mode := some .strict }

end Command

end CoinConsole
