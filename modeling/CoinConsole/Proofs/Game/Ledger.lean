import Mathlib
import CoinConsole.Game.State

/-!
# The ledger of a game

Every change of the coins and of the clock can be read off the turns of a game, that is the
instructions and the answers to them. The coins are what came in since they were last set back,
less what was paid (`balance`), and the clock has moved by the seconds it was told to (`elapsed`).

What a single instruction does to a game is listed once (`Books`, `Root.books_handle`); each
statement about a whole game follows from this list by induction on the instructions, the last one
first.
-/

namespace CoinConsole

/-! ## Turns -/

/-- An instruction and what the game has answered to it. -/
structure Turn where
  instruction : Instruction
  answer : Except HandleError Value

/-- Carries out instructions one after the other; gives the turns, and the game after the last of
them. -/
def Root.handleAll : List Instruction → Root → List Turn × Root
  | [], root => ([], root)
  | instruction :: others, root =>
    let (answer, next) := root.handle instruction
    let (turns, last) := handleAll others next
    (⟨instruction, answer⟩ :: turns, last)

namespace Turn

/-- Whether the turn has set the coins back. -/
def isReset (turn : Turn) : Bool :=
  match turn.instruction, turn.answer with
  | .call "reset" _, .ok _ => true
  | _, _ => false

/-- The coins that came in. -/
def added? (turn : Turn) : Option Int :=
  match turn.instruction with
  | .call "add" (amount :: _) => some amount
  | _ => none

/-- The coins that were paid. -/
def paid? (turn : Turn) : Option Int :=
  match turn.instruction, turn.answer with
  | .call "spend" (amount :: _), .ok (.boolean true) => some amount
  | _, _ => none

/-- The seconds by which the clock was moved. -/
def passed? (turn : Turn) : Option Int :=
  match turn.instruction with
  | .member "clock" (.call "advance" (amount :: _)) => if 0 ≤ amount then some amount else none
  | _ => none

end Turn

/-! ## What the turns add up to -/

/-- The turns behind the last one that has set the coins back. -/
def sinceReset (turns : List Turn) : List Turn := turns.rtakeWhile fun turn => !turn.isReset

/-- The coins to count from: none if they were ever set back, otherwise those at the start. -/
def opening (start : Int) (turns : List Turn) : Int :=
  if turns.any Turn.isReset then 0 else start

/-- The coins there should be: since they were last set back, what came in less what was paid. -/
def balance (start : Int) (turns : List Turn) : Int :=
  opening start turns + ((sinceReset turns).filterMap Turn.added?).sum -
    ((sinceReset turns).filterMap Turn.paid?).sum

/-- The seconds that should have passed. -/
def elapsed (turns : List Turn) : Int := (turns.filterMap Turn.passed?).sum

theorem balance_nil (start : Int) : balance start [] = start := by
  simp [balance, opening, sinceReset]

theorem balance_concat (start : Int) (turns : List Turn) (turn : Turn) :
    balance start (turns ++ [turn]) =
      if turn.isReset then 0
      else balance start turns + turn.added?.getD 0 - turn.paid?.getD 0 := by
  cases hreset : turn.isReset with
  | true => simp [balance, opening, sinceReset, hreset]
  | false =>
    have hsince : sinceReset (turns ++ [turn]) = sinceReset turns ++ [turn] := by
      simp [sinceReset, hreset]
    have hopening : opening start (turns ++ [turn]) = opening start turns := by
      simp [opening, hreset]
    have hadded : ([turn].filterMap Turn.added?).sum = turn.added?.getD 0 := by
      cases hadded : turn.added? <;> simp [hadded]
    have hpaid : ([turn].filterMap Turn.paid?).sum = turn.paid?.getD 0 := by
      cases hpaid : turn.paid? <;> simp [hpaid]
    rw [balance, hsince, hopening, List.filterMap_append, List.filterMap_append, List.sum_append,
      List.sum_append, hadded, hpaid, balance]
    simp only [Bool.false_eq_true, if_false]
    omega

theorem elapsed_concat (turns : List Turn) (turn : Turn) :
    elapsed (turns ++ [turn]) = elapsed turns + turn.passed?.getD 0 := by
  cases hpassed : turn.passed? <;> simp [elapsed, hpassed]

/-! ## One turn -/

/-- The instruction changes nothing in any game: it neither adds nor pays nor sets back any coins,
nor moves the clock forward. -/
structure Instruction.IsIdle (instruction : Instruction) : Prop where
  noAdd : ∀ amount more, instruction ≠ .call "add" (amount :: more)
  noSpend : ∀ amount more, instruction ≠ .call "spend" (amount :: more)
  noReset : ∀ arguments, instruction ≠ .call "reset" arguments
  noAdvance : ∀ amount more, instruction = .member "clock" (.call "advance" (amount :: more)) →
    amount < 0

/-- What a turn does to a game. -/
inductive Books (root : Root) : Turn → Root → Prop
  | adds (amount : Int) (more : List Int) :
      Books root ⟨.call "add" (amount :: more), .ok (.integer (root.coins + amount))⟩
        { root with coins := root.coins + amount }
  | pays (amount : Int) (more : List Int) (enough : 0 ≤ amount ∧ amount ≤ root.coins) :
      Books root ⟨.call "spend" (amount :: more), .ok (.boolean true)⟩
        { root with coins := root.coins - amount }
  | declines (amount : Int) (more : List Int) (tooMuch : ¬ (0 ≤ amount ∧ amount ≤ root.coins)) :
      Books root ⟨.call "spend" (amount :: more), .ok (.boolean false)⟩ root
  | resets (arguments : List Int) :
      Books root ⟨.call "reset" arguments, .ok .null⟩ { root with coins := 0 }
  | advances (amount : Int) (more : List Int) (forward : 0 ≤ amount) :
      Books root
        ⟨.member "clock" (.call "advance" (amount :: more)),
          .ok (.integer (root.clock.seconds + amount))⟩
        { root with clock := { seconds := root.clock.seconds + amount } }
  | idles (turn : Turn) (idle : turn.instruction.IsIdle) : Books root turn root

/-- A clock moves only if it is told to move forward. -/
theorem Clock.handle_cases (clock : Clock) (instruction : Instruction) :
    (∃ amount more, 0 ≤ amount ∧ instruction = .call "advance" (amount :: more) ∧
      clock.handle instruction =
        (.ok (.integer (clock.seconds + amount)), { seconds := clock.seconds + amount })) ∨
    (clock.handle instruction).2 = clock ∧
      ∀ amount more, instruction = .call "advance" (amount :: more) → amount < 0 := by
  unfold handle
  split
  · exact .inr ⟨rfl, by simp⟩
  · exact .inr ⟨rfl, by simp⟩
  · next arguments =>
    cases arguments with
    | nil => exact .inr ⟨rfl, by simp⟩
    | cons amount more =>
      by_cases hback : amount < 0
      · refine .inr ⟨by simp [firstArgument, advance, hback], ?_⟩
        rintro amount' more' heq
        cases heq
        exact hback
      · refine .inl ⟨amount, more, by omega, rfl, ?_⟩
        simp [firstArgument, advance, hback]
  · next hother => exact .inr ⟨rfl, fun amount more heq => absurd heq (hother _)⟩

/-- An instruction to a game does one of the things that can be booked. -/
theorem Root.books_handle (root : Root) (instruction : Instruction) :
    Books root ⟨instruction, (root.handle instruction).1⟩ (root.handle instruction).2 := by
  unfold handle
  split
  · exact .idles _ ⟨by simp, by simp, by simp, by simp⟩
  · exact .idles _ ⟨by simp, by simp, by simp, by simp⟩
  · exact .idles _ ⟨by simp, by simp, by simp, by simp⟩
  · next rest =>
    dsimp only
    rcases root.clock.handle_cases rest with ⟨amount, more, hforward, rfl, hmoved⟩ | ⟨hkept, hback⟩
    · rw [hmoved]
      exact .advances amount more hforward
    · rw [hkept]
      refine .idles _ ⟨by simp, by simp, by simp, fun amount more heq => ?_⟩
      cases heq
      exact hback amount more rfl
  · next arguments =>
    cases arguments with
    | nil => exact .idles _ ⟨by simp, by simp, by simp, by simp⟩
    | cons amount more => exact .adds amount more
  · next arguments =>
    cases arguments with
    | nil => exact .idles _ ⟨by simp, by simp, by simp, by simp⟩
    | cons amount more =>
      by_cases henough : 0 ≤ amount ∧ amount ≤ root.coins
      · simp only [firstArgument, spend, if_pos henough]
        exact .pays amount more henough
      · simp only [firstArgument, spend, if_neg henough]
        exact .declines amount more henough
  · exact .resets _
  · next hclock hadd hspend hreset =>
    exact .idles _ ⟨fun _ _ heq => hadd _ heq, fun _ _ heq => hspend _ heq,
      fun _ heq => hreset _ heq, fun _ _ heq => absurd heq (hclock _)⟩

section

variable {root next : Root} {turn : Turn}

theorem Instruction.IsIdle.added?_eq (h : turn.instruction.IsIdle) : turn.added? = none := by
  unfold Turn.added?
  split
  · next amount more heq => exact absurd heq (h.noAdd amount more)
  · rfl

theorem Instruction.IsIdle.paid?_eq (h : turn.instruction.IsIdle) : turn.paid? = none := by
  unfold Turn.paid?
  split
  · next amount more heq _ => exact absurd heq (h.noSpend amount more)
  · rfl

theorem Instruction.IsIdle.isReset_eq (h : turn.instruction.IsIdle) : turn.isReset = false := by
  unfold Turn.isReset
  split
  · next arguments value heq _ => exact absurd heq (h.noReset arguments)
  · rfl

theorem Instruction.IsIdle.passed?_eq (h : turn.instruction.IsIdle) : turn.passed? = none := by
  unfold Turn.passed?
  split
  · next amount more heq => exact if_neg (Int.not_le.mpr (h.noAdvance amount more heq))
  · rfl

/-- A turn changes the coins by what it books. -/
theorem Books.coins_eq (h : Books root turn next) :
    next.coins =
      if turn.isReset then 0 else root.coins + turn.added?.getD 0 - turn.paid?.getD 0 := by
  cases h with
  | adds amount more => simp [Turn.isReset, Turn.added?, Turn.paid?]
  | pays amount more henough => simp [Turn.isReset, Turn.added?, Turn.paid?]
  | declines amount more htooMuch => simp [Turn.isReset, Turn.added?, Turn.paid?]
  | resets arguments => simp [Turn.isReset]
  | advances amount more hforward => simp [Turn.isReset, Turn.added?, Turn.paid?]
  | idles _ hidle => simp [hidle.isReset_eq, hidle.added?_eq, hidle.paid?_eq]

/-- A turn moves the clock by what it books. -/
theorem Books.seconds_eq (h : Books root turn next) :
    next.clock.seconds = root.clock.seconds + turn.passed?.getD 0 := by
  cases h with
  | adds amount more => simp [Turn.passed?]
  | pays amount more henough => simp [Turn.passed?]
  | declines amount more htooMuch => simp [Turn.passed?]
  | resets arguments => simp [Turn.passed?]
  | advances amount more hforward => simp [Turn.passed?, hforward]
  | idles _ hidle => simp [hidle.passed?_eq]

/-- Seconds never decrease. -/
theorem Books.seconds_le (h : Books root turn next) : root.clock.seconds ≤ next.clock.seconds := by
  cases h with
  | advances amount more hforward =>
    show root.clock.seconds ≤ root.clock.seconds + amount
    omega
  | adds | pays | declines | resets | idles => exact Int.le_refl _

/-- Coins are paid exactly if they are not negative and there are enough of them. -/
theorem Books.pays_iff (h : Books root turn next) {amount : Int} {more : List Int}
    (hspend : turn.instruction = .call "spend" (amount :: more)) :
    turn.answer = .ok (.boolean true) ↔ 0 ≤ amount ∧ amount ≤ root.coins := by
  cases h with
  | pays amount' more' henough =>
    cases hspend
    simpa using henough
  | declines amount' more' htooMuch =>
    cases hspend
    simpa using htooMuch
  | idles _ hidle => exact absurd hspend (hidle.noSpend amount more)
  | adds | resets | advances => simp at hspend

/-- Coins do not become negative unless a negative amount is added. -/
theorem Books.coins_nonneg (h : Books root turn next) (hcoins : 0 ≤ root.coins)
    (hadd : ∀ amount more, turn.instruction = .call "add" (amount :: more) → 0 ≤ amount) :
    0 ≤ next.coins := by
  cases h with
  | adds amount more =>
    have hamount := hadd amount more rfl
    show 0 ≤ root.coins + amount
    omega
  | pays amount more henough =>
    show 0 ≤ root.coins - amount
    omega
  | resets arguments => exact Int.le_refl 0
  | declines | advances | idles => exact hcoins

end

/-! ## Whole games -/

namespace Root

variable {root : Root} {instructions : List Instruction}

theorem handleAll_append (first second : List Instruction) (root : Root) :
    handleAll (first ++ second) root =
      ((handleAll first root).1 ++ (handleAll second (handleAll first root).2).1,
        (handleAll second (handleAll first root).2).2) := by
  induction first generalizing root with
  | nil => rfl
  | cons instruction others ih => simp only [List.cons_append, handleAll, ih]

theorem handleAll_concat (instructions : List Instruction) (instruction : Instruction)
    (root : Root) :
    handleAll (instructions ++ [instruction]) root =
      ((handleAll instructions root).1 ++
          [⟨instruction, ((handleAll instructions root).2.handle instruction).1⟩],
        ((handleAll instructions root).2.handle instruction).2) := by
  rw [handleAll_append]
  rfl

theorem length_handleAll (instructions : List Instruction) (root : Root) :
    (handleAll instructions root).1.length = instructions.length := by
  induction instructions generalizing root with
  | nil => rfl
  | cons instruction others ih => simp only [handleAll, List.length_cons, ih]

theorem coins_handleAll (instructions : List Instruction) (root : Root) :
    (handleAll instructions root).2.coins = balance root.coins (handleAll instructions root).1 := by
  induction instructions using List.reverseRecOn with
  | nil => exact (balance_nil root.coins).symm
  | append_singleton instructions instruction ih =>
    rw [handleAll_concat, balance_concat, ← ih]
    exact (books_handle _ instruction).coins_eq

theorem seconds_handleAll (instructions : List Instruction) (root : Root) :
    (handleAll instructions root).2.clock.seconds =
      root.clock.seconds + elapsed (handleAll instructions root).1 := by
  induction instructions using List.reverseRecOn with
  | nil => exact (Int.add_zero _).symm
  | append_singleton instructions instruction ih =>
    rw [handleAll_concat, elapsed_concat, ← Int.add_assoc, ← ih]
    exact (books_handle _ instruction).seconds_eq

theorem coins_handleAll_nonneg (hcoins : 0 ≤ root.coins)
    (hadd : ∀ amount more, .call "add" (amount :: more) ∈ instructions → 0 ≤ amount) :
    0 ≤ (handleAll instructions root).2.coins := by
  induction instructions using List.reverseRecOn with
  | nil => exact hcoins
  | append_singleton instructions instruction ih =>
    rw [handleAll_concat]
    refine (books_handle _ instruction).coins_nonneg (ih fun amount more hmem => ?_) ?_
    · exact hadd amount more (List.mem_append_left _ hmem)
    · rintro amount more rfl
      exact hadd amount more (by simp)

/-- The turn at a place in a game is what the game has become by then makes of the instruction
there. -/
theorem turn_handleAll (before : List Instruction) (instruction : Instruction)
    (later : List Instruction) (root : Root) :
    (handleAll (before ++ instruction :: later) root).1[before.length]? =
      some ⟨instruction, ((handleAll before root).2.handle instruction).1⟩ := by
  rw [handleAll_append, ← length_handleAll before root]
  simp [handleAll]

end Root

/-- The books of a game balance. At its end the coins are those at the start, or none if they were
set back, and since then what was added less what was paid, and the clock shows the seconds at the
start and those it was moved forward. On the way, coins are paid exactly if they are not negative
and there are enough of them at that time, and no turn moves the clock back. If there was no debt
at the start and no negative amount is added, there never is a debt. -/
theorem ledger_balances (root : Root) (instructions : List Instruction) :
    let game := Root.handleAll instructions root
    game.2.coins = balance root.coins game.1 ∧
    game.2.clock.seconds = root.clock.seconds + elapsed game.1 ∧
    (∀ before instruction later, instructions = before ++ instruction :: later →
      let now := (Root.handleAll before root).2
      let next := (Root.handleAll (before ++ [instruction]) root).2
      ∃ answer, game.1[before.length]? = some ⟨instruction, answer⟩ ∧
        (∀ amount more, instruction = .call "spend" (amount :: more) →
          (answer = .ok (.boolean true) ↔ 0 ≤ amount ∧ amount ≤ now.coins)) ∧
        now.clock.seconds ≤ next.clock.seconds) ∧
    (0 ≤ root.coins →
      (∀ amount more, .call "add" (amount :: more) ∈ instructions → 0 ≤ amount) →
      ∀ played, played <+: instructions → 0 ≤ (Root.handleAll played root).2.coins) := by
  refine ⟨Root.coins_handleAll instructions root, Root.seconds_handleAll instructions root, ?_, ?_⟩
  · rintro before instruction later rfl
    have hbooks := (Root.handleAll before root).2.books_handle instruction
    refine ⟨_, Root.turn_handleAll before instruction later root, ?_, ?_⟩
    · intro amount more hspend
      exact hbooks.pays_iff hspend
    · rw [Root.handleAll_concat]
      exact hbooks.seconds_le
  · intro hcoins hadd played hplayed
    refine Root.coins_handleAll_nonneg hcoins fun amount more hmem => ?_
    exact hadd amount more (hplayed.subset hmem)

/-- A player with seven coins adds five, is refused twenty, has the coins set back, adds four, pays
three and moves the clock on, once not forward. -/
theorem ledger_balances_after_reset :
    let root : Root := { coins := 7, clock := { seconds := 10 } }
    let early : List Instruction :=
      [.call "add" [5], .call "spend" [20], .call "add" [], .call "reset" [1], .call "add" [4, 9]]
    let late : List Instruction :=
      [.member "clock" (.call "advance" [-2]), .member "clock" (.call "advance" [6])]
    let instructions := early ++ .call "spend" [3] :: late
    let game := Root.handleAll instructions root
    (balance 7 game.1 = 1 ∧ game.2.coins = 1) ∧
    (elapsed game.1 = 6 ∧ game.2.clock.seconds = 16) ∧
    (0 ≤ (3 : Int) ∧ 3 ≤ (Root.handleAll early root).2.coins ∧
      game.1[5]? = some ⟨.call "spend" [3], .ok (.boolean true)⟩) ∧
    (0 ≤ root.coins ∧
      (∀ amount more, .call "add" (amount :: more) ∈ instructions → 0 ≤ amount) ∧
      ∀ played, played <+: instructions → 0 ≤ (Root.handleAll played root).2.coins) := by
  intro root early late instructions game
  obtain ⟨hcoins, hseconds, hturns, hdebt⟩ := ledger_balances root instructions
  have hbalance : balance 7 game.1 = 1 := by decide
  have helapsed : elapsed game.1 = 6 := by decide
  have henough : 0 ≤ (3 : Int) ∧ 3 ≤ (Root.handleAll early root).2.coins := by decide
  have hstart : 0 ≤ root.coins := by decide
  have hadd : ∀ amount more, .call "add" (amount :: more) ∈ instructions → 0 ≤ amount := by
    intro amount more hmem
    simp [instructions, early, late] at hmem
    omega
  obtain ⟨answer, hturn, hpaid, -⟩ := hturns early (.call "spend" [3]) late rfl
  rw [(hpaid 3 [] rfl).mpr henough] at hturn
  refine ⟨⟨hbalance, hcoins.trans hbalance⟩, ⟨helapsed, ?_⟩, ⟨henough.1, henough.2, hturn⟩, hstart,
    hadd, hdebt hstart hadd⟩
  rw [hseconds, helapsed]
  rfl

end CoinConsole
