import CoinConsole.Game.Dispatch

/-!
# The state of the game

The game is a number of coins and a clock that counts seconds. Both are unbounded integers.
`handle` is the command surface of each object: it answers an instruction and gives back the
object as the instruction left it, which is unchanged whenever the answer is an error.
-/

namespace CoinConsole

/-- The clock of the game. -/
structure Clock where
  seconds : Int := 0
deriving DecidableEq

/-- The whole state of the game. -/
structure Root where
  coins : Int := 0
  clock : Clock := {}
deriving DecidableEq

/-! ## The clock -/

namespace Clock

/-- The name of the type in error messages. -/
def typeName : String := "Clock"

/-- Moves the clock forward; it does not go back. -/
def advance (clock : Clock) (amount : Int) : Value × Clock :=
  if amount < 0 then (.boolean false, clock)
  else (.integer (clock.seconds + amount), { clock with seconds := clock.seconds + amount })

/-- Carries out an instruction addressed to the clock. -/
def handle (clock : Clock) : Instruction → Except HandleError Value × Clock
  | .property "seconds" => (scalarProperty (.integer clock.seconds) none, clock)
  | .member "seconds" rest => (scalarProperty (.integer clock.seconds) (some rest), clock)
  | .call "advance" arguments =>
    match firstArgument arguments with
    | .error e => (.error e, clock)
    | .ok amount => let moved := clock.advance amount; (.ok moved.1, moved.2)
  | instruction => (.error (.memberNotFound typeName instruction), clock)

end Clock

/-! ## The root -/

namespace Root

/-- The name of the type in error messages. -/
def typeName : String := "Root"

/-- Adds coins; a negative amount takes them away, without bound. -/
def add (root : Root) (amount : Int) : Value × Root :=
  (.integer (root.coins + amount), { root with coins := root.coins + amount })

/-- Pays coins if the amount is not negative and there are enough of them. -/
def spend (root : Root) (amount : Int) : Value × Root :=
  if 0 ≤ amount ∧ amount ≤ root.coins then
    (.boolean true, { root with coins := root.coins - amount })
  else (.boolean false, root)

/-- Sets the coins back to none. -/
def reset (root : Root) : Value × Root := (.null, { root with coins := 0 })

/-- Carries out an instruction addressed to the root. -/
def handle (root : Root) : Instruction → Except HandleError Value × Root
  | .property "coins" => (scalarProperty (.integer root.coins) none, root)
  | .member "coins" rest => (scalarProperty (.integer root.coins) (some rest), root)
  | .property "clock" => (.ok .null, root)
  | .member "clock" rest =>
    let answer := root.clock.handle rest
    (answer.1, { root with clock := answer.2 })
  | .call "add" arguments =>
    match firstArgument arguments with
    | .error e => (.error e, root)
    | .ok amount => let changed := root.add amount; (.ok changed.1, changed.2)
  | .call "spend" arguments =>
    match firstArgument arguments with
    | .error e => (.error e, root)
    | .ok amount => let changed := root.spend amount; (.ok changed.1, changed.2)
  | .call "reset" _ => let changed := root.reset; (.ok changed.1, changed.2)
  | instruction => (.error (.memberNotFound typeName instruction), root)

end Root

end CoinConsole
