import CoinConsole.Game.Value
import CoinConsole.Instruction.Basic
import CoinConsole.Pick

/-!
# Dispatch

The rules shared by all objects an instruction can be addressed to: which argument a function
takes, what a plain value offers, and how a name that an object does not have is reported.
-/

namespace CoinConsole

/-- Why an object does not carry out an instruction. -/
inductive HandleError
  | notFound (message : String)
  | wrongArgumentType (expected : String) (index : Int)
deriving DecidableEq

namespace HandleError

/-- The wording of the error. -/
def message : HandleError → String
  | notFound message => message
  | wrongArgumentType expected index => s!"Expected argument of type '{expected}' at {index}"

/-- The first name of the instruction is none that objects of the given type have. -/
def memberNotFound (typeName : String) : Instruction → HandleError
  | .call name _ => notFound s!"Did not find any functions named '{name}' on {typeName}"
  | .property name => notFound s!"Did not find property '{name}' on {typeName}"
  | .member name _ => notFound s!"Did not find property '{name}' on {typeName}"

end HandleError

/-- The value of a scalar property. Scalars have no members of their own. -/
def scalarProperty (value : Value) : Option Instruction → Except HandleError Value
  | none => .ok value
  | some instruction => .error (.memberNotFound value.typeName instruction)

/-- The argument at `index`, which is counted from the end if negative. -/
def integerArgument (arguments : List Int) (index : Int) :
    Except IndexError (Except HandleError Int) :=
  match pick arguments index with
  | .error e => .error e
  | .ok none => .ok (.error (.wrongArgumentType "Int" index))
  | .ok (some value) => .ok (.ok value)

/-- The first argument, the only one the functions of the game look at. -/
def firstArgument : List Int → Except HandleError Int
  | [] => .error (.wrongArgumentType "Int" 0)
  | value :: _ => .ok value

theorem integerArgument_zero (arguments : List Int) :
    integerArgument arguments 0 = .ok (firstArgument arguments) := by
  cases arguments <;> simp [integerArgument, pick, firstArgument]

end CoinConsole
