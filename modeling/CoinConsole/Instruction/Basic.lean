/-!
# Instructions

An instruction is what a command line means: a chain of names, each looked up on the object the
names before it reach, that ends in a property to read or a function to call.
-/

namespace CoinConsole

/-- What a command line asks of an object. -/
inductive Instruction
  | property (name : String)
  | call (name : String) (arguments : List Int)
  | member (name : String) (rest : Instruction)
deriving DecidableEq

namespace Instruction

/-- The name the instruction starts with. -/
def name : Instruction → String
  | property name => name
  | call name _ => name
  | member name _ => name

/-- Whether reading stops at the first name; calls read nothing. -/
def isTerminal? : Instruction → Option Bool
  | property _ => some true
  | call _ _ => none
  | member _ _ => some false

/-- The instruction reached through the given names, the innermost first. -/
def within (names : List String) (instruction : Instruction) : Instruction :=
  names.foldl (fun inner name => member name inner) instruction

/-- The names and calls of the chain, as a command line writes them. -/
def segments : Instruction → List String
  | property name => [name]
  | call name arguments =>
    let list := ", ".intercalate (arguments.map toString)
    [s!"{name}({list})"]
  | member name rest => name :: rest.segments

/-- The command line for an instruction. -/
def format (instruction : Instruction) : String := ".".intercalate instruction.segments

end Instruction

end CoinConsole
