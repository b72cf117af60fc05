import CoinConsole.Instruction.Basic
import CoinConsole.Text.Quoted

/-!
# Outlines of instructions

An outline spells an instruction out as a tree: every node with its name, the fields by name, and
texts in quotes. Trees beyond a greatest depth are not spelled out.
-/

namespace CoinConsole.Instruction

/-- An argument with its name. -/
def argumentOutline (value : Int) : String := s!"IntArg(value={value})"

/-- The arguments in round brackets; a single one is followed by a comma. -/
def argumentsOutline : List Int → String
  | [] => "()"
  | [value] => s!"({argumentOutline value},)"
  | values =>
    let list := ", ".intercalate (values.map argumentOutline)
    s!"({list})"

/-- The instruction as a tree. -/
def outline : Instruction → String
  | property name => s!"Access(name={Text.quoted name}, continuation=None)"
  | call name arguments =>
    s!"FunctionCall(name={Text.quoted name}, args={argumentsOutline arguments})"
  | member name rest => s!"Access(name={Text.quoted name}, continuation={rest.outline})"

/-- Why an instruction is not spelled out. -/
inductive OutlineError
  | tooDeep
deriving DecidableEq

/-- The number of nodes on the longest way down the tree; arguments are nodes too. -/
def depth : Instruction → Nat
  | property _ => 1
  | call _ [] => 1
  | call _ (_ :: _) => 2
  | member _ rest => rest.depth + 1

/-- The greatest depth of a tree that is spelled out. -/
def maxOutlineDepth : Nat := 329

/-- The instruction as a tree, if that is not too deep. -/
def boundedOutline (instruction : Instruction) : Except OutlineError String :=
  if instruction.depth ≤ maxOutlineDepth then .ok instruction.outline
  else .error .tooDeep

end CoinConsole.Instruction
