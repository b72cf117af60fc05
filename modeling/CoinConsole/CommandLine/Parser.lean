import CoinConsole.Text.DecimalDigit
import CoinConsole.Text.Quoted

/-!
# Command-line arguments

An interface is a list of options and perhaps one operand. Options start with a dash. Those with
two dashes may be cut short as long as only one of them is meant, and take their value from behind
an equals sign or from the next argument; switches with one dash may be written together. `--`
ends the options, and it is never a value: behind an equals sign it leaves the value blank.

All arguments are classified first, and ambiguous ones are refused then. The options take effect
from left to right after that, so the leftmost fault is reported. Arguments that belong to nothing
are collected and refused at the very end, but a missing operand is reported before them.
-/

namespace CoinConsole.CommandLine

/-- What an option does. One that takes a value says what to do with it, and with a blank. -/
inductive Action (σ : Type)
  | help
  | switch (set : σ → σ)
  | value (read : String → σ → Except String σ) (blank : σ → σ)

/-- An option with its names. -/
structure OptionSpec (σ : Type) where
  names : List String
  action : Action σ

/-- An argument that is no option. -/
structure Operand (σ : Type) where
  name : String
  set : String → σ → σ

/-- What a program takes on its command line. -/
structure Interface (σ : Type) where
  program : String
  usage : String
  help : String
  options : List (OptionSpec σ)
  operand : Option (Operand σ)

/-- Why reading the arguments ends early. -/
inductive Stop
  | help
  | problem (message : String)
deriving DecidableEq

/-- What an argument is. -/
inductive Piece (σ : Type)
  | separator
  | operand (text : String)
  | unknown (text : String)
  | option (spec : OptionSpec σ) (name : String) (attached : Option (List Char))

namespace OptionSpec

/-- How error messages name an option. -/
def display {σ : Type} (spec : OptionSpec σ) : String := "/".intercalate spec.names

/-- The problem `message` with an option. -/
def problem {σ : Type} (spec : OptionSpec σ) (message : String) : Stop :=
  .problem s!"argument {spec.display}: {message}"

/-- The option has a value attached, but takes none. -/
def ignored {σ : Type} (spec : OptionSpec σ) (text : List Char) : Stop :=
  spec.problem s!"ignored explicit argument {Text.quoted (String.ofList text)}"

end OptionSpec

/-! ## Classifying arguments -/

/-- All names of all options, with the options. -/
def allNames {σ : Type} (options : List (OptionSpec σ)) : List (String × OptionSpec σ) :=
  options.flatMap fun spec => spec.names.map fun name => (name, spec)

/-- The option with the given name. -/
def findOption? {σ : Type} (options : List (OptionSpec σ)) (name : String) :
    Option (OptionSpec σ) :=
  ((allNames options).find? fun entry => entry.1 == name).map (·.2)

/-- The text up to the first equals sign, and what is behind it. -/
def splitEquals (cs : List Char) : List Char × Option (List Char) :=
  match cs.dropWhile (· != '=') with
  | [] => (cs, none)
  | _ :: rest => (cs.takeWhile (· != '='), some rest)

/-- The options an argument may mean that is not the name of one. -/
def candidates {σ : Type} (options : List (OptionSpec σ)) (cs : List Char) :
    List (OptionSpec σ × String × Option (List Char)) :=
  match cs with
  | '-' :: '-' :: _ =>
    let (stem, value) := splitEquals cs
    (allNames options).filterMap fun (name, spec) =>
      if stem.isPrefixOf name.toList then some (spec, name, value) else none
  | _ =>
    (allNames options).filterMap fun (name, spec) =>
      if name.toList = cs.take 2 then some (spec, name, some (cs.drop 2))
      else if cs.isPrefixOf name.toList then some (spec, name, none)
      else none

/-- Whether `cs` is made of one or more decimal digits. -/
def isDigits (cs : List Char) : Bool :=
  !cs.isEmpty && cs.all fun c => (Text.decimalDigit? c).isSome

/-- Whether an argument looks like a negative number, which is no option. A line feed at its end
does not matter. -/
def isNegativeNumber : List Char → Bool
  | '-' :: cs =>
    let cs := if cs.getLast? = some '\n' then cs.dropLast else cs
    isDigits cs ||
      (match cs.dropWhile fun c => (Text.decimalDigit? c).isSome with
        | '.' :: rest => isDigits rest
        | _ => false)
  | _ => false

/-- What an argument in front of `--` is. -/
def classify {σ : Type} (options : List (OptionSpec σ)) (argument : String) :
    Except Stop (Piece σ) :=
  match argument.toList with
  | '-' :: c :: rest =>
    let cs := '-' :: c :: rest
    match findOption? options argument with
    | some spec => .ok (.option spec argument none)
    | none =>
      let (stem, value) := splitEquals cs
      match findOption? options (String.ofList stem), value with
      | some spec, some text => .ok (.option spec (String.ofList stem) (some text))
      | _, _ =>
        match candidates options cs with
        | [(spec, name, attached)] => .ok (.option spec name attached)
        | [] =>
          if isNegativeNumber cs || cs.contains ' ' then .ok (.operand argument)
          else .ok (.unknown argument)
        | several =>
          let names := ", ".intercalate (several.map fun candidate => candidate.2.1)
          .error (.problem s!"ambiguous option: {argument} could match {names}")
  | _ => .ok (.operand argument)

/-- What all arguments are; behind `--` there are no options. -/
def classifyAll {σ : Type} (options : List (OptionSpec σ)) :
    List String → Except Stop (List (Piece σ))
  | [] => .ok []
  | argument :: rest =>
    if argument = "--" then .ok (.separator :: rest.map .operand)
    else
      match classify options argument with
      | .error stop => .error stop
      | .ok piece =>
        match classifyAll options rest with
        | .error stop => .error stop
        | .ok pieces => .ok (piece :: pieces)

/-! ## Taking effect -/

/-- How far the arguments have been read: what the options have set, whether the operand is still
to come, whether `--` may follow it here, and what belongs to nothing. -/
structure Progress (σ : Type) where
  state : σ
  operand : Option (Operand σ)
  behindOperand : Bool := false
  extras : List String := []

namespace Progress

/-- The progress after an argument that belongs to nothing. -/
def addExtra {σ : Type} (progress : Progress σ) (text : String) : Progress σ :=
  { progress with behindOperand := false, extras := progress.extras ++ [text] }

/-- The progress after an option has set something. -/
def set {σ : Type} (progress : Progress σ) (state : σ) : Progress σ :=
  { progress with behindOperand := false, state }

/-- The progress after an option has been given a value, which `--` leaves blank. -/
def give {σ : Type} (progress : Progress σ) (spec : OptionSpec σ)
    (read : String → σ → Except String σ) (blank : σ → σ) (text : String) :
    Except Stop (Progress σ) :=
  if text = "--" then .ok (progress.set (blank progress.state))
  else
    match read text progress.state with
    | .error message => .error (spec.problem message)
    | .ok state => .ok (progress.set state)

/-- The progress after options without values have taken effect. -/
def applyAll {σ : Type} (progress : Progress σ) : List (OptionSpec σ) → Except Stop (Progress σ)
  | [] => .ok progress
  | spec :: rest =>
    match spec.action with
    | .help => .error .help
    | .switch change => applyAll (progress.set (change progress.state)) rest
    | .value _ _ => .error (spec.problem "expected one argument")

end Progress

/-- The switches written together in one argument: `spec`, and those that the letters behind it
name. -/
def cluster {σ : Type} (options : List (OptionSpec σ)) (spec : OptionSpec σ) :
    List Char → Except Stop (List (OptionSpec σ))
  | [] => .error (spec.ignored [])
  | c :: rest =>
    match findOption? options (String.ofList ['-', c]), rest with
    | none, _ => .error (spec.ignored (c :: rest))
    | some next, [] => .ok [spec, next]
    | some next, rest => (cluster options next rest).map (spec :: ·)

/-- The progress after an option without a value that has `text` attached. -/
def attachedTo {σ : Type} (options : List (OptionSpec σ)) (spec : OptionSpec σ) (name : String)
    (text : List Char) (progress : Progress σ) : Except Stop (Progress σ) :=
  if "--".toList.isPrefixOf name.toList then .error (spec.ignored text)
  else
    match cluster options spec text with
    | .error stop => .error stop
    | .ok specs => progress.applyAll specs

/-- Lets the arguments take effect. -/
def takeEffect {σ : Type} (options : List (OptionSpec σ)) :
    List (Piece σ) → Progress σ → Except Stop (Progress σ)
  | [], progress => .ok progress
  | .separator :: rest, progress =>
    if progress.behindOperand || (progress.operand.isSome && !rest.isEmpty) then
      takeEffect options rest { progress with behindOperand := false }
    else takeEffect options rest (progress.addExtra "--")
  | .operand text :: rest, progress =>
    match progress.operand with
    | none => takeEffect options rest (progress.addExtra text)
    | some operand =>
      takeEffect options rest
        { progress with
          state := operand.set text progress.state, operand := none, behindOperand := true }
  | .unknown text :: rest, progress => takeEffect options rest (progress.addExtra text)
  | .option spec name (some attached) :: rest, progress =>
    let outcome := match spec.action with
      | .value read blank => progress.give spec read blank (String.ofList attached)
      | _ => attachedTo options spec name attached progress
    match outcome with
    | .error stop => .error stop
    | .ok progress => takeEffect options rest progress
  | .option spec _ none :: rest, progress =>
    match spec.action, rest with
    | .help, _ => .error .help
    | .switch change, rest => takeEffect options rest (progress.set (change progress.state))
    | .value read blank, .operand text :: rest =>
      match progress.give spec read blank text with
      | .error stop => .error stop
      | .ok progress => takeEffect options rest progress
    | .value _ _, _ => .error (spec.problem "expected one argument")

/-- What the arguments make of the state `state`. -/
def Interface.parse {σ : Type} (interface : Interface σ) (state : σ) (arguments : List String) :
    Except Stop σ :=
  match classifyAll interface.options arguments with
  | .error stop => .error stop
  | .ok pieces =>
    match takeEffect interface.options pieces { state, operand := interface.operand } with
    | .error stop => .error stop
    | .ok progress =>
      match progress.operand, progress.extras with
      | some operand, _ =>
        .error (.problem s!"the following arguments are required: {operand.name}")
      | none, [] => .ok progress.state
      | none, extras =>
        let list := " ".intercalate extras
        .error (.problem s!"unrecognized arguments: {list}")

/-- What is said about a problem with the arguments. -/
def Interface.complaint {σ : Type} (interface : Interface σ) (message : String) : String :=
  interface.usage ++ s!"{interface.program}: error: {message}"

end CoinConsole.CommandLine
