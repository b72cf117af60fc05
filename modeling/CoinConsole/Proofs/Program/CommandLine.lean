import CoinConsole.Console.Transcript
import CoinConsole.Program.GameArguments
import CoinConsole.Proofs.Instruction.RoundTrip

/-!
# Command lines

Arguments that are whole options, each with its value behind an equals sign if it takes one, can be
read one at a time: each of them changes the state in its own way, whatever stands before and
behind it (`Sets`). So a command line made of such arguments comes to the changes one after the
other (`Interface.parse_of_sets`), and every request to play a game can be written as one
(`GameRequest.parse_arguments`).
-/

namespace CoinConsole

namespace CommandLine

variable {σ : Type} {options : List (OptionSpec σ)} {spec : OptionSpec σ}

/-! ## One argument -/

/-- The argument is an option that makes the given change, and nothing else. -/
def Sets (options : List (OptionSpec σ)) (argument : String) (change : σ → σ) : Prop :=
  argument ≠ "--" ∧ ∃ piece, classify options argument = .ok piece ∧
    ∀ rest progress, takeEffect options (piece :: rest) progress =
      takeEffect options rest (progress.set (change progress.state))

/-- A switch is set by its name. -/
theorem sets_switch {name : String} {c : Char} {cs : List Char} {change : σ → σ}
    (hname : name.toList = '-' :: c :: cs) (hne : name ≠ "--")
    (hfind : findOption? options name = some spec) (haction : spec.action = .switch change) :
    Sets options name change := by
  refine ⟨hne, .option spec name none, ?_, fun rest progress => ?_⟩
  · simp only [classify, hname, hfind]
  · rw [takeEffect.eq_def]
    simp only [haction]

theorem splitEquals_append {cs rest : List Char} (h : '=' ∉ cs) :
    splitEquals (cs ++ '=' :: rest) = (cs, some rest) := by
  have hcs : ∀ c ∈ cs, (c != '=') = true := by
    intro c hc
    rw [bne_iff_ne]
    rintro rfl
    exact h hc
  have hstops : StopsAt (· != '=') ('=' :: rest) := stopsAt_cons (by simp)
  rw [splitEquals, dropWhile_append_of_stopsAt hcs hstops]
  dsimp only
  rw [takeWhile_append_of_stopsAt hcs hstops]

/-- An argument with an equals sign is no option as a whole, if no option has one in its name. -/
theorem findOption?_eq_none {argument : String} (hnames : ∀ entry ∈ allNames options,
    '=' ∉ entry.1.toList) (h : '=' ∈ argument.toList) : findOption? options argument = none := by
  rw [findOption?, Option.map_eq_none_iff, List.find?_eq_none]
  intro entry hentry hsame
  rw [beq_iff_eq] at hsame
  exact hnames entry hentry (hsame ▸ h)

/-- An option that takes a value is set by its name, an equals sign, and a value that it reads. -/
theorem sets_value {name text : String} {c : Char} {cs : List Char}
    {read : String → σ → Except String σ} {blank change : σ → σ}
    (hname : name.toList = '-' :: c :: cs) (hequals : '=' ∉ name.toList)
    (hnames : ∀ entry ∈ allNames options, '=' ∉ entry.1.toList)
    (hfind : findOption? options name = some spec) (haction : spec.action = .value read blank)
    (htext : text ≠ "--") (hread : ∀ state, read text state = .ok (change state)) :
    Sets options (name ++ "=" ++ text) change := by
  have hchars : (name ++ "=" ++ text).toList = '-' :: c :: (cs ++ '=' :: text.toList) := by
    simp [hname]
  have hsplit : splitEquals ('-' :: c :: (cs ++ '=' :: text.toList)) =
      (name.toList, some text.toList) := by
    rw [← splitEquals_append hequals, hname]
    rfl
  have hwhole : findOption? options (name ++ "=" ++ text) = none :=
    findOption?_eq_none hnames (by simp [hchars])
  refine ⟨?_, .option spec name (some text.toList), ?_, fun rest progress => ?_⟩
  · intro hdashes
    have hmem : '=' ∈ (name ++ "=" ++ text).toList := by simp [hchars]
    rw [hdashes] at hmem
    exact absurd hmem (by decide)
  · simp only [classify, hchars, hwhole, hsplit, String.ofList_toList, hfind]
  · simp only [takeEffect, haction, String.ofList_toList, Progress.give, if_neg htext, hread]

/-! ## All arguments -/

/-- The pieces of arguments that set something, and what they come to. -/
theorem exists_pieces_of_sets {entries : List (String × (σ → σ))}
    (h : ∀ entry ∈ entries, Sets options entry.1 entry.2) :
    ∃ pieces, classifyAll options (entries.map (·.1)) = .ok pieces ∧
      ∀ state, takeEffect options pieces { state, operand := none } =
        .ok { state := entries.foldl (fun state entry => entry.2 state) state, operand := none } := by
  induction entries with
  | nil => exact ⟨[], rfl, fun state => by rw [takeEffect, List.foldl_nil]⟩
  | cons entry entries ih =>
    obtain ⟨hne, piece, hclassify, heffect⟩ := h entry List.mem_cons_self
    obtain ⟨pieces, hpieces, heffects⟩ := ih fun entry hentry => h entry (List.mem_cons_of_mem _ hentry)
    refine ⟨piece :: pieces, ?_, fun state => ?_⟩
    · rw [List.map_cons, classifyAll, if_neg hne, hclassify]
      dsimp only
      rw [hpieces]
    · rw [heffect, List.foldl_cons]
      exact heffects (entry.2 state)

/-- Arguments that set something each are read as their changes, one after the other. -/
theorem Interface.parse_of_sets {interface : Interface σ} (hoperand : interface.operand = none)
    {entries : List (String × (σ → σ))}
    (h : ∀ entry ∈ entries, Sets interface.options entry.1 entry.2) (state : σ) :
    interface.parse state (entries.map (·.1)) =
      .ok (entries.foldl (fun state entry => entry.2 state) state) := by
  obtain ⟨pieces, hpieces, heffect⟩ := exists_pieces_of_sets h
  rw [parse, hpieces]
  dsimp only
  rw [hoperand, heffect]

end CommandLine

namespace GameArguments

open CommandLine

/-! ## The options of the game -/

theorem not_mem_equals_allNames : ∀ entry ∈ allNames options, '=' ∉ entry.1.toList := by
  decide

theorem sets_save {text : String} (h : text ≠ "--") :
    Sets options ("--save" ++ "=" ++ text)
      fun arguments => { arguments with savePath := .value (Path.ofText text) } :=
  sets_value (by rfl) (by decide) not_mem_equals_allNames (by rfl) (by rfl) h fun _ => rfl

theorem sets_init :
    Sets options "--init" fun arguments => { arguments with create := true } :=
  sets_switch (by rfl) (by decide) (by rfl) (by rfl)

theorem sets_permissive :
    Sets options "--permissive" fun arguments => { arguments with permissive := true } :=
  sets_switch (by rfl) (by decide) (by rfl) (by rfl)

theorem sets_scrollback {text : String} {limit : Int} (h : Text.readInteger text = some limit)
    (hne : text ≠ "--") :
    Sets options ("--scrollback" ++ "=" ++ text)
      fun arguments => { arguments with scrollback := .value limit } := by
  refine sets_value (by rfl) (by decide) not_mem_equals_allNames (by rfl) (by rfl) hne fun state => ?_
  rw [readScrollback, h]

end GameArguments

/-! ## Requests to play -/

/-- A request to play: the save file, whether it is to be created if there is none, whether to
ignore what follows a command, and how many lines to keep. -/
structure GameRequest where
  save : String
  create : Bool
  permissive : Bool
  scrollback : Nat

namespace GameRequest

/-- The command line for a request. -/
def arguments (request : GameRequest) : List String :=
  ["--save" ++ "=" ++ request.save, "--scrollback" ++ "=" ++ toString (request.scrollback : Int)] ++
    (if request.create then ["--init"] else []) ++
    (if request.permissive then ["--permissive"] else [])

/-- What the command line for a request says. -/
def meaning (request : GameRequest) : GameArguments :=
  { savePath := .value (Path.ofText request.save)
    create := request.create
    permissive := request.permissive
    scrollback := .value request.scrollback }

/-- The changes that the arguments for a request make. -/
def changes (request : GameRequest) : List (String × (GameArguments → GameArguments)) :=
  [("--save" ++ "=" ++ request.save,
      fun arguments => { arguments with savePath := .value (Path.ofText request.save) }),
    ("--scrollback" ++ "=" ++ toString (request.scrollback : Int),
      fun arguments => { arguments with scrollback := .value request.scrollback })] ++
    (if request.create then [("--init", fun arguments => { arguments with create := true })]
      else []) ++
    (if request.permissive then
      [("--permissive", fun arguments => { arguments with permissive := true })]
      else [])

theorem readInteger_scrollback {limit : Nat} (h : (limit : Int) ≤ Transcript.maxLimit) :
    Text.readInteger (toString (limit : Int)) = some (limit : Int) := by
  have hargument : IsArgument (limit : Int) := by
    refine ⟨?_, h⟩
    rw [minInteger]
    omega
  have hspelled := spelled_of_isArgument hargument
  generalize hchars : (toString (limit : Int)).toList = chars at hspelled
  cases hspelled with
  | number run numeral => rwa [← hchars, String.ofList_toList] at numeral

/-- The command line for a request says what is requested. Two dashes alone cannot name a save
file. -/
theorem parse_arguments {request : GameRequest} (hsave : request.save ≠ "--")
    (hlimit : (request.scrollback : Int) ≤ Transcript.maxLimit) :
    GameArguments.interface.parse {} request.arguments = .ok request.meaning := by
  have hread := readInteger_scrollback hlimit
  have hnumeral : toString (request.scrollback : Int) ≠ "--" := by
    intro hdashes
    have hnone : Text.readInteger "--" = none := by decide
    rw [hdashes, hnone] at hread
    cases hread
  obtain ⟨save, create, permissive, scrollback⟩ := request
  have hsets : ∀ entry ∈ changes ⟨save, create, permissive, scrollback⟩,
      CommandLine.Sets GameArguments.options entry.1 entry.2 := by
    intro entry hentry
    simp only [changes, List.append_assoc, List.mem_append, List.mem_cons, List.not_mem_nil,
      or_false] at hentry
    rcases hentry with (rfl | rfl) | hinit | hpermissive
    · exact GameArguments.sets_save hsave
    · exact GameArguments.sets_scrollback hread hnumeral
    · cases create with
      | true => exact List.mem_singleton.mp hinit ▸ GameArguments.sets_init
      | false => cases hinit
    · cases permissive with
      | true => exact List.mem_singleton.mp hpermissive ▸ GameArguments.sets_permissive
      | false => cases hpermissive
  have hoperand : GameArguments.interface.operand = none := rfl
  have hparse := CommandLine.Interface.parse_of_sets hoperand hsets {}
  cases create <;> cases permissive <;> exact hparse

end GameRequest

end CoinConsole
