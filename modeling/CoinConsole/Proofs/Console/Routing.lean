import Mathlib
import CoinConsole.Proofs.Console.OneLine

/-!
# Where lines are sent

The console looks at a line without the blanks at its ends to see who it is addressed to; the lexer
looks at the line as it stands. The two agree, because they have the same blanks: a line starts, for
the console, with the character at which the lexer starts (`Text.head?_strip`). So no line the
console keeps from the game is a command: a line that starts with a colon is refused by the lexer at
the colon, and a blank line has no tokens (`submit_routes_lines`).
-/

namespace CoinConsole

/-! ## Stripped texts -/

namespace Text

/-- What is left between the ends starts where the front end stops. -/
theorem head?_trimEnds (p : Char → Bool) (cs : List Char) :
    (trimEnds p cs).head? = (cs.dropWhile p).head? := by
  rw [trimEnds]
  cases hdrop : cs.dropWhile p with
  | nil => rfl
  | cons c rest =>
    have hc : p c = false := by
      have hhead := List.head?_dropWhile_not p cs
      rwa [hdrop] at hhead
    have hlast : [c].dropWhile p = [c] := List.dropWhile_cons_of_neg (by simp [hc])
    -- nothing beyond `c` is dropped from the other end
    rw [List.reverse_cons, List.dropWhile_append, hlast]
    split <;> simp

/-- A line starts, without its blanks, with its first character that is not blank. -/
theorem head?_strip (line : String) :
    (strip line).toList.head? = (line.toList.dropWhile isBlank).head? := by
  rw [strip, String.toList_ofList, head?_trimEnds]

/-- Nothing is left of a line exactly if all of it is blank. -/
theorem strip_eq_empty_iff {line : String} :
    strip line = "" ↔ ∀ c ∈ line.toList, isBlank c = true := by
  rw [← String.toList_eq_nil_iff, ← List.head?_eq_none_iff, head?_strip, List.head?_eq_none_iff,
    List.dropWhile_eq_nil_iff]

end Text

/-! ## Lines that are no commands -/

variable {line : String}

/-- A blank line has no tokens. -/
theorem tokenize_of_strip_eq_empty (h : Text.strip line = "") : tokenize line = .ok [] := by
  have hscan := scan_gap 0 [] (Text.strip_eq_empty_iff.mp h)
  rw [List.append_nil, scan_nil] at hscan
  exact congrArg Prod.fst hscan

/-- Whoever reads a blank line misses a token. -/
theorem parseText_of_strip_eq_empty (h : Text.strip line = "") {options : Option ParserOptions}
    {mode : Option ParseMode} (hgiven : options = none ∨ mode = none) :
    parseText line options mode = .error (.parse (.missingToken (.empty 0))) := by
  rw [parseText, tokenize_of_strip_eq_empty h]
  rcases hgiven with rfl | rfl
  · cases mode <;> rfl
  · cases options <;> rfl

/-- Where the first character of a line is that is not blank. -/
def firstMark (line : String) : Nat := line.toList.findIdx fun c => !Text.isBlank c

theorem firstMark_eq {gap rest : List Char} {c : Char} (hgap : ∀ d ∈ gap, Text.isBlank d = true)
    (hc : Text.isBlank c = false) (h : line.toList = gap ++ c :: rest) :
    firstMark line = gap.length := by
  have hnone : (gap.findIdx fun d => !Text.isBlank d) = gap.length :=
    List.findIdx_eq_length.mpr fun d hd => by simp [hgap d hd]
  rw [firstMark, h, List.findIdx_append, hnone, if_neg (Nat.lt_irrefl _), List.findIdx_cons, hc]
  simp

/-- A line that starts with a colon is refused there. -/
theorem tokenize_of_colon (h : (Text.strip line).toList.head? = some ':') :
    tokenize line = .error (.unknownCharacter (firstMark line) ":") := by
  rw [Text.head?_strip, List.head?_eq_some_iff] at h
  obtain ⟨rest, hrest⟩ := h
  have hgap : ∀ c ∈ line.toList.takeWhile Text.isBlank, Text.isBlank c = true := fun c hc =>
    mem_takeWhile_imp hc
  have hline : line.toList = line.toList.takeWhile Text.isBlank ++ ':' :: rest := by
    rw [← hrest, List.takeWhile_append_dropWhile]
  have hscan := scan_gap 0 (':' :: rest) hgap
  rw [← hline, scan_unknown _ rfl rfl rfl rfl, Nat.zero_add, ← firstMark_eq hgap rfl hline] at hscan
  exact congrArg Prod.fst hscan

namespace Console

/-- What can be read is addressed to the game. -/
theorem isGameLine_of_parseText {mode : ParseMode} {instruction : Instruction}
    (h : parseText line none (some mode) = .ok instruction) : isGameLine line = true := by
  rw [isGameLine, Bool.and_eq_true, bne_iff_ne, bne_iff_ne]
  refine ⟨fun hblank => ?_, fun hcolon => ?_⟩
  · rw [parseText_of_strip_eq_empty hblank (Or.inl rfl)] at h
    cases h
  · rw [parseText, tokenize_of_colon hcolon] at h
    cases h

/-! ## Lines that are commands -/

/-- The reply to a line that the console has run with the given outcome: it shows an echo of the
line and the line for the outcome, if there is one. -/
structure Relays (console : Console) (line : String) (outcome : Outcome) (reply : Reply) :
    Prop where
  lines : reply.lines =
    outcome.result.render.map fun shown => [console.settings.prompt ++ line, shown]
  root : reply.console.root = outcome.root
  records : reply.records = outcome.record.toList

theorem relays_submit (console : Console) (h : isGameLine line = true) :
    Relays console line (runLine line console.root console.settings.parseMode)
      (console.submit line) := by
  rw [isGameLine, Bool.and_eq_true, bne_iff_ne, bne_iff_ne] at h
  rw [submit, if_neg h.1, if_neg h.2]
  dsimp only
  split
  · next e hrender => exact ⟨by rw [hrender]; rfl, rfl, rfl⟩
  · next shown hrender => exact ⟨by rw [hrender]; rfl, rfl, rfl⟩

/-- The reply shows two lines exactly if there is a line for the outcome. -/
theorem Relays.lines_eq_ok_iff {console : Console} {outcome : Outcome} {reply : Reply}
    (h : Relays console line outcome reply) {shown : String} :
    reply.lines = .ok [console.settings.prompt ++ line, shown] ↔
      outcome.result.render = .ok shown := by
  rw [h.lines, map_eq_ok_iff]
  simp

/-- A line that is read as an instruction is run by carrying the instruction out. -/
theorem runLine_of_parseText {root : Root} {mode : ParseMode} {instruction : Instruction}
    (h : parseText line none (some mode) = .ok instruction) :
    runLine line root mode = runInstruction line instruction root := by
  have hrun := runCommand_mode line root mode
  rw [runCommand, h] at hrun
  exact (Except.ok.inj hrun).symm

theorem instruction_runInstruction (text : String) (instruction : Instruction) (root : Root) :
    (runInstruction text instruction root).result.instruction = some instruction := by
  rw [runInstruction]
  split <;> rfl

theorem root_runInstruction (text : String) (instruction : Instruction) (root : Root) :
    (runInstruction text instruction root).root = (root.handle instruction).2 := by
  rw [runInstruction]
  split
  · next hhandle => rw [hhandle]; rfl
  · next hhandle => rw [hhandle]; rfl

theorem relays_of_parseText {console : Console} {instruction : Instruction}
    (h : parseText line none (some console.settings.parseMode) = .ok instruction) :
    Relays console line (runInstruction line instruction console.root) (console.submit line) := by
  rw [← runLine_of_parseText h]
  exact relays_submit console (isGameLine_of_parseText h)

/-- A game with short integers that shows what comes of an instruction keeps them short. -/
theorem isShort_runInstruction {root : Root} {instruction : Instruction} {text shown : String}
    (hshort : root.IsShort) (h : (runInstruction text instruction root).result.render = .ok shown) :
    (runInstruction text instruction root).root.IsShort := by
  cases hhandle : (root.handle instruction).1 with
  | error e =>
    rw [runInstruction_of_error text hhandle]
    exact hshort
  | ok value =>
    rw [runInstruction_of_value text hhandle] at h ⊢
    exact Root.isShort_handle hshort hhandle h

/-! ## Main result -/

/-- A line that can be read as an instruction is run as a command: the game is the one the
instruction leaves, and the console shows an echo and the line for the outcome, exactly if there is
one. There is one while the integers of the game are short, and only then if they were short before.
A line that starts with a colon behind blanks could not have been a command, because the lexer
refuses the colon, and neither could a blank line, which has no tokens; both leave the game as it
was. -/
theorem submit_routes_lines (console : Console) (line : String) :
    (∀ instruction, parseText line none (some console.settings.parseMode) = .ok instruction →
      ∃ outcome, runCommand line console.root none (some console.settings.parseMode) = .ok outcome ∧
        outcome.result.instruction = some instruction ∧
        outcome.root = (console.root.handle instruction).2 ∧
        Relays console line outcome (console.submit line) ∧
        (∀ shown, (console.submit line).lines = .ok [console.settings.prompt ++ line, shown] ↔
          outcome.result.render = .ok shown) ∧
        (outcome.root.IsShort → ∃ shown, outcome.result.render = .ok shown) ∧
        (console.root.IsShort → ∀ shown, outcome.result.render = .ok shown →
          outcome.root.IsShort)) ∧
    ((Text.strip line).toList.head? = some ':' →
      tokenize line = .error (.unknownCharacter (firstMark line) ":") ∧
      (console.submit line).console.root = console.root) ∧
    (Text.strip line = "" →
      (∀ options mode, options = none ∨ mode = none →
        parseText line options mode = .error (.parse (.missingToken (.empty 0)))) ∧
      (console.submit line).console.root = console.root) := by
  refine ⟨fun instruction hread => ?_, fun hcolon => ⟨tokenize_of_colon hcolon, ?_⟩,
    fun hblank => ⟨fun options mode => parseText_of_strip_eq_empty hblank, ?_⟩⟩
  · have hrelays := relays_of_parseText hread
    refine ⟨_, by rw [runCommand, hread], instruction_runInstruction _ _ _,
      root_runInstruction _ _ _, hrelays, fun shown => hrelays.lines_eq_ok_iff, fun hshort => ?_,
      fun hshort shown => isShort_runInstruction hshort⟩
    rw [← runLine_of_parseText hread] at hshort ⊢
    exact exists_render_runLine hshort
  · rw [submit_control console hcolon]
    rfl
  · rw [submit_blank console hblank]
    rfl

/-- A command between blanks of two kinds, a line to the console behind a blank, and a line of one
blank. -/
theorem submit_routes_lines_blanks :
    let console := usual { coins := 3 }
    (console.submit "\u3000add(2)\x1f").lines = .ok ["~ \u3000add(2)\x1f", "5"] ∧
      tokenize "\u2028:help" = .error (.unknownCharacter 1 ":") ∧
      (console.submit "\u2028:help").console.root = { coins := 3 } ∧
      parseText "\u0085" none (some .strict) = .error (.parse (.missingToken (.empty 0))) ∧
      (console.submit "\u0085").console.root = { coins := 3 } := by
  intro console
  have hread : parseText "\u3000add(2)\x1f" none (some .strict) = .ok (.call "add" [2]) := by cbv
  have hearned : runLine "\u3000add(2)\x1f" { coins := 3 } .strict =
      .done "\u3000add(2)\x1f" (.call "add" [2]) (.integer 5) { coins := 5 } := by
    rw [runLine_of_parseText hread]
    rfl
  have hshown : (Value.integer 5).text = .ok "5" := showInteger_of_isShort (by decide)
  obtain ⟨hgame, -, -⟩ := submit_routes_lines console "\u3000add(2)\x1f"
  obtain ⟨-, hcontrol, -⟩ := submit_routes_lines console "\u2028:help"
  obtain ⟨-, -, hblank⟩ := submit_routes_lines console "\u0085"
  obtain ⟨outcome, hrun, -, -, -, hlines, -, -⟩ := hgame _ hread
  obtain rfl := hearned.symm.trans (Except.ok.inj ((runCommand_mode _ _ _).symm.trans hrun))
  obtain ⟨hrefused, hkept⟩ := hcontrol (by decide)
  obtain ⟨hmissing, hsame⟩ := hblank (by decide)
  exact ⟨(hlines "5").mpr hshown, hrefused, hkept, hmissing none (some .strict) (Or.inl rfl), hsame⟩

/-- A coin more than a full purse can show is counted, but nothing is shown of the command, not even
an echo. -/
theorem submit_full_purse_shows_nothing :
    let console := usual fullPurse
    parseText "add(1)" none (some console.settings.parseMode) = .ok (.call "add" [1]) ∧
      (console.submit "add(1)").console.root = { coins := (Nat.pow 10 maxShownDigits : Nat) } ∧
      (console.submit "add(1)").lines = .error .tooManyDigits := by
  intro console
  have hread : parseText "add(1)" none (some console.settings.parseMode) =
      .ok (.call "add" [1]) :=
    parseText_format (by decide +kernel : (Instruction.call "add" [1]).WellFormed) .strict
  have hvalue : (fullPurse.handle (.call "add" [1])).1 = .ok (.integer (fullPurse.coins + 1)) := rfl
  have htext : (Value.integer (fullPurse.coins + 1)).text = .error .tooManyDigits :=
    showInteger_of_not_isShort isShort_fullPurse.2
  have hrelays := relays_of_parseText hread
  refine ⟨hread, hrelays.root.trans ?_, ?_⟩
  · rw [root_runInstruction]
    exact congrArg (fun coins => Root.mk coins {}) coins_fullPurse_add_one
  · rw [lines_submit_usual (isGameLine_of_parseText hread) hread hvalue, htext]
    rfl

end Console

end CoinConsole
