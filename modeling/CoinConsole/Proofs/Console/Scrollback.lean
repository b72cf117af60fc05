import CoinConsole.Proofs.Console.Submission
import CoinConsole.Proofs.Console.Window

/-!
# Scrollback

The transcript of a console is the tail of everything its replies have shown, echoes included
(`Console.transcript_submitAll`): what drops off at the front is never asked for again. A line that
asks for history reads the transcript as it was before the line, and what it shows is added like
anything else, so it may push out the very lines it shows (`transcript_is_tail`).
-/

namespace CoinConsole

/-! ## Tails of lists -/

section

variable {α : Type}

theorem length_lastOf (n : Nat) (xs : List α) : (lastOf n xs).length = min n xs.length := by
  rw [lastOf, List.length_drop]
  omega

theorem lastOf_of_length_le {n : Nat} {xs : List α} (h : xs.length ≤ n) : lastOf n xs = xs := by
  rw [lastOf, Nat.sub_eq_zero_of_le h, List.drop_zero]

theorem lastOf_min (n : Nat) (xs : List α) : lastOf (min n xs.length) xs = lastOf n xs := by
  rw [lastOf, lastOf]
  congr 1
  omega

/-- Elements that have dropped off make no difference to what is kept later. -/
theorem lastOf_lastOf_append (n : Nat) (xs ys : List α) :
    lastOf n (lastOf n xs ++ ys) = lastOf n (xs ++ ys) := by
  have hsuffix : lastOf n xs ++ ys = (xs ++ ys).drop (xs.length - n) := by
    rw [lastOf, List.drop_append_of_le_length (Nat.sub_le _ _)]
  rw [hsuffix, lastOf, lastOf, List.drop_drop, List.length_drop, List.length_append]
  congr 1
  omega

end

/-! ## What replies add -/

/-- The lines a reply has shown, echo first; none if its value cannot be shown. -/
def Reply.added (reply : Reply) : List String :=
  match reply.lines with
  | .error _ => []
  | .ok lines => lines

theorem Transcript.extend_nil (transcript : Transcript) : transcript.extend [] = transcript := by
  obtain ⟨limit, lines, hlength⟩ := transcript
  simp only [extend, List.append_nil, lastOf_of_length_le hlength]

/-- A window at the end of a transcript shows its last lines. -/
theorem Transcript.visible_eq (transcript : Transcript) (height : Int) :
    transcript.visible height =
      lastOf (min height.toNat transcript.length) transcript.lines := by
  rw [Transcript.length, lastOf_min, visible]
  by_cases hnone : height ≤ 0
  · rw [if_pos hnone, Int.toNat_of_nonpos hnone, lastOf, Nat.sub_zero, List.drop_length]
  · rw [if_neg hnone, clampScroll_zero, lastOf]
    dsimp only
    rw [Int.sub_zero, Transcript.length, Int.toNat_natCast, List.take_length]
    congr 1
    omega

namespace Console

variable {console : Console} {line rest : String}

/-- What a reply has shown is added to the transcript, and nothing else. -/
theorem transcript_submit (console : Console) (line : String) :
    (console.submit line).console.transcript =
      console.transcript.extend (console.submit line).added := by
  have hnothing := console.transcript.extend_nil.symm
  unfold submit
  dsimp only
  split
  · rfl
  · split
    · rfl
    · split
      · exact hnothing
      · rfl

/-- The transcript is the tail of what was in it and of what all replies have shown. -/
theorem transcript_submitAll (lines : List String) (console : Console) :
    (submitAll lines console).2.transcript.limit = console.transcript.limit ∧
      (submitAll lines console).2.transcript.lines =
        lastOf console.transcript.limit
          (console.transcript.lines ++ (submitAll lines console).1.flatMap Reply.added) := by
  induction lines generalizing console with
  | nil =>
    refine ⟨rfl, ?_⟩
    rw [submitAll, List.flatMap_nil, List.append_nil]
    exact (lastOf_of_length_le console.transcript.length_le).symm
  | cons line rest ih =>
    have hstep := transcript_submit console line
    obtain ⟨hlimit, hlines⟩ := ih (console.submit line).console
    rw [hstep] at hlimit hlines
    refine ⟨hlimit, hlines.trans ?_⟩
    simp only [Transcript.extend, lastOf_lastOf_append, submitAll, List.flatMap_cons,
      List.append_assoc]

/-! ## Lines that ask for history -/

/-- A line is split at its first space, if it has one. -/
theorem splitCommand_eq_iff {text name : String} :
    splitCommand text = (name, rest) ↔ ' ' ∉ name.toList ∧
      (text = name ∧ rest = "" ∨ text = name ++ " " ++ rest) := by
  have hsplit : splitCommand text = (name, rest) ↔
      text.toList.takeWhile (· != ' ') = name.toList ∧
        (text.toList.dropWhile (· != ' ')).drop 1 = rest.toList := by
    rw [splitCommand, Prod.mk.injEq, ← String.toList_inj, ← String.toList_inj,
      String.toList_ofList, String.toList_ofList]
  have happend : (name ++ " " ++ rest).toList = name.toList ++ ' ' :: rest.toList := by simp
  rw [hsplit]
  constructor
  · rintro ⟨hname, hrest⟩
    have hspace : ' ' ∉ name.toList := by
      intro hmem
      rw [← hname] at hmem
      exact absurd (mem_takeWhile_imp hmem) (by decide)
    refine ⟨hspace, ?_⟩
    have htext := List.takeWhile_append_dropWhile (p := (· != ' ')) (l := text.toList)
    rw [hname] at htext
    cases hdrop : text.toList.dropWhile (· != ' ') with
    | nil =>
      rw [hdrop] at hrest htext
      rw [List.append_nil] at htext
      exact Or.inl ⟨String.toList_inj.mp htext.symm, String.toList_inj.mp hrest.symm⟩
    | cons c later =>
      have hc := List.head?_dropWhile_not (· != ' ') text.toList
      rw [hdrop] at hrest htext hc
      obtain rfl : c = ' ' := by simpa using hc
      obtain rfl : later = rest.toList := hrest
      exact Or.inr (String.toList_inj.mp (htext.symm.trans happend.symm))
  · rintro ⟨hspace, htext⟩
    have hname : ∀ c ∈ name.toList, (c != ' ') = true := by
      rintro c hc
      rw [bne_iff_ne]
      rintro rfl
      exact hspace hc
    rcases htext with ⟨rfl, rfl⟩ | rfl
    · have hstop := stopsAt_nil (· != ' ')
      have htake := takeWhile_append_of_stopsAt hname hstop
      have hdrop := dropWhile_append_of_stopsAt hname hstop
      rw [List.append_nil] at htake hdrop
      exact ⟨htake, by rw [hdrop]; rfl⟩
    · have hstop : StopsAt (· != ' ') (' ' :: rest.toList) := stopsAt_cons (by decide)
      rw [happend, takeWhile_append_of_stopsAt hname hstop, dropWhile_append_of_stopsAt hname hstop]
      exact ⟨rfl, rfl⟩

/-- What is shown of the lines of a transcript for the text behind the word for history. -/
inductive Replays (lines : List String) : String → List String → Prop
  | usual : Replays lines "" (lastOf (min 20 lines.length) lines)
  | none {argument : String} {height : Int} (number : Text.readInteger argument = some height)
      (nonpos : height ≤ 0) : Replays lines argument []
  | newest {argument : String} {height : Int} (number : Text.readInteger argument = some height)
      (pos : 0 < height) : Replays lines argument (lastOf (min height.toNat lines.length) lines)
  | refused {argument : String} (given : argument ≠ "")
      (noNumber : Text.readInteger argument = none) :
      Replays lines argument ["Usage: :history [lines]"]

theorem replays_history (transcript : Transcript) (argument : String) :
    Replays transcript.lines argument (history transcript argument) := by
  rw [history]
  split
  · next hempty =>
    rw [hempty, Transcript.visible_eq]
    exact .usual
  · next hgiven =>
    split
    · next hnumber => exact .refused hgiven hnumber
    · next height hnumber =>
      by_cases hpos : 0 < height
      · rw [Transcript.visible_eq]
        exact .newest hnumber hpos
      · rw [Transcript.visible, if_pos (Int.not_lt.mp hpos)]
        exact .none hnumber (Int.not_lt.mp hpos)

/-- For a number, the lines shown are the newest ones, in their order and as many as there are. -/
theorem Replays.eq_of_number {lines shown : List String} {argument : String} {height : Int}
    (h : Replays lines argument shown) (hnumber : Text.readInteger argument = some height) :
    shown = lastOf (min height.toNat lines.length) lines := by
  cases h with
  | usual => cases hnumber
  | none number nonpos =>
    obtain rfl := Option.some.inj (number.symm.trans hnumber)
    rw [Int.toNat_of_nonpos nonpos, Nat.zero_min, lastOf, Nat.sub_zero, List.drop_length]
  | newest number =>
    obtain rfl := Option.some.inj (number.symm.trans hnumber)
    rfl
  | refused _ noNumber =>
    rw [noNumber] at hnumber
    cases hnumber

/-- A line asks for history with a text behind the word, or with none. -/
def AsksHistory (line rest : String) : Prop :=
  Text.strip line = ":history" ∧ rest = "" ∨ Text.strip line = ":history " ++ rest

theorem control_of_asksHistory (transcript : Transcript) (h : AsksHistory line rest) :
    control transcript (Text.strip line) = (history transcript (Text.strip rest), true) := by
  have hsplit : splitCommand (Text.strip line) = (":history", rest) :=
    splitCommand_eq_iff.mpr ⟨by decide, h⟩
  rw [control, hsplit]
  rfl

theorem head?_of_asksHistory (h : AsksHistory line rest) :
    (Text.strip line).toList.head? = some ':' := by
  rcases h with ⟨hline, -⟩ | hline
  · rw [hline]
    rfl
  · rw [hline, String.toList_append]
    rfl

/-- A line that asks for history is answered from the transcript as it was before the line. -/
theorem lines_submit_of_asksHistory (console : Console) (h : AsksHistory line rest) :
    (console.submit line).lines = .ok ((console.settings.prompt ++ line) ::
      history console.transcript (Text.strip rest)) := by
  rw [submit_control console (head?_of_asksHistory h), control_of_asksHistory _ h]

theorem start_transcript {root : Root} {settings : Settings}
    (h : start root settings = .ok console) :
    console.transcript.limit = settings.scrollback ∧ console.transcript.lines = [] := by
  obtain ⟨-, rfl⟩ := start_eq_ok_iff.mp h
  exact ⟨rfl, rfl⟩

/-! ## Main result -/

/-- After any lines, the transcript of a new console is the tail of all that was shown, as long as
the scrollback or as all of it. A line that asks for history then is answered with an echo and lines
of the transcript as it is, and both are added to it. -/
theorem transcript_is_tail {root : Root} {settings : Settings}
    (hstart : start root settings = .ok console) (lines : List String) :
    let shown := (submitAll lines console).1.flatMap Reply.added
    let after := (submitAll lines console).2
    after.transcript.lines = lastOf settings.scrollback shown ∧
      after.transcript.length = min settings.scrollback shown.length ∧
      ∀ line rest, AsksHistory line rest → ∃ replayed,
        Replays after.transcript.lines (Text.strip rest) replayed ∧
        (after.submit line).lines = .ok ((settings.prompt ++ line) :: replayed) ∧
        (after.submit line).console.transcript.lines =
          lastOf settings.scrollback (shown ++ (settings.prompt ++ line) :: replayed) := by
  intro shown after
  obtain ⟨hlimit, hempty⟩ := start_transcript hstart
  obtain ⟨-, hsettings, -⟩ := start_eq_ok hstart
  obtain ⟨hafter, htail⟩ := transcript_submitAll lines console
  rw [hempty, List.nil_append, hlimit] at htail
  rw [hlimit] at hafter
  refine ⟨htail, ?_, fun line rest hasks => ?_⟩
  · rw [Transcript.length, htail, length_lastOf]
  · have hlines := lines_submit_of_asksHistory after hasks
    have hprompt : after.settings.prompt = settings.prompt := by
      rw [settings_submitAll, hsettings]
    rw [hprompt] at hlines
    refine ⟨_, replays_history after.transcript (Text.strip rest), hlines, ?_⟩
    rw [transcript_submit, Reply.added, hlines, Transcript.extend]
    dsimp only
    rw [hafter, htail, lastOf_lastOf_append]

/-- Settings of a console that keeps two lines. -/
def twoLineSettings : Settings :=
  { usualSettings with scrollback := 2, scrollback_pos := by decide }

/-- A console that keeps two lines is asked for the last five: it has two to show, and these push
out the echo of the question. -/
theorem transcript_is_tail_two_lines :
    ∃ console, start {} twoLineSettings = .ok console ∧
      let after := (submitAll ["", " "] console).2
      after.transcript.lines = ["~ ", "~  "] ∧
        (after.submit ":history 5").lines = .ok ["~ :history 5", "~ ", "~  "] ∧
        (after.submit ":history 5").console.transcript.lines = ["~ ", "~  "] := by
  obtain ⟨console, hstart, hshown⟩ : ∃ console, start {} twoLineSettings = .ok console ∧
      (submitAll ["", " "] console).1.flatMap Reply.added = ["~ ", "~  "] := ⟨_, rfl, by rfl⟩
  obtain ⟨htail, -, hhistory⟩ := transcript_is_tail hstart ["", " "]
  obtain ⟨replayed, hreplays, hlines, hlast⟩ := hhistory ":history 5" "5" (Or.inr (by decide))
  rw [hshown] at htail hlast
  rw [htail] at hreplays
  obtain rfl := hreplays.eq_of_number (by decide : Text.readInteger (Text.strip "5") = some 5)
  exact ⟨console, hstart, htail, hlines, hlast⟩

end Console

end CoinConsole
