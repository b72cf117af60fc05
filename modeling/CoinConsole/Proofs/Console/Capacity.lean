import CoinConsole.Proofs.Console.Scrollback

/-!
# Which settings give a console

All settings are accepted that keep at least one line (`Settings.ofValues_values`), but a transcript
has a greatest limit. A console starts exactly with the settings whose scrollback is within that
limit (`Console.start_eq_ok_iff`), and then it works: it has nothing in its transcript, never keeps
more lines than the scrollback, and answers every line while the integers of the game stay short
(`Console.IsWorking`).
-/

namespace CoinConsole

namespace Settings

/-! ## Accepted settings -/

/-- The settings as a caller gives them, each with its value. -/
def values (settings : Settings) : SettingsValues where
  savePath := .value settings.savePath
  parseMode := .value settings.parseMode.label
  scrollback := .value settings.scrollback
  prompt := .value settings.prompt

theorem readMode_label (mode : ParseMode) : readMode (.value mode.label) = .ok mode := by
  cases mode <;> rfl

theorem readLimit_natCast {n : Nat} (h : 0 < n) : readLimit n = .ok ⟨n, h⟩ := by
  have hpos : 0 < (n : Int) := by omega
  rw [readLimit, dif_pos hpos]
  rfl

/-- Settings are accepted whatever their path, mode and prompt, and however many lines they keep. -/
theorem ofValues_values (environment : Option String) (settings : Settings) :
    ofValues environment settings.values = .ok settings := by
  have hmode := readMode_label settings.parseMode
  have hlimit := readLimit_natCast settings.scrollback_pos
  simp only [ofValues, values, readPath, readScrollback, readPrompt, hmode, hlimit]

end Settings

namespace Console

variable {root : Root} {settings : Settings} {console : Console}

/-! ## Consoles that start -/

theorem exists_start_iff :
    (∃ console, start root settings = .ok console) ↔
      (settings.scrollback : Int) ≤ Transcript.maxLimit := by
  constructor
  · rintro ⟨console, hstart⟩
    exact (start_eq_ok_iff.mp hstart).1
  · intro hlimit
    exact ⟨fresh root settings, start_eq_ok_iff.mpr ⟨hlimit, rfl⟩⟩

/-- The transcript is never longer than the scrollback. -/
theorem length_submitAll_le (hstart : start root settings = .ok console) (lines : List String) :
    (submitAll lines console).2.transcript.length ≤ settings.scrollback := by
  obtain ⟨hlimit, -⟩ := start_transcript hstart
  have hkept := (transcript_submitAll lines console).1.trans hlimit
  exact hkept ▸ (submitAll lines console).2.transcript.length_le

/-- A new console on a game: nothing has been shown yet, and no lines can bring it to keep more than
the scrollback, or to fail while the integers of the game stay short. -/
structure IsWorking (root : Root) (settings : Settings) (console : Console) : Prop where
  root_eq : console.root = root
  settings_eq : console.settings = settings
  running : console.running = true
  empty : console.transcript.lines = []
  bounded : ∀ lines, (submitAll lines console).2.transcript.length ≤ settings.scrollback
  shows : ∀ lines, Command.StaysShort (addressed settings.parseMode lines) root →
    AllShown lines console

theorem isWorking_of_start (hstart : start root settings = .ok console) :
    IsWorking root settings console := by
  obtain ⟨hroot, hsettings, hrunning⟩ := start_eq_ok hstart
  refine ⟨hroot, hsettings, hrunning, (start_transcript hstart).2, length_submitAll_le hstart,
    fun lines hshort => allShown_of_staysShort ?_⟩
  rwa [hroot, hsettings]

/-! ## Main result -/

/-- All settings are accepted, but a console starts exactly if its scrollback is within the greatest
limit of a transcript. A console that starts works; one that does not is refused for that reason. -/
theorem start_works_iff (environment : Option String) (settings : Settings) (root : Root) :
    Settings.ofValues environment settings.values = .ok settings ∧
      ((∃ console, start root settings = .ok console) ↔
        (settings.scrollback : Int) ≤ Transcript.maxLimit) ∧
      (∀ error, start root settings = .error error ↔
        error = .tooLarge ∧ Transcript.maxLimit < settings.scrollback) ∧
      ∀ console, start root settings = .ok console → IsWorking root settings console :=
  ⟨Settings.ofValues_values environment settings, exists_start_iff, fun _ => start_eq_error_iff,
    fun _ => isWorking_of_start⟩

/-- The usual settings, but with another scrollback. -/
def settingsKeeping (scrollback : Nat) (hpos : 0 < scrollback) : Settings :=
  { usualSettings with scrollback, scrollback_pos := hpos }

/-- The greatest scrollback works. -/
theorem start_works_iff_greatest :
    ∃ console, start {} (settingsKeeping 0x7FFFFFFFFFFFFFFF (by decide)) = .ok console ∧
      AllShown [":history 5", " "] console := by
  obtain ⟨-, hstarts, -, hworks⟩ :=
    start_works_iff none (settingsKeeping 0x7FFFFFFFFFFFFFFF (by decide)) {}
  obtain ⟨console, hstart⟩ := hstarts.mpr (by decide)
  refine ⟨console, hstart, (hworks console hstart).shows _ ?_⟩
  rw [show addressed _ [":history 5", " "] = [] by rfl]
  exact Command.stays_nil ⟨by decide, by decide⟩

/-- One line more is accepted as a scrollback, but there is no console for it. -/
theorem start_fails_above_greatest :
    Settings.ofValues none { scrollback := .value 0x8000000000000000 } =
        .ok (settingsKeeping 0x8000000000000000 (by decide)) ∧
      start {} (settingsKeeping 0x8000000000000000 (by decide)) = .error .tooLarge :=
  ⟨rfl, start_eq_error_iff.mpr ⟨rfl, by decide⟩⟩

end Console

end CoinConsole
