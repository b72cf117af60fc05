import CoinConsole.Console.Transcript

/-!
# Windows of a transcript

A window shows a block of the transcript: as many lines as it is high, or all of them if there are
fewer, and behind them the lines that are scrolled past (`IsWindow`). An offset is brought into the
range up to `maxOffset` before anything is shown. In that range each step back takes the newest
line away and puts the one above the oldest in front (`Slides`), so that scrolling from one end to
the other shows every line there is.
-/

namespace CoinConsole

/-! ## Blocks of a list -/

section

variable {α : Type} {start stop : Nat}

/-- A list is a block of it with what stands in front and what stands behind. -/
theorem take_append_block (h : start ≤ stop) (xs : List α) :
    xs.take start ++ (xs.take stop).drop start ++ xs.drop stop = xs := by
  have hfront : (xs.take stop).take start = xs.take start := by
    rw [List.take_take, Nat.min_eq_left h]
  rw [← hfront, List.take_append_drop, List.take_append_drop]

/-- Two blocks of the same length, one element apart, share all but one element each. -/
theorem exists_common_block {xs : List α} (h : start < stop) (hstop : stop < xs.length) :
    ∃ first common last, (xs.take stop).drop start = first :: common ∧
      (xs.take (stop + 1)).drop (start + 1) = common ++ [last] ∧
      xs = xs.take start ++ first :: common ++ last :: xs.drop (stop + 1) := by
  have hlength : (xs.take stop).length = stop := List.length_take_of_le (Nat.le_of_lt hstop)
  have hfirst : start < (xs.take stop).length := hlength.symm ▸ h
  refine ⟨(xs.take stop)[start], (xs.take stop).drop (start + 1), xs[stop],
    List.drop_eq_getElem_cons hfirst, ?_, ?_⟩
  · rw [← List.take_append_getElem hstop]
    exact List.drop_append_of_le_length hfirst
  · rw [← List.drop_eq_getElem_cons hfirst, ← List.drop_eq_getElem_cons hstop]
    exact (take_append_block (Nat.le_of_lt h) xs).symm

end

/-! ## Windows -/

/-- The lines shown are as many as a window of the given height can show, they stand together, and
`newer` lines stand behind them. -/
structure IsWindow (lines : List String) (height newer : Int) (shown : List String) : Prop where
  length_eq : (shown.length : Int) = min height lines.length
  stands : ∃ front behind, lines = front ++ shown ++ behind ∧ (behind.length : Int) = newer

/-- One step back from the lines shown, which have `newer` lines behind them, the newest of them is
gone, and the line above the oldest has come in front. -/
def Slides (lines : List String) (newer : Int) (shown further : List String) : Prop :=
  ∃ front oldest common newest behind,
    lines = front ++ oldest :: common ++ newest :: behind ∧ (behind.length : Int) = newer ∧
      shown = common ++ [newest] ∧ further = oldest :: common

/-- The line in a place of the transcript is one of the lines shown, which have `newer` lines
behind them. -/
def Covers (lines : List String) (newer : Int) (shown : List String) (place : Nat) : Prop :=
  ∃ front behind, lines = front ++ shown ++ behind ∧ (behind.length : Int) = newer ∧
    front.length ≤ place ∧ place < front.length + shown.length

namespace IsWindow

variable {lines shown : List String} {height newer : Int}

/-- Nothing is newer than a window that has not been scrolled. -/
theorem isSuffix (h : IsWindow lines height 0 shown) : shown <:+ lines := by
  obtain ⟨front, behind, hlines, hbehind⟩ := h.stands
  have hnil : behind = [] := List.length_eq_zero_iff.mp (by omega)
  rw [hnil, List.append_nil] at hlines
  exact ⟨front, hlines.symm⟩

/-- The lines in front of a window are those that are neither in it nor behind it. -/
theorem exists_front (h : IsWindow lines height newer shown) :
    ∃ front behind, lines = front ++ shown ++ behind ∧ (behind.length : Int) = newer ∧
      (front.length : Int) = lines.length - newer - min height lines.length := by
  obtain ⟨front, behind, hlines, hbehind⟩ := h.stands
  have hlength := congrArg List.length hlines
  rw [List.length_append, List.length_append] at hlength
  have hshown := h.length_eq
  exact ⟨front, behind, hlines, hbehind, by omega⟩

/-- Nothing is older than a window with all the other lines behind it. -/
theorem isPrefix (h : IsWindow lines height newer shown)
    (hnewer : newer = lines.length - min height lines.length) : shown <+: lines := by
  obtain ⟨front, behind, hlines, -, hfront⟩ := h.exists_front
  have hnil : front = [] := List.length_eq_zero_iff.mp (by omega)
  rw [hnil, List.nil_append] at hlines
  exact ⟨behind, hlines.symm⟩

/-- A window covers the places behind those in front of it, up to the lines that are newer. -/
theorem covers (h : IsWindow lines height newer shown) {place : Nat}
    (holder : lines.length - newer - min height lines.length ≤ place)
    (hnewer : place < lines.length - newer) : Covers lines newer shown place := by
  obtain ⟨front, behind, hlines, hbehind, hfront⟩ := h.exists_front
  have hshown := h.length_eq
  exact ⟨front, behind, hlines, hbehind, by omega, by omega⟩

end IsWindow

namespace Transcript

variable {height scroll : Int}

/-! ## Offsets -/

/-- The offset of the window with the oldest lines. -/
def maxOffset (transcript : Transcript) (height : Int) : Int := max 0 (transcript.length - height)

theorem maxOffset_nonneg (transcript : Transcript) (height : Int) :
    0 ≤ transcript.maxOffset height := Int.le_max_left 0 _

theorem clampScroll_nonneg (transcript : Transcript) (height scroll : Int) :
    0 ≤ transcript.clampScroll height scroll := by
  unfold clampScroll
  split
  · exact Int.le_refl 0
  · exact Int.le_max_left 0 _

theorem clampScroll_le (transcript : Transcript) (height scroll : Int) :
    transcript.clampScroll height scroll ≤ transcript.maxOffset height := by
  unfold clampScroll maxOffset
  split <;> omega

/-- An offset is cut down to the greatest one. -/
theorem clampScroll_eq_min (transcript : Transcript) (height : Int) (hscroll : 0 ≤ scroll) :
    transcript.clampScroll height scroll = min scroll (transcript.maxOffset height) := by
  unfold clampScroll maxOffset
  split <;> omega

theorem clampScroll_eq_self (transcript : Transcript) (hscroll : 0 ≤ scroll)
    (hmax : scroll ≤ transcript.maxOffset height) :
    transcript.clampScroll height scroll = scroll := by
  rw [clampScroll_eq_min transcript height hscroll, Int.min_eq_left hmax]

/-- A window that has not been scrolled shows the newest lines. -/
theorem clampScroll_zero (transcript : Transcript) (height : Int) :
    transcript.clampScroll height 0 = 0 :=
  transcript.clampScroll_eq_self (Int.le_refl 0) (transcript.maxOffset_nonneg height)

theorem clampScroll_mono (transcript : Transcript) (height : Int) {further : Int}
    (h : scroll ≤ further) :
    transcript.clampScroll height scroll ≤ transcript.clampScroll height further := by
  unfold clampScroll
  split <;> omega

theorem clampScroll_clampScroll (transcript : Transcript) (height scroll : Int) :
    transcript.clampScroll height (transcript.clampScroll height scroll) =
      transcript.clampScroll height scroll :=
  transcript.clampScroll_eq_self (transcript.clampScroll_nonneg height scroll)
    (transcript.clampScroll_le height scroll)

/-! ## What is visible -/

/-- What is visible depends on the offset only as far as that has been brought into the range. -/
theorem visible_clampScroll (transcript : Transcript) (height scroll : Int) :
    transcript.visible height (transcript.clampScroll height scroll) =
      transcript.visible height scroll := by
  rw [visible, visible, clampScroll_clampScroll]

/-- What is visible is the block that ends where the offset says. -/
theorem exists_visible_eq_block (transcript : Transcript) (hheight : 1 ≤ height) (scroll : Int) :
    ∃ start stop : Nat,
      (stop : Int) = transcript.length - transcript.clampScroll height scroll ∧
        (stop : Int) - start = min height transcript.length ∧
        transcript.visible height scroll = (transcript.lines.take stop).drop start := by
  have hnonneg := transcript.clampScroll_nonneg height scroll
  have hle := transcript.clampScroll_le height scroll
  have hvisible : transcript.visible height scroll =
      (transcript.lines.take (transcript.length - transcript.clampScroll height scroll).toNat).drop
        (max 0 (transcript.length - transcript.clampScroll height scroll - height)).toNat := by
    rw [visible, if_neg (by omega)]
  rw [maxOffset] at hle
  generalize transcript.clampScroll height scroll = offset at hnonneg hle hvisible ⊢
  exact ⟨_, _, by omega, by omega, hvisible⟩

theorem isWindow_visible (transcript : Transcript) (hheight : 1 ≤ height) (scroll : Int) :
    IsWindow transcript.lines height (transcript.clampScroll height scroll)
      (transcript.visible height scroll) := by
  have hnonneg := transcript.clampScroll_nonneg height scroll
  obtain ⟨start, stop, hstop, hlength, hvisible⟩ := transcript.exists_visible_eq_block hheight scroll
  rw [length] at hstop hlength
  have hblock := take_append_block (show start ≤ stop by omega) transcript.lines
  rw [hvisible]
  refine ⟨?_, _, _, hblock.symm, ?_⟩
  · rw [List.length_drop, List.length_take]
    omega
  · rw [List.length_drop]
    omega

theorem slides_visible (transcript : Transcript) (hheight : 1 ≤ height) (hscroll : 0 ≤ scroll)
    (hmax : scroll < transcript.maxOffset height) :
    Slides transcript.lines scroll (transcript.visible height scroll)
      (transcript.visible height (scroll + 1)) := by
  obtain ⟨start, stop, hstop, hlength, hvisible⟩ := transcript.exists_visible_eq_block hheight scroll
  obtain ⟨start', stop', hstop', hlength', hvisible'⟩ :=
    transcript.exists_visible_eq_block hheight (scroll + 1)
  rw [transcript.clampScroll_eq_self hscroll (Int.le_of_lt hmax)] at hstop
  rw [transcript.clampScroll_eq_self (by omega) hmax] at hstop'
  -- the block one step back starts and stops one line earlier
  obtain rfl : stop = stop' + 1 := by omega
  obtain rfl : start = start' + 1 := by omega
  rw [length] at hstop hlength'
  obtain ⟨oldest, common, newest, hfurther, hshown, hlines⟩ :=
    exists_common_block (show start' < stop' by omega)
      (show stop' < transcript.lines.length by omega)
  refine ⟨_, oldest, common, newest, _, hlines, ?_, hvisible.trans hshown, hvisible'.trans hfurther⟩
  rw [List.length_drop]
  omega

/-- Every line comes into sight at some offset in the range: where the window would end with the
line, or at the greatest offset. -/
theorem exists_covers (transcript : Transcript) (hheight : 1 ≤ height) {place : Nat}
    (hplace : place < transcript.length) :
    ∃ scroll, 0 ≤ scroll ∧ scroll ≤ transcript.maxOffset height ∧
      Covers transcript.lines scroll (transcript.visible height scroll) place := by
  obtain ⟨wanted, hwanted⟩ : ∃ wanted : Int, wanted = transcript.length - 1 - place := ⟨_, rfl⟩
  have hpos : 0 ≤ wanted := by omega
  have hoffset := transcript.clampScroll_eq_min height hpos
  have hwindow := transcript.isWindow_visible hheight wanted
  rw [← visible_clampScroll] at hwindow
  refine ⟨_, transcript.clampScroll_nonneg height wanted, transcript.clampScroll_le height wanted,
    hwindow.covers ?_ ?_⟩
  · rw [hoffset, maxOffset]
    rw [length] at hplace hwanted ⊢
    omega
  · rw [hoffset]
    rw [length] at hplace hwanted
    omega

/-! ## Main result -/

/-- How windows of the given height move over a transcript. -/
structure Scrolls (transcript : Transcript) (height : Int) : Prop where
  inRange : ∀ scroll, 0 ≤ transcript.clampScroll height scroll ∧
    transcript.clampScroll height scroll ≤ transcript.maxOffset height
  monotone : ∀ scroll further, scroll ≤ further →
    transcript.clampScroll height scroll ≤ transcript.clampScroll height further
  idempotent : ∀ scroll, transcript.clampScroll height (transcript.clampScroll height scroll) =
    transcript.clampScroll height scroll
  kept : ∀ scroll, 0 ≤ scroll → scroll ≤ transcript.maxOffset height →
    transcript.clampScroll height scroll = scroll
  clamped : ∀ scroll, transcript.visible height scroll =
    transcript.visible height (transcript.clampScroll height scroll)
  isWindow : ∀ scroll, IsWindow transcript.lines height (transcript.clampScroll height scroll)
    (transcript.visible height scroll)
  slides : ∀ scroll, 0 ≤ scroll → scroll < transcript.maxOffset height →
    Slides transcript.lines scroll (transcript.visible height scroll)
      (transcript.visible height (scroll + 1))
  newest : transcript.visible height 0 <:+ transcript.lines
  oldest : transcript.visible height (transcript.maxOffset height) <+: transcript.lines
  covers : ∀ place, place < transcript.length →
    ∃ scroll, 0 ≤ scroll ∧ scroll ≤ transcript.maxOffset height ∧
      Covers transcript.lines scroll (transcript.visible height scroll) place

/-- A window of a transcript is full and within it, whatever the offset. From the newest lines to
the oldest it moves by one line at each step, and no line is left out. A window without height
shows nothing. -/
theorem visible_full_and_within (transcript : Transcript) (height : Int) :
    (1 ≤ height → transcript.Scrolls height) ∧
      (height ≤ 0 → ∀ scroll, transcript.visible height scroll = []) := by
  constructor
  · intro hheight
    have hmax := transcript.maxOffset_nonneg height
    have hfirst := transcript.isWindow_visible hheight 0
    have hlast := transcript.isWindow_visible hheight (transcript.maxOffset height)
    rw [clampScroll_zero] at hfirst
    rw [transcript.clampScroll_eq_self hmax (Int.le_refl _)] at hlast
    exact {
      inRange := fun scroll =>
        ⟨transcript.clampScroll_nonneg height scroll, transcript.clampScroll_le height scroll⟩
      monotone := fun _ _ => transcript.clampScroll_mono height
      idempotent := transcript.clampScroll_clampScroll height
      kept := fun _ => transcript.clampScroll_eq_self
      clamped := fun scroll => (transcript.visible_clampScroll height scroll).symm
      isWindow := transcript.isWindow_visible hheight
      slides := fun _ => transcript.slides_visible hheight
      newest := hfirst.isSuffix
      oldest := hlast.isPrefix (by rw [maxOffset, length]; omega)
      covers := fun _ => transcript.exists_covers hheight }
  · intro hheight scroll
    rw [visible, if_pos hheight]

/-- A transcript with three lines. -/
def threeLines : Transcript :=
  { limit := 3, lines := ["~ add(5)", "5", "~ :quit"], length_le := by decide }

/-- Scrolled back too far, a window of two lines shows the two oldest of three; from the newest ones
that is one step. -/
theorem visible_full_and_within_three_lines :
    threeLines.visible 2 1000 = ["~ add(5)", "5"] ∧
      Slides threeLines.lines 0 ["5", "~ :quit"] ["~ add(5)", "5"] ∧
      threeLines.visible 0 1 = [] := by
  have hscrolls := (visible_full_and_within threeLines 2).1 (by decide)
  have hnone := (visible_full_and_within threeLines 0).2 (by decide)
  exact ⟨hscrolls.clamped 1000, hscrolls.slides 0 (by decide) (by decide), hnone 1⟩

end Transcript

end CoinConsole
