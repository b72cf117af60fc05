/-!
# Transcripts

A transcript keeps the newest lines of a console, up to a limit; when it is full, the oldest lines
drop off. A window shows some of the lines, scrolled back from the newest one by an offset that is
never allowed to run past the oldest line.
-/

namespace CoinConsole

/-- The newest `limit` lines of what has been added. -/
structure Transcript where
  limit : Nat
  lines : List String
  length_le : lines.length ≤ limit
deriving DecidableEq

/-- Why there is no transcript with a given limit. -/
inductive TranscriptError
  | notPositive
  | tooLarge
deriving DecidableEq

/-- The wording of the error. -/
def TranscriptError.message : TranscriptError → String
  | notPositive => "max_lines must be > 0"
  | tooLarge => "limit is too large"

/-- The last `n` elements of a list. -/
def lastOf {α : Type} (n : Nat) (xs : List α) : List α := xs.drop (xs.length - n)

theorem length_lastOf_le {α : Type} (n : Nat) (xs : List α) : (lastOf n xs).length ≤ n := by
  rw [lastOf, List.length_drop]
  omega

namespace Transcript

/-- The greatest limit. -/
def maxLimit : Int := 0x7FFFFFFFFFFFFFFF

/-- An empty transcript with the given limit. -/
def ofLimit (limit : Int) : Except TranscriptError Transcript :=
  if limit ≤ 0 then .error .notPositive
  else if maxLimit < limit then .error .tooLarge
  else .ok { limit := limit.toNat, lines := [], length_le := Nat.zero_le _ }

/-- The number of lines kept. -/
def length (transcript : Transcript) : Nat := transcript.lines.length

/-- Adds lines. -/
def extend (transcript : Transcript) (lines : List String) : Transcript :=
  { transcript with
    lines := lastOf transcript.limit (transcript.lines ++ lines)
    length_le := length_lastOf_le _ _ }

/-- Adds a line. -/
def append (transcript : Transcript) (line : String) : Transcript := transcript.extend [line]

/-- The offset nearest to `scroll` at which a window of the given height is full. -/
def clampScroll (transcript : Transcript) (height scroll : Int) : Int :=
  if transcript.length ≤ height then 0 else max 0 (min scroll (transcript.length - height))

/-- The lines in a window of the given height, `scroll` lines back from the newest one. -/
def visible (transcript : Transcript) (height : Int) (scroll : Int := 0) : List String :=
  if height ≤ 0 then []
  else
    let stop := transcript.length - transcript.clampScroll height scroll
    let start := max 0 (stop - height)
    (transcript.lines.take stop.toNat).drop start.toNat

end Transcript

end CoinConsole
