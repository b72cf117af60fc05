/-!
# Spans

A span is a half-open range of positions in a text. Positions count code points, so a span cuts
the text it was made for: the characters from `start` up to, but not including, `stop`.
-/

namespace CoinConsole

/-- The half-open range of positions from `start` to `stop`. -/
structure Span where
  start : Nat
  stop : Nat
  start_le_stop : start ≤ stop := by omega
deriving DecidableEq

/-- Why two numbers do not bound a span. -/
inductive SpanError
  | negative
  | reversed
deriving DecidableEq

namespace SpanError

/-- The wording of the error. -/
def message : SpanError → String
  | negative => "TextRange positions cannot be negative"
  | reversed => "TextRange invariant violated: start > end"

end SpanError

namespace Span

/-- The empty span at a position. -/
def empty (position : Nat) : Span := { start := position, stop := position }

/-- The span of `length` positions from `start` on. -/
def ofLength (start length : Nat) : Span := { start, stop := start + length }

/-- The span between two numbers; a negative one is refused before a reversed pair. -/
def between (start stop : Int) : Except SpanError Span :=
  if start < 0 ∨ stop < 0 then .error .negative
  else if h : start ≤ stop then .ok { start := start.toNat, stop := stop.toNat }
  else .error .reversed

/-- The span of `length` positions from the number `start` on. -/
def ofOffset (start length : Int) : Except SpanError Span := between start (start + length)

/-- The number of positions in the span. -/
def length (span : Span) : Nat := span.stop - span.start

/-- The characters of `text` the span covers. -/
def slice (span : Span) (text : List Char) : List Char :=
  (text.drop span.start).take span.length

/-- The span moved by `offset` positions to the right. -/
def shift (span : Span) (offset : Nat) : Span :=
  { start := span.start + offset, stop := span.stop + offset
    start_le_stop := Nat.add_le_add_right span.start_le_stop offset }

/-- Spans are ordered by where they start, then by where they stop. -/
def le (a b : Span) : Bool := a.start < b.start || (a.start == b.start && a.stop ≤ b.stop)

/-- The spans in increasing order. -/
def sort (spans : List Span) : List Span := spans.mergeSort le

/-- The two ends as a pair. The limit on the digits of an integer that is shown (`showInteger`) is
left out: no position in a text has as many. -/
def pairText (span : Span) : String := s!"({span.start}, {span.stop})"

/-- The span with its name. -/
def text (span : Span) : String := s!"TextRange{span.pairText}"

end Span

end CoinConsole
