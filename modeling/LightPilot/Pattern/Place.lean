set_option autoImplicit false

/-! # Places in a pattern

A pattern is refused at a span of it. Lines and columns count from one, and every character is one column
wide. -/

namespace LightPilot.Pattern

/-- A place before a character of a pattern, or at its end. -/
structure Place where
  line : Nat := 1
  column : Nat := 1
  deriving DecidableEq

namespace Place

/-- The place after a character that stands here. -/
def after (place : Place) (c : Char) : Place :=
  if c = '\n' then ⟨place.line + 1, 1⟩ else ⟨place.line, place.column + 1⟩

/-- Whether a place comes before another. -/
def precedes (place other : Place) : Bool :=
  place.line < other.line || (place.line == other.line && place.column < other.column)

end Place

/-- What stands between two places. -/
structure Span where
  start : Place
  stop : Place
  deriving DecidableEq

namespace Span

/-- The empty span at a place. -/
def empty (place : Place) : Span := ⟨place, place⟩

/-- The span from the start of one to the end of another. -/
def through (first last : Span) : Span := ⟨first.start, last.stop⟩

/-- Whether a span stays on one line. -/
def onOneLine (span : Span) : Bool :=
  span.start.line == span.stop.line

/-- Whether a span comes before another: the earlier start, or at the same start the earlier end. -/
def precedes (span other : Span) : Bool :=
  span.start.precedes other.start || (span.start == other.start && span.stop.precedes other.stop)

end Span

end LightPilot.Pattern
