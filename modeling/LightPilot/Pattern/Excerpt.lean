import LightPilot.Pattern.Fault
import LightPilot.Text.Lines

set_option autoImplicit false

/-! # The wording of a refusal

A refusal quotes the pattern line by line, and below each line carets mark the spans on it. A pattern with
line feeds is fenced and its lines are numbered; a span over several lines is told in words. -/

namespace LightPilot.Pattern

namespace Excerpt

/-- `count` times a character. -/
def times (count : Nat) (c : Char) : String :=
  String.ofList (List.replicate count c)

/-- The carets under the spans of one line, of which `column` columns have been written. An empty span has
one caret. -/
def carets (column : Nat) : List Span → String
  | [] => ""
  | span :: spans =>
    let gap := span.start.column - 1 - column
    let width := max 1 (span.stop.column - span.start.column)
    times gap ' ' ++ times width '^' ++ carets (column + gap + width) spans

/-- The number of lines of a pattern; an empty line after the last line feed counts. -/
def lineCount (pattern : String) : Nat :=
  let count := (Text.lines pattern).length
  if pattern.endsWith "\n" then count + 1 else count

/-- The width of line numbers, 0 where lines bear none. -/
def numberWidth (pattern : String) : Nat :=
  let count := lineCount pattern
  if count ≤ 1 then 0 else count.repr.length

/-- What stands in front of the line with a number. -/
def margin (width number : Nat) : String :=
  if width = 0 then times 4 ' '
  else times (width - number.repr.length) ' ' ++ number.repr ++ ": "

/-- A line with the carets under it. -/
def quoteLine (width : Nat) (spans : List Span) (line : String) (number : Nat) : String :=
  let marked := spans.filter fun span => span.start.line = number
  let quoted := margin width number ++ line ++ "\n"
  if marked.isEmpty then quoted
  else
    let indent := if width = 0 then 4 else width + 2
    quoted ++ times indent ' ' ++ carets 0 marked ++ "\n"

/-- A pattern with carets under spans that each stay on one line. -/
def quote (pattern : String) (spans : List Span) : String :=
  let width := numberWidth pattern
  String.join ((Text.lines pattern).zipIdx.map fun (line, i) => quoteLine width spans line (i + 1))

/-- A span over several lines in words. -/
def spell (span : Span) : String :=
  "on line " ++ span.start.line.repr ++ " (column " ++ span.start.column.repr ++ ") through line "
    ++ span.stop.line.repr ++ " (column " ++ (span.stop.column - 1).repr ++ ")"

end Excerpt

open Excerpt in
/-- The wording of a refusal of a pattern. -/
def Refusal.message (refusal : Refusal) (pattern : String) : String :=
  let spans :=
    match refusal.earlier? with
    | none => [refusal.span]
    | some earlier =>
      if earlier.precedes refusal.span then [earlier, refusal.span] else [refusal.span, earlier]
  let quoted := quote pattern (spans.filter Span.onOneLine)
  let fault := "error: " ++ refusal.fault.message
  if pattern.contains '\n' then
    let fence := times 79 '~' ++ "\n"
    let notes := (spans.filter (!·.onOneLine)).map spell
    "regex parse error:\n" ++ fence ++ quoted ++ fence
      ++ (if notes.isEmpty then "" else "\n".intercalate notes ++ "\n") ++ fault
  else "regex parse error:\n" ++ quoted ++ fault

end LightPilot.Pattern
