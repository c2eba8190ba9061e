set_option autoImplicit false

/-! # The lines of a text

A line ends with a line feed, and a carriage return right before it belongs to the ending. What follows the
last line feed is a line of its own unless it is empty. -/

namespace LightPilot.Text

/-- A line, last character first, without the carriage return of its ending. -/
def dropReturn : List Char → List Char
  | '\r' :: line => line
  | line => line

/-- The lines of a text of which `line`, last character first, has been read. -/
def linesAfter (line : List Char) : List Char → List String
  | [] => if line.isEmpty then [] else [String.ofList line.reverse]
  | c :: rest =>
    if c = '\n' then String.ofList (dropReturn line).reverse :: linesAfter [] rest
    else linesAfter (c :: line) rest

/-- The lines of a text. -/
def lines (text : String) : List String :=
  linesAfter [] text.toList

end LightPilot.Text
