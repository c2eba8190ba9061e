import LightPilot.Pattern.Fault
import LightPilot.Pattern.Tree
import LightPilot.Text.Blank

set_option autoImplicit false

/-! # Moving through a pattern

A `Reader` moves a cursor through a pattern, character by character, or refuses the pattern. In free spacing
blanks do not count, nor does anything from a number sign to the end of its line. -/

namespace LightPilot.Pattern

/-- How far a pattern has been read. -/
structure Cursor where
  rest : List Char
  place : Place := {}
  freeSpacing : Bool := false
  /-- The names of groups so far. -/
  names : List (String × Span) := []

namespace Cursor

/-- The cursor past one character. -/
def past (cursor : Cursor) : Cursor :=
  match cursor.rest with
  | [] => cursor
  | c :: rest => { cursor with rest, place := cursor.place.after c }

/-- What follows blanks and comments, and its place. -/
def dropBlanks (inComment : Bool) (place : Place) : List Char → List Char × Place
  | [] => ([], place)
  | c :: rest =>
    if inComment then dropBlanks (c != '\n') (place.after c) rest
    else if Text.isBlank c then dropBlanks false (place.after c) rest
    else if c = '#' then dropBlanks true (place.after c) rest
    else (c :: rest, place)

/-- The cursor past blanks and comments, where they do not count. -/
def pastBlanks (cursor : Cursor) : Cursor :=
  if cursor.freeSpacing then
    let (rest, place) := dropBlanks false cursor.place cursor.rest
    { cursor with rest, place }
  else cursor

/-- The first character that is neither blank nor the sign of a comment. -/
def firstVisible? (inComment : Bool) : List Char → Option Char
  | [] => none
  | c :: rest =>
    if Text.isBlank c then firstVisible? inComment rest
    else if c = '#' && !inComment then firstVisible? true rest
    else some c

/-- The character after the current one; in free spacing the first visible one, if there is one. -/
def ahead? (cursor : Cursor) : Option Char :=
  let rest := cursor.rest.tail
  if cursor.freeSpacing then (firstVisible? false rest).or rest.head? else rest.head?

end Cursor

/-- Reads a part of a pattern, or refuses the pattern. -/
abbrev Reader := StateT Cursor (Except Refusal)

namespace Reader

/-- Refuses the pattern. -/
def refuse {α : Type} (fault : Fault) (span : Span) : Reader α :=
  throw { fault, span }

/-- Refuses the pattern for a conflict with an earlier span. -/
def refuseAfter {α : Type} (fault : Fault) (span earlier : Span) : Reader α :=
  throw { fault, span, earlier? := some earlier }

/-- The current character; none at the end. -/
def current? : Reader (Option Char) :=
  return (← get).rest.head?

/-- Whether nothing is left. -/
def atEnd : Reader Bool :=
  return (← get).rest.isEmpty

/-- The place of the cursor. -/
def here : Reader Place :=
  return (← get).place

/-- The empty span at the cursor. -/
def emptySpan : Reader Span :=
  return .empty (← here)

/-- The span from a place to the cursor. -/
def spanFrom (start : Place) : Reader Span :=
  return ⟨start, ← here⟩

/-- The span of the current character. -/
def charSpan : Reader Span := do
  let cursor ← get
  return ⟨cursor.place, cursor.past.place⟩

/-- Moves past one character. -/
def advance : Reader Unit :=
  modify Cursor.past

/-- Moves past blanks and comments, where they do not count. -/
def skipBlanks : Reader Unit :=
  modify Cursor.pastBlanks

/-- Moves past one character and what does not count after it, and gives the character there. -/
def next? : Reader (Option Char) := do
  advance
  skipBlanks
  current?

/-- Moves past a text if it stands here. -/
def accept (text : String) : Reader Bool := do
  let start := text.toList
  if start.isPrefixOf (← get).rest then
    modify fun cursor => start.foldl (fun cursor _ => cursor.past) cursor
    return true
  else return false

/-- Moves past the first of some texts that stands here. -/
def acceptAny : List String → Reader Bool
  | [] => return false
  | text :: texts => do
    if ← accept text then return true else acceptAny texts

/-- At most `room` characters of a kind. -/
def collectUpTo (kind : Char → Bool) : (room : Nat) → Reader (List Char)
  | 0 => return []
  | room + 1 => do
    match ← current? with
    | some c =>
      if kind c then
        let _ ← next?
        return c :: (← collectUpTo kind room)
      else return []
    | none => return []

/-- All characters of a kind from here on. -/
def collect (kind : Char → Bool) : Reader (List Char) := do
  collectUpTo kind (← get).rest.length

end Reader

end LightPilot.Pattern
