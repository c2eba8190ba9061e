import LightPilot.Pattern.Shape

set_option autoImplicit false

/-! # Finding a shape in a text

The places of a text of `n` characters are 0 to `n`. A set of places is a number with a bit for each member,
and a shape moves the places where its parts may start to the places where they may stop, all at once. A
text has a part of the shape if some place is left when all places may be starts.

A repetition moves places again and again. As places never move back, more rounds than there are places
bring nothing that fewer do not. -/

namespace LightPilot.Pattern

/-- The members of a list of tests as a set of places, the first test for place 0. -/
def placesOf : List Bool → Nat
  | [] => 0
  | test :: tests => 2 * placesOf tests + test.toNat

/-- The places before characters of a set. -/
def CharSet.places (set : CharSet) (text : List Char) : Nat :=
  placesOf (text.map set.contains)

/-- Whether a character belongs to a word. -/
def isWordChar (c : Char) : Bool :=
  c.isAlphanum || c == '_'

/-- Whether an edge is at a place with or without a part of a word before and after it. -/
def WordEdge.holds (before after : Bool) : WordEdge → Bool
  | either => before != after
  | neither => before == after
  | start => !before && after
  | stop => before && !after
  | startHalf => !before
  | stopHalf => !after

/-- Whether a test holds between two characters; none stands for an end of the text. -/
def Look.holds (before? after? : Option Char) : Look → Bool
  | textStart => before?.isNone
  | textStop => after?.isNone
  | lineStart returns =>
    before?.isNone || before? == some '\n' || (returns && before? == some '\r' && after? != some '\n')
  | lineStop returns =>
    if returns then
      after?.isNone || after? == some '\r' || (after? == some '\n' && before? != some '\r')
    else after?.isNone || after? == some '\n'
  | word _ edge => edge.holds (before?.any isWordChar) (after?.any isWordChar)

/-- A test at every place after a character. -/
def Look.tests (look : Look) (before? : Option Char) : List Char → List Bool
  | [] => [look.holds before? none]
  | c :: text => look.holds before? (some c) :: look.tests (some c) text

/-- The places where a test holds. -/
def Look.places (look : Look) (text : List Char) : Nat :=
  placesOf (look.tests none text)

/-- `rounds` moves. -/
def moveTimes (move : Nat → Nat) : (rounds : Nat) → Nat → Nat
  | 0, places => places
  | rounds + 1, places => if places = 0 then 0 else moveTimes move rounds (move places)

/-- The places after at most `rounds` moves. -/
def moveUpTo (move : Nat → Nat) : (rounds : Nat) → Nat → Nat
  | 0, places => places
  | rounds + 1, places =>
    let more := places ||| move places
    if more = places then places else moveUpTo move rounds more

namespace Shape

mutual

/-- The places where parts of a text may stop that have the shape and start at one of some places. -/
def move (text : List Char) : Shape → Nat → Nat
  | empty, places => places
  | oneOf set, places => (places &&& set.places text) <<< 1
  | look test, places => places &&& test.places text
  | group body, places => body.move text places
  | sequence parts, places => moveAll text parts places
  | choice branches, places => moveAny text branches places
  | repeated count body, places =>
    let least := min count.least (text.length + 1)
    let places := moveTimes (body.move text) least places
    let more :=
      match count.most? with
      | some most => min (most - count.least) (text.length + 1)
      | none => text.length + 1
    moveUpTo (body.move text) more places

/-- The same for some shapes one after the other. -/
def moveAll (text : List Char) : List Shape → Nat → Nat
  | [], places => places
  | shape :: shapes, places => moveAll text shapes (shape.move text places)

/-- The same for any of some shapes. -/
def moveAny (text : List Char) : List Shape → Nat → Nat
  | [], _ => 0
  | shape :: shapes, places => shape.move text places ||| moveAny text shapes places

end

/-- Whether a text has a part of the shape. -/
def isIn (shape : Shape) (text : String) : Bool :=
  let chars := text.toList
  shape.move chars (Nat.pow 2 (chars.length + 1) - 1) != 0

end Shape

end LightPilot.Pattern
