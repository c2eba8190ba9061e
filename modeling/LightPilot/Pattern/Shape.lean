import LightPilot.Pattern.CharSet
import LightPilot.Pattern.Tree

set_option autoImplicit false

/-! # Shapes of texts

A shape is what a pattern means once its flags are resolved: how the part of a text looks that the pattern
finds. Whether a repetition is greedy does not matter, as only the presence of such a part is asked for. -/

namespace LightPilot.Pattern

/-- A test of the place between two characters. -/
inductive Look
  | textStart
  | textStop
  /-- With `returns` a carriage return ends a line too, and one before a line feed belongs to it. -/
  | lineStart (returns : Bool)
  | lineStop (returns : Bool)
  /-- With `unicode` the words of all scripts are meant. -/
  | word (unicode : Bool) (edge : WordEdge)
  deriving DecidableEq

/-- The look of a part of a text. -/
inductive Shape
  | empty
  | oneOf (set : CharSet)
  | look (look : Look)
  /-- A group that can be referred to. -/
  | group (body : Shape)
  | sequence (parts : List Shape)
  | choice (branches : List Shape)
  | repeated (count : Count) (body : Shape)

namespace Shape

/-! ## Lengths -/

mutual

/-- Whether only empty parts have the shape. -/
def isAlwaysEmpty : Shape → Bool
  | empty | look _ => true
  | oneOf _ => false
  | group body => body.isAlwaysEmpty
  | sequence parts => areAlwaysEmpty parts
  | choice branches => areAlwaysEmpty branches
  | repeated _ body => body.isAlwaysEmpty

/-- Whether only empty parts have any of some shapes. -/
def areAlwaysEmpty : List Shape → Bool
  | [] => true
  | shape :: shapes => shape.isAlwaysEmpty && areAlwaysEmpty shapes

end

mutual

/-- Whether no empty part has the shape, and some part has it. -/
def takesSome : Shape → Bool
  | empty | look _ => false
  | oneOf set => !set.isEmpty
  | group body => body.takesSome
  | sequence parts => anyTakesSome parts
  | choice branches => allTakeSome branches
  | repeated count body => count.least > 0 && body.takesSome

/-- Whether one of some shapes takes a character. -/
def anyTakesSome : List Shape → Bool
  | [] => false
  | shape :: shapes => shape.takesSome || anyTakesSome shapes

/-- Whether all of some shapes take a character. -/
def allTakeSome : List Shape → Bool
  | [] => true
  | shape :: shapes => shape.takesSome && allTakeSome shapes

end

/-! ## Repetition -/

/-- A shape repeated. What is always empty is repeated once at most, and what is repeated never is empty. -/
def times (count : Count) (body : Shape) : Shape :=
  let count : Count :=
    if body.isAlwaysEmpty then ⟨min count.least 1, some (min (count.most?.getD 1) 1)⟩ else count
  match count with
  | ⟨_, some 0⟩ => empty
  | ⟨1, some 1⟩ => body
  | _ => repeated count body

/-! ## Words -/

mutual

/-- Whether the words of all scripts are asked for. -/
def needsScripts : Shape → Bool
  | look (.word unicode _) => unicode
  | empty | look _ | oneOf _ => false
  | group body => body.needsScripts
  | sequence parts => anyNeedsScripts parts
  | choice branches => anyNeedsScripts branches
  | repeated _ body => body.needsScripts

/-- Whether one of some shapes asks for the words of all scripts. -/
def anyNeedsScripts : List Shape → Bool
  | [] => false
  | shape :: shapes => shape.needsScripts || anyNeedsScripts shapes

end

end Shape

end LightPilot.Pattern
