import LightPilot.Pattern.Fault
import LightPilot.Pattern.Shape

set_option autoImplicit false

/-! # What a pattern means

Flags hold from where they are set to the end of the group around them, so the meaning of a pattern is found
from left to right. Characters are those of Unicode unless the flag is cleared; then they are bytes, and what
could match a part of a character only is refused. No tables of Unicode are at hand: properties, classes with
a one-letter name and letters in either case are refused where Unicode is meant. -/

namespace LightPilot.Pattern

/-! ## Flags -/

/-- The flags in force. -/
structure Modes where
  ignoreCase : Bool := false
  multiLine : Bool := false
  dotAll : Bool := false
  unicode : Bool := true
  returns : Bool := false

/-- The flags in force after some are set or cleared. -/
def Modes.after (modes : Modes) (items : List FlagItem) : Modes :=
  let setting (flag : Flag) (old : Bool) : Bool := (setting? flag false items).getD old
  { ignoreCase := setting .ignoreCase modes.ignoreCase
    multiLine := setting .multiLine modes.multiLine
    dotAll := setting .dotAll modes.dotAll
    unicode := setting .unicode modes.unicode
    returns := setting .returns modes.returns }

/-- Refuses a pattern. -/
def refuse {α : Type} (fault : Fault) (span : Span) : Except Refusal α :=
  .error { fault, span }

/-! ## Sets -/

/-- The members of a named class. -/
def NamedClass.ranges : NamedClass → List (Nat × Nat)
  | alnum => [(0x30, 0x39), (0x41, 0x5A), (0x61, 0x7A)]
  | alpha => [(0x41, 0x5A), (0x61, 0x7A)]
  | ascii => [(0, 0x7F)]
  | blank => [(0x09, 0x09), (0x20, 0x20)]
  | cntrl => [(0, 0x1F), (0x7F, 0x7F)]
  | digit => [(0x30, 0x39)]
  | graph => [(0x21, 0x7E)]
  | lower => [(0x61, 0x7A)]
  | print => [(0x20, 0x7E)]
  | punct => [(0x21, 0x2F), (0x3A, 0x40), (0x5B, 0x60), (0x7B, 0x7E)]
  | space => [(0x09, 0x0D), (0x20, 0x20)]
  | upper => [(0x41, 0x5A)]
  | word => [(0x30, 0x39), (0x41, 0x5A), (0x5F, 0x5F), (0x61, 0x7A)]
  | xdigit => [(0x30, 0x39), (0x41, 0x46), (0x61, 0x66)]

/-- The named class with the bytes of a class with a one-letter name. -/
def Shorthand.named : Shorthand → NamedClass
  | digit => .digit
  | space => .space
  | word => .word

/-- A set that is gathered, and whether it is known to hold every member in either case. -/
structure Gathered where
  set : CharSet
  folded : Bool

namespace Gathered

/-- Nothing. -/
def nothing : Gathered := ⟨⟨[]⟩, true⟩

/-- The members of either set. -/
def union (a b : Gathered) : Gathered :=
  if b.set.isEmpty || a.set == b.set && b.folded then a
  else ⟨a.set.union b.set, a.folded && b.folded⟩

/-- The members of both sets. -/
def intersection (a b : Gathered) : Gathered :=
  if a.set.isEmpty then a
  else if b.set.isEmpty then nothing
  else ⟨a.set.intersection b.set, a.folded && b.folded⟩

/-- The members of the first set only. -/
def difference (a b : Gathered) : Gathered :=
  if a.set.isEmpty || b.set.isEmpty then a
  else ⟨a.set.difference b.set, a.folded && b.folded⟩

/-- An operator between sets. -/
def operate (operator : SetOperator) (a b : Gathered) : Gathered :=
  match operator with
  | .intersection => a.intersection b
  | .difference => a.difference b
  | .symmetricDifference => (a.union b).difference (a.intersection b)

/-- What does not belong to a set of characters. -/
def complement (g : Gathered) : Gathered :=
  if g.set.isEmpty then ⟨g.set.complement lastCode, true⟩
  else ⟨g.set.complement lastCode, g.folded⟩

/-- A set of characters in either case, at a span; only a set known to be so can be had. -/
def foldCase (g : Gathered) (span : Span) : Except Refusal Gathered :=
  if g.folded || g.set.isEmpty then .ok ⟨g.set, true⟩ else refuse .caseUnavailable span

/-- A set at the end of its brackets: in either case if asked for, and negated if so written. -/
def finish (modes : Modes) (span : Span) (negated : Bool) (g : Gathered) : Except Refusal Gathered := do
  if modes.unicode then
    let g ← if modes.ignoreCase then g.foldCase span else pure g
    return if negated then g.complement else g
  else
    let set := if modes.ignoreCase then g.set.foldCase else g.set
    let set := if negated then set.complement 0xFF else set
    if set.isAscii then return ⟨set, true⟩ else refuse .invalidUtf8 span

end Gathered

/-- A letter or digit of a name as names are compared: small, and none for the characters that do not
count. -/
def nameChar? (c : Char) : Option Char :=
  if c == ' ' || c == '_' || c == '-' || c.toNat ≥ 0x80 then none else some c.toLower

/-- Why a property is refused. A name that only a general category has lacks its value, and any other name
is unknown. -/
def propertyFault (name : String) : Fault :=
  let chars :=
    match name.toList with
    | 'i' :: 's' :: rest | 'I' :: 's' :: rest | 'i' :: 'S' :: rest | 'I' :: 'S' :: rest => rest
    | chars => chars
  let plain := String.ofList (chars.filterMap nameChar?)
  if plain = "cf" ∨ plain = "sc" ∨ plain = "lc" then .propertyValueNotFound else .propertyNotFound

/-- Refuses a property, at a span. -/
def refuseProperty {α : Type} (modes : Modes) (span : Span) (name : String) : Except Refusal α :=
  if modes.unicode then refuse (propertyFault name) span else refuse .unicodeNotAllowed span

/-- The set of a class with a one-letter name, at a span. -/
def shorthandSet (modes : Modes) (span : Span) (negated : Bool) (kind : Shorthand) :
    Except Refusal CharSet :=
  if modes.unicode then refuse .shorthandUnavailable span
  else
    let set := CharSet.ofRanges kind.named.ranges
    let set := if negated then set.complement 0xFF else set
    if set.isAscii then .ok set else refuse .invalidUtf8 span

/-- The character that a literal stands for; a byte that is no character is refused. -/
def Literal.resolve (modes : Modes) (literal : Literal) : Except Refusal Char :=
  if !modes.unicode && literal.isByte && literal.char.toNat ≥ 0x80 then
    refuse .invalidUtf8 literal.span
  else .ok literal.char

/-- The member of a set that a literal stands for. -/
def Literal.member (modes : Modes) (literal : Literal) : Except Refusal Nat := do
  let c ← literal.resolve modes
  if !modes.unicode && c.toNat ≥ 0x80 then refuse .unicodeNotAllowed literal.span
  else return c.toNat

mutual

/-- The set that stands in brackets. -/
def SetTree.gather (modes : Modes) : SetTree → Except Refusal Gathered
  | .nothing _ => return .nothing
  | .literal leaf => do
    let code ← leaf.member modes
    return ⟨⟨[(code, code)]⟩, false⟩
  | .range _ first last => do
    let start ← first.member modes
    let stop ← last.member modes
    return ⟨⟨[(start, stop)]⟩, false⟩
  | .named span negated kind =>
    Gathered.finish modes span negated ⟨.ofRanges kind.ranges, false⟩
  | .shorthand span negated kind => return ⟨← shorthandSet modes span negated kind, false⟩
  | .property span name => refuseProperty modes span name
  | .bracket span negated body => do (← body.gather modes).finish modes span negated
  | .union _ items => SetTree.gatherAll modes .nothing items
  | .binary _ operator left right => do
    let a ← left.gather modes
    let b ← right.gather modes
    if modes.ignoreCase && modes.unicode then
      let b ← b.foldCase right.span
      let a ← a.foldCase left.span
      return a.operate operator b
    else if modes.ignoreCase then
      return (⟨a.set.foldCase, true⟩ : Gathered).operate operator ⟨b.set.foldCase, true⟩
    else return a.operate operator b

/-- The union of a set and those that follow. -/
def SetTree.gatherAll (modes : Modes) (sum : Gathered) : List SetTree → Except Refusal Gathered
  | [] => return sum
  | item :: items => do
    let g ← item.gather modes
    SetTree.gatherAll modes (sum.union g) items

end

/-! ## Patterns -/

/-- Finds meanings from left to right, under the flags in force. -/
abbrev Meaning := StateT Modes (Except Refusal)

/-- The test of a place. -/
def Anchor.look (modes : Modes) : Anchor → Look
  | lineStart => if modes.multiLine then .lineStart modes.returns else .textStart
  | lineStop => if modes.multiLine then .lineStop modes.returns else .textStop
  | textStart => .textStart
  | textStop => .textStop
  | word edge => .word modes.unicode edge

/-- The characters that a dot stands for. -/
def anySet (modes : Modes) : CharSet :=
  let excepted := if modes.dotAll then [] else if modes.returns then ['\n', '\r'] else ['\n']
  (CharSet.ofRanges (excepted.map fun c => (c.toNat, c.toNat))).complement lastCode

/-- The shape of a literal, in either case if asked for. -/
def Literal.shape (modes : Modes) (literal : Literal) : Except Refusal Shape := do
  let c ← literal.resolve modes
  if !modes.ignoreCase then return .oneOf (.single c)
  else if modes.unicode then refuse .caseUnavailable literal.span
  else return .oneOf (CharSet.single c).foldCase

mutual

/-- The shape that a pattern asks for. -/
def Tree.shape : Tree → Meaning Shape
  | .empty _ => return .empty
  | .flags _ items => do
    modify (·.after items)
    return .empty
  | .literal leaf => do leaf.shape (← get)
  | .any span => do
    let modes ← get
    if modes.unicode then return .oneOf (anySet modes) else refuse .invalidUtf8 span
  | .anchor _ test => return .look (test.look (← get))
  | .shorthand span negated kind => return .oneOf (← shorthandSet (← get) span negated kind)
  | .property span name => do refuseProperty (← get) span name
  | .bracket span negated body => do
    let modes ← get
    let g ← body.gather modes
    return .oneOf (← g.finish modes span negated).set
  | .repeated _ count body => return .times count (← body.shape)
  | .group _ captures items body => do
    let outer ← get
    set (outer.after items)
    let shape ← body.shape
    set outer
    return if captures then .group shape else shape
  | .sequence _ parts => return .sequence (← Tree.shapes parts)
  | .choice _ branches => return .choice (← Tree.shapes branches)

/-- The shapes that several patterns ask for. -/
def Tree.shapes : List Tree → Meaning (List Shape)
  | [] => return []
  | tree :: trees => do
    let shape ← tree.shape
    return shape :: (← Tree.shapes trees)

end

end LightPilot.Pattern
