import LightPilot.Pattern.Place

set_option autoImplicit false

/-! # Patterns as they are written

A `Tree` is a pattern as it is written, every part with its span; what a part means can depend on flags set
before it and is not decided here. `Tree.tooDeep?` finds the first part that is nested too deep. -/

namespace LightPilot.Pattern

/-! ## Leaves -/

/-- A character that stands for itself. -/
structure Literal where
  char : Char
  span : Span
  /-- Whether it is written as a byte, with two hexadecimal digits. -/
  isByte : Bool := false

/-- The sides of a word that a place can be tested for. -/
inductive WordEdge
  /-- At a start or an end. -/
  | either
  /-- Neither at a start nor at an end. -/
  | neither
  | start
  | stop
  /-- No word before the place. -/
  | startHalf
  /-- No word after the place. -/
  | stopHalf
  deriving DecidableEq

/-- The edge with a name in braces. -/
def WordEdge.named? (name : String) : Option WordEdge :=
  match name with
  | "start" => some start
  | "end" => some stop
  | "start-half" => some startHalf
  | "end-half" => some stopHalf
  | _ => none

/-- A test of a place that takes no character. -/
inductive Anchor
  | lineStart
  | lineStop
  | textStart
  | textStop
  | word (edge : WordEdge)
  deriving DecidableEq

/-- Classes with a one-letter name. -/
inductive Shorthand
  | digit
  | space
  | word
  deriving DecidableEq

/-- Classes with a name between colons. -/
inductive NamedClass
  | alnum
  | alpha
  | ascii
  | blank
  | cntrl
  | digit
  | graph
  | lower
  | print
  | punct
  | space
  | upper
  | word
  | xdigit
  deriving DecidableEq

/-- The named class with a name. -/
def NamedClass.named? (name : String) : Option NamedClass :=
  match name with
  | "alnum" => some alnum
  | "alpha" => some alpha
  | "ascii" => some ascii
  | "blank" => some blank
  | "cntrl" => some cntrl
  | "digit" => some digit
  | "graph" => some graph
  | "lower" => some lower
  | "print" => some print
  | "punct" => some punct
  | "space" => some space
  | "upper" => some upper
  | "word" => some word
  | "xdigit" => some xdigit
  | _ => none

/-! ## Flags -/

/-- A flag of a group. -/
inductive Flag
  | ignoreCase
  | multiLine
  | dotAll
  | swapGreed
  | unicode
  /-- A carriage return ends a line too. -/
  | returns
  /-- Blanks and comments do not count. -/
  | freeSpacing
  deriving DecidableEq

/-- The flag with a letter. -/
def Flag.lettered? (letter : Char) : Option Flag :=
  match letter with
  | 'i' => some ignoreCase
  | 'm' => some multiLine
  | 's' => some dotAll
  | 'U' => some swapGreed
  | 'u' => some unicode
  | 'R' => some returns
  | 'x' => some freeSpacing
  | _ => none

/-- A flag, or the sign from which on flags are cleared. -/
inductive FlagItem
  | negation
  | flag (flag : Flag)
  deriving DecidableEq

/-- Whether flags set (`some true`) or clear (`some false`) a flag; none if they do not mention it. -/
def setting? (wanted : Flag) : (negated : Bool) → List FlagItem → Option Bool
  | _, [] => none
  | _, .negation :: items => setting? wanted true items
  | negated, .flag flag :: items =>
    if flag = wanted then some (!negated) else setting? wanted negated items

/-! ## Brackets -/

/-- The operators between sets in brackets. -/
inductive SetOperator
  | intersection
  | difference
  | symmetricDifference
  deriving DecidableEq

/-- What stands in brackets. -/
inductive SetTree
  | nothing (span : Span)
  | literal (literal : Literal)
  | range (span : Span) (first last : Literal)
  | named (span : Span) (negated : Bool) (kind : NamedClass)
  | shorthand (span : Span) (negated : Bool) (kind : Shorthand)
  | property (span : Span) (name : String)
  | bracket (span : Span) (negated : Bool) (body : SetTree)
  | union (span : Span) (items : List SetTree)
  | binary (span : Span) (operator : SetOperator) (left right : SetTree)

/-- The span of what stands in brackets. -/
def SetTree.span : SetTree → Span
  | .nothing span | .range span .. | .named span .. | .shorthand span .. | .property span ..
  | .bracket span .. | .union span .. | .binary span .. => span
  | .literal leaf => leaf.span

/-! ## Patterns -/

/-- How often something is repeated. -/
structure Count where
  least : Nat
  /-- None if there is no bound. -/
  most? : Option Nat

/-- A pattern. -/
inductive Tree
  | empty (span : Span)
  | flags (span : Span) (items : List FlagItem)
  | literal (literal : Literal)
  | any (span : Span)
  | anchor (span : Span) (anchor : Anchor)
  | shorthand (span : Span) (negated : Bool) (kind : Shorthand)
  | property (span : Span) (name : String)
  | bracket (span : Span) (negated : Bool) (body : SetTree)
  | repeated (span : Span) (count : Count) (body : Tree)
  | group (span : Span) (captures : Bool) (flags : List FlagItem) (body : Tree)
  | sequence (span : Span) (parts : List Tree)
  | choice (span : Span) (branches : List Tree)

/-- The span of a pattern. -/
def Tree.span : Tree → Span
  | .empty span | .flags span .. | .any span | .anchor span .. | .shorthand span ..
  | .property span .. | .bracket span .. | .repeated span .. | .group span .. | .sequence span ..
  | .choice span .. => span
  | .literal leaf => leaf.span

/-! ## Depth -/

mutual

/-- The first part in brackets with more than `room` composite parts around it and at it. -/
def SetTree.tooDeep? (room : Nat) : SetTree → Option Span
  | bracket span _ body =>
    match room with
    | 0 => some span
    | room + 1 => body.tooDeep? room
  | union span items =>
    match room with
    | 0 => some span
    | room + 1 => SetTree.anyTooDeep? room items
  | binary span _ left right =>
    match room with
    | 0 => some span
    | room + 1 => (left.tooDeep? room).or (right.tooDeep? room)
  | _ => none

/-- The first such part of several. -/
def SetTree.anyTooDeep? (room : Nat) : List SetTree → Option Span
  | [] => none
  | item :: items => (item.tooDeep? room).or (SetTree.anyTooDeep? room items)

end

mutual

/-- The first part of a pattern with more than `room` composite parts around it and at it. -/
def Tree.tooDeep? (room : Nat) : Tree → Option Span
  | bracket span _ body =>
    match room with
    | 0 => some span
    | room + 1 => body.tooDeep? room
  | repeated span _ body =>
    match room with
    | 0 => some span
    | room + 1 => body.tooDeep? room
  | group span _ _ body =>
    match room with
    | 0 => some span
    | room + 1 => body.tooDeep? room
  | sequence span parts =>
    match room with
    | 0 => some span
    | room + 1 => Tree.anyTooDeep? room parts
  | choice span branches =>
    match room with
    | 0 => some span
    | room + 1 => Tree.anyTooDeep? room branches
  | _ => none

/-- The first such part of several. -/
def Tree.anyTooDeep? (room : Nat) : List Tree → Option Span
  | [] => none
  | part :: parts => (part.tooDeep? room).or (Tree.anyTooDeep? room parts)

end

end LightPilot.Pattern
