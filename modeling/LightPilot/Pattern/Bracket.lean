import LightPilot.Pattern.Escape

set_option autoImplicit false

/-! # Sets in brackets

Brackets hold characters, ranges, named classes and further brackets, which are united, and operators
between such unions, which are done from the left. The brackets around the cursor are kept as a list of
levels, innermost first, so that reading is one loop over the characters. -/

namespace LightPilot.Pattern

/-- A bracket whose end has not been read. -/
structure BracketLevel where
  /-- The opening, with the characters that count only there. -/
  span : Span
  negated : Bool
  /-- The items of the union that is read, last first. -/
  items : List SetTree := []
  itemsSpan : Span
  /-- The operator before that union, with what stands on its left. -/
  pending? : Option (SetOperator × SetTree) := none

namespace BracketLevel

/-- A level with one more item. -/
def push (level : BracketLevel) (item : SetTree) : BracketLevel :=
  let start := if level.items.isEmpty then item.span.start else level.itemsSpan.start
  { level with items := item :: level.items, itemsSpan := ⟨start, item.span.stop⟩ }

/-- The union that is read. -/
def operand (level : BracketLevel) : SetTree :=
  match level.items with
  | [] => .nothing level.itemsSpan
  | [item] => item
  | items => .union level.itemsSpan items.reverse

/-- All that has been read, with the operator done. -/
def body (level : BracketLevel) : SetTree :=
  let right := level.operand
  match level.pending? with
  | none => right
  | some (operator, left) => .binary (left.span.through right.span) operator left right

/-- The level after an operator, at a place. -/
def operate (level : BracketLevel) (operator : SetOperator) (place : Place) : BracketLevel :=
  { level with items := [], itemsSpan := .empty place, pending? := some (operator, level.body) }

end BracketLevel

/-- The operator that a character doubled stands for. -/
def SetOperator.doubled? (c : Char) : Option SetOperator :=
  match c with
  | '&' => some intersection
  | '-' => some difference
  | '~' => some symmetricDifference
  | _ => none

namespace Reader

/-- The hyphens at the start of brackets, which stand for themselves. -/
def leadingHyphens : (room : Nat) → BracketLevel → Reader BracketLevel
  | 0, level => return level
  | room + 1, level => do
    if (← current?) == some '-' then
      let level := level.push (.literal { char := '-', span := ← charSpan })
      if (← next?).isNone then refuse .classUnclosed (.empty level.span.start)
      leadingHyphens room level
    else return level

/-- The opening of brackets. A closing bracket right after it stands for itself. -/
def openBracket : Reader BracketLevel := do
  let start ← here
  if (← next?).isNone then refuse .classUnclosed (← spanFrom start)
  let negated := (← current?) == some '^'
  if negated then
    if (← next?).isNone then refuse .classUnclosed (← spanFrom start)
  let level ← leadingHyphens (← get).rest.length
    { span := .empty start, negated, itemsSpan := ← emptySpan }
  if level.items.isEmpty && (← current?) == some ']' then
    let level := level.push (.literal { char := ']', span := ← charSpan })
    if (← next?).isNone then refuse .classUnclosed (← spanFrom start)
    return { level with span := ← spanFrom start }
  else return { level with span := ← spanFrom start }

/-- A class with a name between colons, if one stands here whole. -/
def namedClass? : Reader (Option SetTree) := do
  match (← get).rest with
  | '[' :: ':' :: rest =>
    let (negated, rest) :=
      match rest with
      | '^' :: rest => (true, rest)
      | rest => (false, rest)
    let name := String.ofList (rest.takeWhile (· != ':'))
    match NamedClass.named? name with
    | none => return none
    | some kind =>
      let start ← here
      if ← accept ((if negated then "[:^" else "[:") ++ name ++ ":]") then
        return some (.named (← spanFrom start) negated kind)
      else return none
  | _ => return none

/-- A character or an escape in brackets. -/
def setLeaf : Reader Tree := do
  if (← current?) == some '\\' then escape
  else
    let span ← charSpan
    let char := (← current?).getD ' '
    advance
    return .literal { char, span }

/-- The item of a set that a leaf is. -/
def setItem (leaf : Tree) : Reader SetTree :=
  match leaf with
  | .literal literal => return .literal literal
  | .shorthand span negated kind => return .shorthand span negated kind
  | .property span name => return .property span name
  | _ => refuse .classEscapeInvalid leaf.span

/-- The end of a range that a leaf is. -/
def rangeEnd (leaf : Tree) : Reader Literal :=
  match leaf with
  | .literal literal => return literal
  | _ => refuse .classRangeLiteral leaf.span

/-- A leaf or a range in the brackets of a level. A hyphen before the closing bracket or before another
hyphen makes no range. -/
def setRange (level : BracketLevel) : Reader SetTree := do
  let first ← setLeaf
  skipBlanks
  if ← atEnd then refuse .classUnclosed level.span
  let ahead? := (← get).ahead?
  if (← current?) != some '-' || ahead? == some ']' || ahead? == some '-' then setItem first
  else
    if (← next?).isNone then refuse .classUnclosed level.span
    let last ← setLeaf
    let span := first.span.through last.span
    let first ← rangeEnd first
    let last ← rangeEnd last
    if last.char < first.char then refuse .classRangeInvalid span
    return .range span first last

/-- Brackets from inside the innermost level to the end of the outermost one. -/
def bracketBody : (room : Nat) → List BracketLevel → BracketLevel → Reader Tree
  | 0, _, level => refuse .classUnclosed level.span
  | room + 1, outer, level => do
    skipBlanks
    match ← current? with
    | none => refuse .classUnclosed level.span
    | some '[' =>
      match ← namedClass? with
      | some item => bracketBody room outer (level.push item)
      | none => bracketBody room (level :: outer) (← openBracket)
    | some ']' =>
      advance
      let span ← spanFrom level.span.start
      match outer with
      | [] => return .bracket span level.negated level.body
      | parent :: outer =>
        bracketBody room outer (parent.push (.bracket span level.negated level.body))
    | some c =>
      match SetOperator.doubled? c with
      | some operator =>
        if (← get).rest.tail.head? == some c then
          advance
          advance
          bracketBody room outer (level.operate operator (← here))
        else bracketBody room outer (level.push (← setRange level))
      | none => bracketBody room outer (level.push (← setRange level))

/-- Brackets, at their opening. -/
def bracket : Reader Tree := do
  let room := (← get).rest.length
  bracketBody room [] (← openBracket)

end Reader

end LightPilot.Pattern
