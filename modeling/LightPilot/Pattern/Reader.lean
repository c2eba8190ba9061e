import LightPilot.Pattern.Bracket
import LightPilot.Text.Letter

set_option autoImplicit false

/-! # Reading patterns

A pattern is a choice between sequences of parts. The groups around the cursor are kept as a list of levels,
innermost first, so that reading is one loop over the characters; it ends because each round takes one. -/

namespace LightPilot.Pattern

/-! ## Levels -/

/-- The opening of a group. -/
structure Opening where
  span : Span
  captures : Bool
  flags : List FlagItem
  /-- Whether blanks count outside the group. -/
  outerSpacing : Bool

/-- A choice whose end has not been read. -/
structure Level where
  /-- None outside all groups. -/
  opening? : Option Opening
  /-- The branches before the one that is read, last first. -/
  branches : List Tree := []
  /-- The parts of the branch that is read, last first. -/
  parts : List Tree := []
  /-- Where the first branch starts. -/
  start : Place
  /-- Where the branch that is read starts. -/
  branchStart : Place := start

namespace Level

/-- A level with one more part. -/
def push (level : Level) (part : Tree) : Level :=
  { level with parts := part :: level.parts }

/-- The branch that is read, which ends at a place. -/
def branch (level : Level) (stop : Place) : Tree :=
  let span := ⟨level.branchStart, stop⟩
  match level.parts with
  | [] => .empty span
  | [part] => part
  | parts => .sequence span parts.reverse

/-- The level after a bar, with the places before and after it. -/
def split (level : Level) (stop next : Place) : Level :=
  { level with branches := level.branch stop :: level.branches, parts := [], branchStart := next }

/-- The whole choice, which ends at a place. -/
def close (level : Level) (stop : Place) : Tree :=
  let last := level.branch stop
  match level.branches with
  | [] => last
  | branches => .choice ⟨level.start, stop⟩ (last :: branches).reverse

end Level

namespace Reader

/-! ## Groups -/

/-- Whether a character can stand in the name of a group. -/
def isNameChar (first : Bool) (c : Char) : Bool :=
  c == '_' || Text.isAlphabetic c
    || (!first && (c == '.' || c == '[' || c == ']' || Text.isNumeric c))

/-- The characters of a name up to the bracket that ends it. -/
def nameChars (first : Bool) : (room : Nat) → Reader (List Char)
  | 0 => return []
  | room + 1 => do
    match ← current? with
    | none | some '>' => return []
    | some c =>
      if !isNameChar first c then refuse .nameInvalid (← charSpan)
      advance
      return c :: (← nameChars false room)

/-- The name of a group, after its opening bracket. -/
def groupName : Reader Unit := do
  let start ← here
  let name ← nameChars true (← get).rest.length
  let span ← spanFrom start
  if ← atEnd then refuse .nameUnexpectedEnd (← emptySpan)
  advance
  if name.isEmpty then refuse .nameEmpty (.empty start)
  let name := String.ofList name
  match (← get).names.lookup name with
  | some earlier => refuseAfter .nameDuplicate span earlier
  | none => modify fun cursor => { cursor with names := (name, span) :: cursor.names }

/-- The flags up to a colon or the end of the group, after those that have been read, last first. -/
def flagsAfter : (room : Nat) → List (FlagItem × Span) → Reader (List FlagItem)
  | 0, items => return (items.map Prod.fst).reverse
  | room + 1, items => do
    match ← current? with
    | none => refuse .flagUnexpectedEnd (← emptySpan)
    | some c =>
      let span ← charSpan
      if c == ':' || c == ')' then
        match items with
        | (.negation, last) :: _ => refuse .flagDanglingNegation last
        | _ => return (items.map Prod.fst).reverse
      else
        let item ←
          if c == '-' then pure FlagItem.negation
          else
            match Flag.lettered? c with
            | some flag => pure (.flag flag)
            | none => refuse .flagUnrecognized span
        match items.lookup item with
        | some earlier =>
          refuseAfter (if item = .negation then .flagRepeatedNegation else .flagDuplicate) span earlier
        | none =>
          advance
          flagsAfter room ((item, span) :: items)

/-- What an opening parenthesis introduces. -/
inductive Opened
  /-- Flags for the rest of the group around them. -/
  | flags (span : Span) (items : List FlagItem)
  | group (opening : Opening)

/-- What an opening parenthesis introduces, at it. -/
def openGroup : Reader Opened := do
  let paren ← charSpan
  let outerSpacing := (← get).freeSpacing
  advance
  skipBlanks
  if ← acceptAny ["?=", "?!", "?<=", "?<!"] then refuse .lookAround (← spanFrom paren.start)
  let inner ← emptySpan
  if ← acceptAny ["?P<", "?<"] then
    groupName
    return .group { span := paren, captures := true, flags := [], outerSpacing }
  else if ← accept "?" then
    if ← atEnd then refuse .groupUnclosed paren
    let items ← flagsAfter ((← get).rest.length + 1) []
    let closes := (← current?) == some ')'
    advance
    if closes then
      if items.isEmpty then refuse .repetitionMissing inner
      return .flags (← spanFrom paren.start) items
    else return .group { span := paren, captures := false, flags := items, outerSpacing }
  else return .group { span := paren, captures := true, flags := [], outerSpacing }

/-- Makes blanks count or not as flags say. -/
def setSpacing (items : List FlagItem) : Reader Unit :=
  match setting? .freeSpacing false items with
  | some freeSpacing => modify fun cursor => { cursor with freeSpacing }
  | none => return

/-! ## Repetitions -/

/-- The last part of a level, which a sign at the cursor repeats, and the level without it. -/
def repeatable (level : Level) : Reader (Tree × Level) :=
  match level.parts with
  | [] | .empty .. :: _ | .flags .. :: _ => do refuse .repetitionMissing (← emptySpan)
  | part :: parts => return (part, { level with parts })

/-- A sign of repetition, after which a question mark may stand. -/
def repetition (level : Level) (count : Count) : Reader Level := do
  let (part, level) ← repeatable level
  advance
  if (← current?) == some '?' then advance
  return level.push (.repeated ⟨part.span.start, ← here⟩ count part)

/-- A number in braces with blanks around it, or why it is none. -/
def decimal : Reader (Except Refusal Nat) := do
  let _ ← collect Text.isBlank
  let start ← here
  let digits ← collect Char.isDigit
  let span ← spanFrom start
  let _ ← collect Text.isBlank
  if digits.isEmpty then return .error { fault := .countEmpty, span }
  let value := digits.foldl (fun value c => 10 * value + (c.toNat - '0'.toNat)) 0
  if value < Nat.pow 2 32 then return .ok value else return .error { fault := .decimalInvalid, span }

/-- The numbers of repetitions, after the opening brace, which stands at a place. A number that cannot be
read counts for nothing if the pattern ends right after it. -/
def count (brace : Place) : Reader Count := do
  let least ← decimal
  match ← current? with
  | none => refuse .countUnclosed (← spanFrom brace)
  | some ',' =>
    match ← next? with
    | none => refuse .countUnclosed (← spanFrom brace)
    | some '\x7d' => return { least := ← liftExcept least, most? := none }
    | some _ =>
      let least ← liftExcept least
      return { least, most? := some (← liftExcept (← decimal)) }
  | some _ =>
    let times ← liftExcept least
    return { least := times, most? := some times }
where
  liftExcept (number : Except Refusal Nat) : Reader Nat := StateT.lift number

/-- A repetition with numbers in braces, at the opening brace. -/
def countedRepetition (level : Level) : Reader Level := do
  let (part, level) ← repeatable level
  let brace ← here
  if (← next?).isNone then refuse .countUnclosed (← spanFrom brace)
  let count ← count brace
  if (← current?) != some '\x7d' then refuse .countUnclosed (← spanFrom brace)
  if (← next?) == some '?' then advance
  let span ← spanFrom brace
  if count.most?.any (· < count.least) then refuse .countInvalid span
  return level.push (.repeated ⟨part.span.start, span.stop⟩ count part)

/-! ## Patterns -/

/-- A part that is one character wide or an escape. -/
def leaf : Reader Tree := do
  let span ← charSpan
  match ← current? with
  | some '\\' => escape
  | some '.' => advance; return .any span
  | some '^' => advance; return .anchor span .lineStart
  | some '$' => advance; return .anchor span .lineStop
  | c => advance; return .literal { char := c.getD ' ', span }

/-- A pattern from inside the innermost level to its end. -/
def patternBody : (room : Nat) → List Level → Level → Reader Tree
  | 0, _, level => return level.close (← here)
  | room + 1, outer, level => do
    skipBlanks
    match ← current? with
    | none =>
      match level.opening? with
      | some opening => refuse .groupUnclosed opening.span
      | none => return level.close (← here)
    | some '(' =>
      match ← openGroup with
      | .flags span items =>
        setSpacing items
        patternBody room outer (level.push (.flags span items))
      | .group opening =>
        setSpacing opening.flags
        patternBody room (level :: outer) { opening? := some opening, start := ← here }
    | some ')' =>
      match level.opening?, outer with
      | some opening, parent :: outer =>
        let body := level.close (← here)
        advance
        modify fun cursor => { cursor with freeSpacing := opening.outerSpacing }
        let span ← spanFrom opening.span.start
        patternBody room outer (parent.push (.group span opening.captures opening.flags body))
      | _, _ => refuse .groupUnopened (← charSpan)
    | some '|' =>
      let stop ← here
      advance
      patternBody room outer (level.split stop (← here))
    | some '[' => patternBody room outer (level.push (← bracket))
    | some '?' => patternBody room outer (← repetition level ⟨0, some 1⟩)
    | some '*' => patternBody room outer (← repetition level ⟨0, none⟩)
    | some '+' => patternBody room outer (← repetition level ⟨1, none⟩)
    | some '\x7b' => patternBody room outer (← countedRepetition level)
    | some _ => patternBody room outer (level.push (← leaf))

end Reader

/-- Reads a pattern. -/
def read (pattern : String) : Except Refusal Tree := do
  let chars := pattern.toList
  let start : Place := {}
  let body := Reader.patternBody (chars.length + 1) [] { opening? := none, start }
  let (tree, _) ← body.run { rest := chars }
  match tree.tooDeep? nestingLimit with
  | some span => throw { fault := .nestedTooDeep, span }
  | none => return tree

end LightPilot.Pattern
