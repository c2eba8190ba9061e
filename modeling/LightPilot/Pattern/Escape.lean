import LightPilot.Pattern.Cursor

set_option autoImplicit false

/-! # Escapes

What a backslash introduces: a character by its code or by its letter, a character that would have a meaning
of its own, a class, or a test of a place. -/

namespace LightPilot.Pattern

/-! ## Characters by code -/

/-- The value of a hexadecimal digit. -/
def hexDigit? (c : Char) : Option Nat :=
  if c.isDigit then some (c.toNat - '0'.toNat)
  else if 'a' ≤ c ∧ c ≤ 'f' then some (c.toNat - 'a'.toNat + 10)
  else if 'A' ≤ c ∧ c ≤ 'F' then some (c.toNat - 'A'.toNat + 10)
  else none

/-- The number that hexadecimal digits write. -/
def hexValue (digits : List Char) : Nat :=
  digits.foldl (fun value c => 16 * value + (hexDigit? c).getD 0) 0

/-- The character with a code; none for surrogates and above the last character. -/
def scalar? (code : Nat) : Option Char :=
  if code < 0xD800 ∨ (0xDFFF < code ∧ code < 0x110000) then some (Char.ofNat code) else none

namespace Reader

/-- Exactly `count` hexadecimal digits. -/
def hexDigits : (count : Nat) → Reader (List Char)
  | 0 => return []
  | count + 1 => do
    match ← current? with
    | none => refuse .escapeUnexpectedEnd (← emptySpan)
    | some c =>
      if (hexDigit? c).isNone then refuse .hexInvalidDigit (← charSpan)
      let _ ← next?
      return c :: (← hexDigits count)

/-- A character by `count` digits, after the letter that announces them. -/
def fixedHex (start : Place) (count : Nat) : Reader Tree := do
  let first ← here
  let digits ← hexDigits count
  let stop ← here
  match scalar? (hexValue digits) with
  | some char => return .literal { char, span := ⟨start, stop⟩, isByte := count == 2 }
  | none => refuse .hexInvalid ⟨first, stop⟩

/-- A character by digits in braces. -/
def bracedHex (start : Place) : Reader Tree := do
  let brace ← charSpan
  let _ ← next?
  let digits ← collect fun c => (hexDigit? c).isSome
  match ← current? with
  | none => refuse .escapeUnexpectedEnd (← spanFrom brace.start)
  | some '}' => pure ()
  | some _ => refuse .hexInvalidDigit (← charSpan)
  let stop ← here
  let _ ← next?
  if digits.isEmpty then refuse .hexEmpty (← spanFrom brace.start)
  match scalar? (hexValue digits) with
  | some char => return .literal { char, span := ← spanFrom start }
  | none => refuse .hexInvalid ⟨brace.stop, stop⟩

/-- A character by its code, at the letter that says how many digits it has without braces. -/
def hex (start : Place) (count : Nat) : Reader Tree := do
  match ← next? with
  | none => refuse .escapeUnexpectedEnd (← emptySpan)
  | some '{' => bracedHex start
  | some _ => fixedHex start count

/-! ## Classes and places -/

/-- A property of characters, at the letter that announces it: one letter, or a name in braces. -/
def property (start : Place) : Reader Tree := do
  match ← next? with
  | none => refuse .escapeUnexpectedEnd (← emptySpan)
  | some '{' =>
    let _ ← next?
    let name ← collect (· != '}')
    if ← atEnd then refuse .escapeUnexpectedEnd (← emptySpan)
    advance
    return .property (← spanFrom start) (String.ofList name)
  | some '\\' => refuse .propertyInvalid (← charSpan)
  | some c =>
    let _ ← next?
    return .property (← spanFrom start) (String.singleton c)

/-- The edge named in braces; none, and nothing read, if a number of repetitions stands in them. -/
def wordEdge? (start : Place) : Reader (Option WordEdge) := do
  let isNamed (c : Char) : Bool := c.isAlpha || c == '-'
  let before ← get
  match ← next? with
  | none => refuse .wordEdgeUnexpectedEnd (← spanFrom start)
  | some c =>
    if !isNamed c then
      set before
      return none
    let first ← here
    let name ← collect isNamed
    if (← current?) != some '}' then refuse .wordEdgeUnclosed (← spanFrom before.place)
    let stop ← here
    advance
    match WordEdge.named? (String.ofList name) with
    | some edge => return some edge
    | none => refuse .wordEdgeUnrecognized ⟨first, stop⟩

/-! ## All escapes -/

/-- Whether a character can stand for itself after a backslash. -/
def isEscapable (c : Char) : Bool :=
  c.toNat < 0x80 && !c.isAlphanum && c != '<' && c != '>'

/-- The character with a letter of its own. -/
def lettered? (letter : Char) : Option Char :=
  match letter with
  | 'a' => some '\x07'
  | 'f' => some '\x0C'
  | 't' => some '\t'
  | 'n' => some '\n'
  | 'r' => some '\r'
  | 'v' => some '\x0B'
  | _ => none

/-- The test of a place with a sign of its own. -/
def anchored? (sign : Char) : Option Anchor :=
  match sign with
  | 'A' => some .textStart
  | 'z' => some .textStop
  | 'b' => some (.word .either)
  | 'B' => some (.word .neither)
  | '<' => some (.word .start)
  | '>' => some (.word .stop)
  | _ => none

/-- The class with a letter of its own. -/
def shorthand? (letter : Char) : Option (Bool × Shorthand) :=
  match letter with
  | 'd' => some (false, .digit)
  | 's' => some (false, .space)
  | 'w' => some (false, .word)
  | 'D' => some (true, .digit)
  | 'S' => some (true, .space)
  | 'W' => some (true, .word)
  | _ => none

/-- The number of digits that a letter announces. -/
def hexCount? (letter : Char) : Option Nat :=
  match letter with
  | 'x' => some 2
  | 'u' => some 4
  | 'U' => some 8
  | _ => none

/-- An escape, at its backslash. -/
def escape : Reader Tree := do
  let start ← here
  advance
  match ← current? with
  | none => refuse .escapeUnexpectedEnd (← spanFrom start)
  | some c =>
    if c.isDigit then refuse .backreference ⟨start, (← charSpan).stop⟩
    if let some count := hexCount? c then return ← hex start count
    if c == 'p' || c == 'P' then return ← property start
    advance
    let span ← spanFrom start
    if let some (negated, kind) := shorthand? c then return .shorthand span negated kind
    if isEscapable c then return .literal { char := c, span }
    if let some char := lettered? c then return .literal { char, span }
    match anchored? c with
    | none => refuse .escapeUnrecognized span
    | some anchor =>
      if c == 'b' && (← current?) == some '\x7b' then
        match ← wordEdge? start with
        | some edge => return .anchor (← spanFrom start) (.word edge)
        | none => return .anchor span anchor
      return .anchor span anchor

end Reader

end LightPilot.Pattern
