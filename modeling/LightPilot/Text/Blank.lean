import LightPilot.Text.CodeRange

set_option autoImplicit false

/-! # Blanks around a text

A character is blank if Unicode gives it the property `White_Space`. -/

namespace LightPilot.Text

/-- The ranges of `White_Space`, as first and last code point. -/
def blankRanges : List (Nat × Nat) :=
  [(0x09, 0x0D), (0x20, 0x20), (0x85, 0x85), (0xA0, 0xA0), (0x1680, 0x1680), (0x2000, 0x200A),
    (0x2028, 0x2029), (0x202F, 0x202F), (0x205F, 0x205F), (0x3000, 0x3000)]

/-- Whether a character is blank. -/
def isBlank (c : Char) : Bool :=
  isWithin blankRanges c

/-- A text without the blanks at both ends. -/
def trim (text : String) : String :=
  String.ofList ((text.toList.dropWhile isBlank).reverse.dropWhile isBlank).reverse

end LightPilot.Text
