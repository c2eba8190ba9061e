set_option autoImplicit false

/-! # Binary text of bytes -/

namespace LightPilot.Binary

/-- The eight bits of a byte, lowest first. -/
def bits (byte : UInt8) : List Bool :=
  (List.range 8).map byte.toNat.testBit

/-- A byte as `0b` and its eight digits, highest first. -/
def text (byte : UInt8) : String :=
  "0b" ++ String.ofList ((bits byte).reverse.map fun bit => if bit then '1' else '0')

end LightPilot.Binary
