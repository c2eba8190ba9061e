set_option autoImplicit false

/-! # Single-precision numbers, exactly

Arithmetic on `Float32` is core's. What core leaves outside the logic is defined here on the
unpacked form of a number (a sign, a natural significand and a binary exponent), so that a proof can
compute with it: rounding to whole numbers, and the conversions to and from double precision.

`floor?` answers with an exact integer and has no answer for a number that is not finite;
`truncate16` is the narrow conversion that clamps; `roundAway`, `widen` and `narrow` stay within
the floating-point numbers. -/

namespace LightPilot.Single

open Float.Model

/-! ## Whole numbers -/

/-- The greatest integer at most `value * 2 ^ exponent`. -/
def floorScaled (value exponent : Int) : Int :=
  value * Int.pow 2 exponent.toNat / Int.pow 2 (-exponent).toNat

/-- The greatest integer at most `x`, if `x` is finite. -/
def floor? (x : Float32) : Option Int :=
  match x.toModel.unpack with
  | .finite sign significand exponent _ => some (floorScaled (sign.apply significand) exponent)
  | .zero _ => some 0
  | .infinity _ | .notANumber => none

/-- The integer part of `x`, clamped to 16 bits; a NaN counts as zero. -/
def truncate16 (x : Float32) : Int16 :=
  x.toModel.toInt16

/-- The natural number nearest to `significand * 2 ^ exponent`; a half goes up. -/
def nearestScaled (significand : Nat) (exponent : Int) : Nat :=
  (2 * significand * Nat.pow 2 exponent.toNat / Nat.pow 2 (-exponent).toNat + 1) / 2

/-- The whole number nearest to `x`, as a float; a half goes away from zero and the sign stays. -/
def roundAway (x : Float32) : Float32 :=
  match x.toModel.unpack with
  | .finite sign significand exponent _ =>
    .ofModel (.pack (.round .binary32 sign (nearestScaled significand exponent) 0))
  | _ => x

/-! ## Double precision -/

/-- The same number in double precision. -/
def widen (x : Float32) : Float :=
  .ofModel (.pack (match x.toModel.unpack with
    | .finite sign significand exponent _ => .round .binary64 sign significand exponent
    | special => special))

/-- The nearest single; ties go to the even significand. -/
def narrow (x : Float) : Float32 :=
  .ofModel (.pack (match x.toModel.unpack with
    | .finite sign significand exponent _ => .round .binary32 sign significand exponent
    | special => special))

/-- Neither infinite nor a NaN. -/
def isFinite (x : Float32) : Bool :=
  x.toModel.isFinite

end LightPilot.Single
