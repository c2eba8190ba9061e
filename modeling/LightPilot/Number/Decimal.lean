import LightPilot.Number.Single

set_option autoImplicit false

/-! # Decimal text of single-precision numbers

Two ways to write a number, both positional and both computed in exact natural-number arithmetic:

* `fixed` gives a set number of places, rounding the exact value with ties to the even digit;
* `shortest` gives the fewest digits that read back as the same number, and of those the nearest.

The sign of a zero is written, and the special values are `NaN`, `inf` and `-inf`. -/

namespace LightPilot.Decimal

open Float.Model

/-! ## Digits -/

/-- The digits of `value` with the point `places` digits from the right, a zero before a bare point. -/
def positional (value places : Nat) : String :=
  if places = 0 then value.repr
  else
    let digits := value.repr.toList
    let digits := List.replicate (places + 1 - digits.length) '0' ++ digits
    let whole := digits.length - places
    String.ofList (digits.take whole ++ '.' :: digits.drop whole)

/-- Blanks in front, up to `width` characters. -/
def padLeft (width : Nat) (text : String) : String :=
  String.ofList (List.replicate (width - text.length) ' ') ++ text

/-- The quotient rounded to nearest, a half to the even neighbour. -/
def divEven (numerator denominator : Nat) : Nat :=
  let quotient := numerator / denominator
  let rest := 2 * (numerator % denominator)
  if rest < denominator then quotient
  else if denominator < rest then quotient + 1
  else quotient + quotient % 2

/-- The minus sign of a negative number. -/
def signText : UnpackedFloat.Sign → String
  | .positive => ""
  | .negative => "-"

/-! ## Fixed places -/

/-- `x` with exactly `places` digits after the point. -/
def fixed (places : Nat) (x : Float32) : String :=
  match x.toModel.unpack with
  | .notANumber => "NaN"
  | .infinity sign => signText sign ++ "inf"
  | .zero sign => signText sign ++ positional 0 places
  | .finite sign significand exponent _ =>
    let scaled := significand * Nat.pow 2 exponent.toNat * Nat.pow 10 places
    signText sign ++ positional (divEven scaled (Nat.pow 2 (-exponent).toNat)) places

/-! ## Shortest digits -/

/-- The reals that round to one positive number: from `low` to `high` quarters of `2 ^ exponent` with
`value` quarters in between, the ends included iff `closed`. -/
structure RoundingInterval where
  low : Nat
  value : Nat
  high : Nat
  exponent : Int
  closed : Bool

/-- The interval of `significand * 2 ^ exponent`. Below a power of two the neighbour is half as far. -/
def RoundingInterval.of (significand : Nat) (exponent : Int) : RoundingInterval where
  low :=
    if significand = Nat.pow 2 23 ∧ exponent ≠ -149 then 4 * significand - 1
    else 4 * significand - 2
  value := 4 * significand
  high := 4 * significand + 2
  exponent := exponent - 2
  closed := significand % 2 = 0

/-- The multiple of `10 ^ place` that lies in the interval and nearest to its value, in units of
`10 ^ place`; of two equally near the greater. -/
def RoundingInterval.onGrid (interval : RoundingInterval) (place : Int) : Option Nat :=
  let scale := Nat.pow 2 interval.exponent.toNat * Nat.pow 10 (-place).toNat
  let unit := Nat.pow 2 (-interval.exponent).toNat * Nat.pow 10 place.toNat
  let inside (count : Nat) : Bool :=
    if interval.closed then
      decide (interval.low * scale ≤ count * unit ∧ count * unit ≤ interval.high * scale)
    else decide (interval.low * scale < count * unit ∧ count * unit < interval.high * scale)
  let below := interval.value * scale / unit
  let belowIsNearer := decide (2 * (interval.value * scale) < (2 * below + 1) * unit)
  match inside below, inside (below + 1) with
  | true, true => some (if belowIsNearer then below else below + 1)
  | true, false => some below
  | false, true => some (below + 1)
  | false, false => none

/-- The places a digit of a single can stand at, highest first. -/
def singlePlaces : List Int :=
  (List.range 100).map fun i => 39 - Int.ofNat i

/-- `x` with the fewest digits that read back as `x`, without an exponent. -/
def shortest (x : Float32) : String :=
  match x.toModel.unpack with
  | .notANumber => "NaN"
  | .infinity sign => signText sign ++ "inf"
  | .zero sign => signText sign ++ "0"
  | .finite sign significand exponent _ =>
    let interval := RoundingInterval.of significand exponent
    let hit := singlePlaces.findSome? fun place => (interval.onGrid place).map (·, place)
    match hit with
    | some (count, place) =>
      signText sign ++ positional (count * Nat.pow 10 place.toNat) (-place).toNat
    | none => signText sign ++ positional 0 0

end LightPilot.Decimal
