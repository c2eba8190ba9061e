set_option autoImplicit false

/-! # Natural logarithm in single precision

The argument is split into `2 ^ k * (1 + f)` with `1 + f` between the square roots of one half and of
two. With `s = f / (2 + f)` the logarithm of `1 + f` is `2 s + 2 s ^ 3 / 3 + …`; the tail of that series
is a polynomial in `s ^ 2`, and `k` times the logarithm of two is added in a high and a low part. -/

namespace LightPilot.Single

/-- The square root of one half, as a bit pattern. -/
def halfRootBits : UInt32 := 0x3f3504f3

/-- The coefficients of the tail, lowest power first. -/
def logCoefficient1 : Float32 := 0.66666662693
@[inherit_doc logCoefficient1] def logCoefficient2 : Float32 := 0.40000972152
@[inherit_doc logCoefficient1] def logCoefficient3 : Float32 := 0.28498786688
@[inherit_doc logCoefficient1] def logCoefficient4 : Float32 := 0.24279078841

/-- The logarithm of two, up to its low part. -/
def logTwoHigh : Float32 := 6.9313812256e-01

/-- What `logTwoHigh` lacks of the logarithm of two. -/
def logTwoLow : Float32 := 9.0580006145e-06

/-- The natural logarithm of a positive normal number. -/
def log (x : Float32) : Float32 :=
  if x.toBits = 0x3f800000 then 0
  else
    let shifted := x.toBits + (0x3f800000 - halfRootBits)
    let k := Float32.ofInt ((shifted >>> 23).toNat - 127)
    let f := Float32.ofBits ((shifted &&& 0x7fffff) + halfRootBits) - 1
    let s := f / (2 + f)
    let z := s * s
    let w := z * z
    let odd := z * (logCoefficient1 + w * logCoefficient3)
    let even := w * (logCoefficient2 + w * logCoefficient4)
    let r := odd + even
    let h := 0.5 * f * f
    s * (h + r) + k * logTwoLow - h + f + k * logTwoHigh

end LightPilot.Single
