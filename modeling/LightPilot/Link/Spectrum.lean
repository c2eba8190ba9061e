import LightPilot.Number.Single
import LightPilot.Link.Config

set_option autoImplicit false

/-! # The discrete Fourier transform of a window

The forward transform without scaling, for lengths that are powers of two, by halving: the transform of
the even entries and that of the odd entries, turned by the roots of unity, give the lower half as
their sums and the upper half as their differences. Sums and products are in single precision; the roots
are computed in double precision and rounded. The first root is one and turns nothing, so that an infinite
entry stays infinite where no other root meets it.

A constant window comes out as zero in all bins but the first, because at each level the two halves are
equal and their difference is exactly zero. -/

namespace LightPilot

/-- A complex number with parts of one kind. -/
structure Complex (α : Type) where
  re : α
  im : α

namespace Complex

variable {α : Type} [Add α] [Sub α] [Mul α]

/-- The sum of each part. -/
def add (a b : Complex α) : Complex α := ⟨a.re + b.re, a.im + b.im⟩

/-- The difference of each part. -/
def sub (a b : Complex α) : Complex α := ⟨a.re - b.re, a.im - b.im⟩

/-- The product. -/
def mul (a b : Complex α) : Complex α :=
  ⟨a.re * b.re - a.im * b.im, a.re * b.im + a.im * b.re⟩

/-- The square of the absolute value, in single precision. -/
def normSquared (a : Complex Float32) : Float32 := a.re * a.re + a.im * a.im

/-- The number rounded to single precision. -/
def narrow (a : Complex Float) : Complex Float32 := ⟨Single.narrow a.re, Single.narrow a.im⟩

end Complex

namespace Spectrum

/-! ## Roots of unity -/

/-- The first root of unity of order `2 ^ (level + 1)` in clockwise direction, that is
`exp (-π i / 2 ^ level)`. Each is half the angle of the one before. -/
def firstRoot : (level : Nat) → Complex Float
  | 0 => ⟨-1, 0⟩
  | 1 => ⟨0, -1⟩
  | level + 2 =>
    let whole := firstRoot (level + 1)
    let cosine := ((1 + whole.re) / 2).sqrt
    ⟨cosine, whole.im / (2 * cosine)⟩

/-- The first `2 ^ level` powers of `firstRoot level`: the even ones are those of the level below, and
the odd ones are one turn farther. -/
def roots : (level : Nat) → List (Complex Float)
  | 0 => [⟨1, 0⟩]
  | level + 1 =>
    let turn := firstRoot (level + 1)
    (roots level).flatMap fun root => [root, root.mul turn]

/-! ## The transform -/

/-- The entries at even and at odd places. -/
def halves {α : Type} : List α → List α × List α
  | [] => ([], [])
  | a :: rest =>
    let (evens, odds) := halves rest
    (a :: odds, evens)

/-- Numbers turned by the powers of `firstRoot level`; the first stays as it is. -/
def turn (level : Nat) : List (Complex Float32) → List (Complex Float32)
  | [] => []
  | first :: values =>
    first :: List.zipWith Complex.mul ((roots level).tail.map Complex.narrow) values

/-- The transform of a list of `2 ^ level` numbers. -/
def transform : (level : Nat) → List (Complex Float32) → List (Complex Float32)
  | 0, values => values
  | level + 1, values =>
    let (evens, odds) := halves values
    let evens := transform level evens
    let turned := turn level (transform level odds)
    List.zipWith Complex.add evens turned ++ List.zipWith Complex.sub evens turned

/-- The spectrum of a window; refused for a length that cannot be transformed. -/
def of (values : List (Complex Float32)) : Except LinkError (List (Complex Float32)) := do
  checkWindowSize values.length
  return transform values.length.log2 values

end Spectrum

end LightPilot
