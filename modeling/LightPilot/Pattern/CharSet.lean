import LightPilot.Text.CodeRange

set_option autoImplicit false

/-! # Sets of characters

A set is kept as ascending ranges of code points with gaps between them, so that equal sets have equal
ranges. Complements are taken below a last code point, 255 for bytes and `lastCode` for characters. -/

namespace LightPilot.Pattern

/-- The last code point. -/
def lastCode : Nat := 0x10FFFF

/-- A set of code points. -/
structure CharSet where
  /-- First and last code points, ascending and apart. -/
  ranges : List (Nat × Nat)
  deriving DecidableEq

namespace CharSet

/-- Ascending ranges with those that touch joined, after a range that may still grow. -/
def join (first last : Nat) : List (Nat × Nat) → List (Nat × Nat)
  | [] => [(first, last)]
  | (start, stop) :: ranges =>
    if start ≤ last + 1 then join first (max last stop) ranges
    else (first, last) :: join start stop ranges

/-- The set with some ranges, in whatever order. -/
def ofRanges (ranges : List (Nat × Nat)) : CharSet :=
  match ranges.mergeSort fun r s => r.1 ≤ s.1 with
  | [] => ⟨[]⟩
  | (first, last) :: ranges => ⟨join first last ranges⟩

/-- The set of one character. -/
def single (c : Char) : CharSet := ⟨[(c.toNat, c.toNat)]⟩

/-- Whether a character belongs to a set. -/
def contains (set : CharSet) (c : Char) : Bool :=
  Text.isWithin set.ranges c

/-- Whether a set has no member. -/
def isEmpty (set : CharSet) : Bool :=
  set.ranges.isEmpty

/-- Whether all members are below 128. -/
def isAscii (set : CharSet) : Bool :=
  set.ranges.all fun (_, last) => last < 0x80

/-- The members of either set. -/
def union (a b : CharSet) : CharSet :=
  ofRanges (a.ranges ++ b.ranges)

/-- The gaps between ranges from a code point on, up to the last. -/
def gaps (top next : Nat) : List (Nat × Nat) → List (Nat × Nat)
  | [] => if next ≤ top then [(next, top)] else []
  | (first, last) :: ranges =>
    if next < first then (next, first - 1) :: gaps top (last + 1) ranges
    else gaps top (last + 1) ranges

/-- What does not belong to a set, up to a last code point. -/
def complement (top : Nat) (set : CharSet) : CharSet :=
  ⟨gaps top 0 set.ranges⟩

/-- The members of both sets. -/
def intersection (a b : CharSet) : CharSet :=
  complement lastCode (union (complement lastCode a) (complement lastCode b))

/-- The members of the first set only. -/
def difference (a b : CharSet) : CharSet :=
  intersection a (complement lastCode b)

/-- The part of a range in another, moved up or down; nothing if they do not meet. -/
def shifted (range within : Nat × Nat) (move : Nat → Nat) : List (Nat × Nat) :=
  let first := max range.1 within.1
  let last := min range.2 within.2
  if first ≤ last then [(move first, move last)] else []

/-- A set with the other case of its unaccented Latin letters. -/
def foldCase (set : CharSet) : CharSet :=
  ofRanges (set.ranges ++ set.ranges.flatMap fun range =>
    shifted range ('a'.toNat, 'z'.toNat) (· - 32) ++ shifted range ('A'.toNat, 'Z'.toNat) (· + 32))

end CharSet

end LightPilot.Pattern
