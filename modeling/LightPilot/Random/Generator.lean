set_option autoImplicit false

/-! # Random words and uniform draws

The generator's state is one 64-bit word. A draw adds an odd constant to it and mixes the sum by a
128-bit product, so the states run through all `2 ^ 64` words before one comes back, whatever the
seed. A draw that may have to be repeated therefore ends within `period` attempts if any word at all
is accepted, and `period` is the bound on those loops. -/

namespace LightPilot

/-- A generator of random words. -/
structure Generator where
  state : UInt64
  deriving DecidableEq

namespace Generator

/-- What a draw adds to the state. -/
def increment : UInt64 := 0xa0761d6478bd642f

/-- What the state is mixed with. -/
def mask : UInt64 := 0xe7037ed1a0b428db

/-- The number of states. -/
def period : Nat := Nat.pow 2 64

/-- The word that belongs to a state: the halves of the product of the state and its masked self, one
over the other. -/
def output (state : UInt64) : UInt64 :=
  let product := state.toNat * (state ^^^ mask).toNat
  UInt64.ofNat ((product >>> 64) ^^^ product)

/-- The next state. -/
def advance (g : Generator) : Generator :=
  ⟨g.state + increment⟩

/-- One 32-bit word. -/
def word (g : Generator) : UInt32 × Generator :=
  ((output g.advance.state).toUInt32, g.advance)

/-- One word times `bound`; the upper half of the product is a number below `bound`. -/
def scaledWord (bound : Nat) (g : Generator) : Nat × Generator :=
  (g.word.1.toNat * bound, g.word.2)

/-- Draws again while the lower half of the product is below `threshold`. -/
def redraw (bound threshold : Nat) : Nat → Nat × Generator → Nat × Generator
  | 0, draw => draw
  | attempts + 1, (product, g) =>
    if product % Nat.pow 2 32 < threshold then redraw bound threshold attempts (g.scaledWord bound)
    else (product, g)

/-- A draw that favours no number: a product that would is drawn again. -/
def unbiased (bound : Nat) (draw : Nat × Generator) : Nat × Generator :=
  if draw.1 % Nat.pow 2 32 < bound then
    redraw bound ((Nat.pow 2 32 - bound) % bound) period draw
  else draw

/-- A number from 1 to `bound`, each equally likely. -/
def upTo (bound : Nat) (g : Generator) : Nat × Generator :=
  let draw := unbiased bound (g.scaledWord bound)
  (draw.1 / Nat.pow 2 32 + 1, draw.2)

/-- A number from 0 to 1, both included. -/
def unit (g : Generator) : Float32 × Generator :=
  (g.word.1.toFloat32 / 4294967296, g.word.2)

/-- A number from `low` up to `high`, which is left out. -/
def within (low high : Float32) (g : Generator) : Float32 × Generator :=
  let (u, g) := g.unit
  let value := low + u * (high - low)
  (if value ≥ high then low else value, g)

/-- The results of `count` draws, in order. -/
def draws {α : Type} (draw : Generator → α × Generator) :
    (count : Nat) → Generator → Vector α count × Generator
  | 0, g => (#v[], g)
  | count + 1, g =>
    let (values, g) := draws draw count g
    let (value, g) := draw g
    (values.push value, g)

end Generator

end LightPilot
