import LightPilot.Pattern.Shape

set_option autoImplicit false

/-! # How much a pattern may ask for

A pattern with numbers of repetitions can be short and ask for very much. Its extent is the memory in bytes
of an automaton over bytes that finds it, in which every part repeated is written out; patterns beyond a
limit are refused. -/

namespace LightPilot.Pattern

/-- The greatest extent of a pattern. -/
def extentLimit : Nat := 10 * 1024 * 1024

/-- The bytes of a state. -/
def stateBytes : Nat := 32

/-- The bytes of a way from a state that has several and tests none. -/
def linkBytes : Nat := 4

/-- The bytes of a way from a state that tests for several ranges. -/
def arcBytes : Nat := 8

/-- The number of bytes of a character. -/
def encodedLength (code : Nat) : Nat :=
  if code < 0x80 then 1 else if code < 0x800 then 2 else if code < 0x10000 then 3 else 4

/-- The states for a range of code points, and how many of them may come first. A range over all characters
of several bytes has 26 states in 8 chains, from the first bytes on. -/
def rangeStates (range : Nat × Nat) : Nat × Nat :=
  let (first, last) := range
  if last < 0x80 then (1, 1)
  else
    let below := if first < 0x80 then 1 else 0
    if last < lastCode then (below + 2 * encodedLength last, below + 2) else (below + 26, below + 8)

/-- The extent of a set of characters. -/
def CharSet.extent (set : CharSet) : Nat :=
  match set.ranges with
  | [] => stateBytes
  | [(first, last)] =>
    if first = last then stateBytes * encodedLength first
    else if set.isAscii then 2 * stateBytes + arcBytes
    else spread set
  | ranges => if set.isAscii then 2 * stateBytes + arcBytes * ranges.length else spread set
where
  /-- The extent of a set with characters of several bytes. -/
  spread (set : CharSet) : Nat :=
    let states := set.ranges.map rangeStates
    stateBytes * (2 + (states.map Prod.fst).foldr (· + ·) 0)
      + linkBytes * (states.map Prod.snd).foldr (· + ·) 0

namespace Shape

/-- The extent of the choice whether to go on. -/
def forkExtent : Nat := stateBytes + 2 * linkBytes

mutual

/-- The extent of a shape. -/
def extent : Shape → Nat
  | empty | look _ => stateBytes
  | oneOf set => set.extent
  | group body => 2 * stateBytes + body.extent
  | sequence parts => extentAll parts
  | choice branches => 2 * stateBytes + extentAny branches
  | repeated count body =>
    match count.most? with
    | some most =>
      let optional := most - count.least
      most * body.extent + optional * forkExtent
        + (if optional = 0 then 0 else stateBytes) + (if count.least = 0 then stateBytes else 0)
    | none =>
      if count.least = 0 && !body.takesSome then body.extent + 2 * forkExtent + stateBytes
      else max count.least 1 * body.extent + forkExtent

/-- The extent of some shapes one after the other. -/
def extentAll : List Shape → Nat
  | [] => 0
  | shape :: shapes => shape.extent + extentAll shapes

/-- The extent of some branches. -/
def extentAny : List Shape → Nat
  | [] => 0
  | shape :: shapes => linkBytes + shape.extent + extentAny shapes

end

/-- The extent of a search for a shape: what finds its start and its ends is added. -/
def searchExtent (shape : Shape) : Nat :=
  shape.extent + 7 * stateBytes + 2 * linkBytes + arcBytes

end Shape

end LightPilot.Pattern
