set_option autoImplicit false

/-! # Systematic sampling of weighted items

To draw `count` items in proportion to their weights, lay the items side by side, each as long as its
weight, and let `count` equally spaced pointers fall on them; only the first pointer is random. Weights
are scaled by `count`, so the pointers are `total` apart, where `total` is the sum of the unscaled
weights, and everything stays a whole number: with the first pointer at `start`, between 1 and `total`,
pointer `k` is at `start + k * total` and the last one still falls on the last item or before it.

`picks` walks once over the items. It keeps the item under the last pointer and the mass of that item
beyond the pointer, which is the carry to the next one. `fill` then hands the picks to the slots that
need one. -/

namespace LightPilot.Systematic

/-- A place in the walk. -/
structure Cursor (α : Type) where
  /-- The item under the pointer. -/
  item : α
  /-- The mass of the item beyond the pointer. -/
  remaining : Nat
  /-- The items farther on, with their masses. -/
  rest : List (α × Nat)

/-- Moves the pointer on by `counter`, starting at `item` with `remaining` mass left. -/
def seek {α : Type} (item : α) (remaining : Nat) : List (α × Nat) → (counter : Nat) → Cursor α
  | [], counter => ⟨item, remaining - counter, []⟩
  | (next, mass) :: rest, counter =>
    if remaining < counter then seek next mass rest (counter - remaining)
    else ⟨item, remaining - counter, (next, mass) :: rest⟩

/-- The items under `count` pointers, the first `counter` ahead and the others `spacing` apart. -/
def picksFrom {α : Type} (spacing : Nat) : (count counter : Nat) → Cursor α → List α
  | 0, _, _ => []
  | count + 1, counter, cursor =>
    let next := seek cursor.item cursor.remaining cursor.rest counter
    next.item :: picksFrom spacing count spacing next

/-- `count` items in proportion to their weights, the first pointer at `start`. -/
def picks {α : Type} (weighted : List (α × Nat)) (count start : Nat) : List α :=
  let total := (weighted.map Prod.snd).foldr (· + ·) 0
  match weighted.map fun (item, weight) => (item, weight * count) with
  | [] => []
  | (item, mass) :: rest => picksFrom total count start ⟨item, mass, rest⟩

/-- The content of each slot: a kept slot keeps its own item, the others receive the picks in order. -/
def fill {α : Type} : List (α × Bool) → List α → List α
  | [], _ => []
  | (own, true) :: slots, picked => own :: fill slots picked
  | (_, false) :: slots, pick :: picked => pick :: fill slots picked
  | (own, false) :: slots, [] => own :: fill slots []

@[simp] theorem length_fill {α : Type} (slots : List (α × Bool)) (picked : List α) :
    (fill slots picked).length = slots.length := by
  fun_induction fill slots picked <;> simp_all

end LightPilot.Systematic
