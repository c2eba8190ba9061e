import LightPilot.Proofs.Filter.Systematic

set_option autoImplicit false

/-! # Systematic sampling in 32-bit words

`Systematic.picks` counts in natural numbers. Here the same walk is made in words, with masses computed one
at a time as the walk reaches their items, and it gives up as soon as a sum or product is no word, a
difference is negative, or the pointer passes the last item (`Systematic.Words`). As long as the scores add
up to a word and each scaled score is one, none of this happens, and the walk picks the same items
(`Words.picks_eq_ok`). -/

namespace LightPilot.Systematic

/-- Why a walk in words cannot go on. -/
inductive WalkFault
  /-- A sum or a product is no word. -/
  | overflow
  /-- A difference is negative. -/
  | underflow
  /-- The pointer is beyond the last item. -/
  | ranOut
  deriving DecidableEq

namespace Words

variable {α : Type}

/-! ## Checked arithmetic -/

/-- The sum of two words, if it is one. -/
def add (a b : UInt32) : Except WalkFault UInt32 :=
  if a.toNat + b.toNat < 2 ^ 32 then .ok (a + b) else .error .overflow

/-- The product of two words, if it is one. -/
def mul (a b : UInt32) : Except WalkFault UInt32 :=
  if a.toNat * b.toNat < 2 ^ 32 then .ok (a * b) else .error .overflow

/-- The difference of two words, if it is not negative. -/
def sub (a b : UInt32) : Except WalkFault UInt32 :=
  if b ≤ a then .ok (a - b) else .error .underflow

theorem exists_add {a b : UInt32} (h : a.toNat + b.toNat < 2 ^ 32) :
    ∃ sum, add a b = .ok sum ∧ sum.toNat = a.toNat + b.toNat := by
  refine ⟨a + b, if_pos h, ?_⟩
  rw [UInt32.toNat_add, Nat.mod_eq_of_lt h]

theorem exists_mul {a b : UInt32} (h : a.toNat * b.toNat < 2 ^ 32) :
    ∃ product, mul a b = .ok product ∧ product.toNat = a.toNat * b.toNat := by
  refine ⟨a * b, if_pos h, ?_⟩
  rw [UInt32.toNat_mul, Nat.mod_eq_of_lt h]

theorem exists_sub {a b : UInt32} (h : b.toNat ≤ a.toNat) :
    ∃ difference, sub a b = .ok difference ∧ difference.toNat = a.toNat - b.toNat := by
  have hle : b ≤ a := UInt32.le_iff_toNat_le.2 h
  exact ⟨a - b, if_pos hle, UInt32.toNat_sub_of_le a b hle⟩

/-! ## The walk -/

/-- A place in the walk: the item under the pointer, its mass beyond the pointer, and the items farther on
with their scores, which are not scaled yet. -/
structure Place (α : Type) where
  item : α
  remaining : UInt32
  rest : List (α × UInt16)

/-- The sum of the scores. -/
def total (weighted : List (α × UInt16)) : Except WalkFault UInt32 :=
  weighted.foldlM (fun sum entry => add sum entry.2.toUInt32) 0

/-- Moves the pointer on by `counter`; each item reached is scaled by `count`. -/
def seek (count : UInt32) (item : α) (remaining : UInt32) :
    List (α × UInt16) → (counter : UInt32) → Except WalkFault (Place α)
  | [], counter =>
    if remaining < counter then .error .ranOut
    else do
      let remaining ← sub remaining counter
      return ⟨item, remaining, []⟩
  | (next, score) :: rest, counter =>
    if remaining < counter then do
      let counter ← sub counter remaining
      let mass ← mul score.toUInt32 count
      seek count next mass rest counter
    else do
      let remaining ← sub remaining counter
      return ⟨item, remaining, (next, score) :: rest⟩

/-- The items under the next pointers, the first `counter` ahead and the others `spacing` apart. -/
def picksFrom (count spacing : UInt32) :
    (pointers : Nat) → (counter : UInt32) → Place α → Except WalkFault (List α)
  | 0, _, _ => .ok []
  | pointers + 1, counter, place => do
    let next ← seek count place.item place.remaining place.rest counter
    let picked ← picksFrom count spacing pointers spacing next
    return next.item :: picked

/-- `count` items in proportion to their scores, the first pointer at `start`. -/
def picks (weighted : List (α × UInt16)) (count start : UInt32) : Except WalkFault (List α) := do
  let spacing ← total weighted
  match weighted with
  | [] => return []
  | (item, score) :: rest =>
    let mass ← mul score.toUInt32 count
    picksFrom count spacing count.toNat start ⟨item, mass, rest⟩

/-! ## The same walk in natural numbers -/

/-- The items with their scores as numbers. -/
def weights (weighted : List (α × UInt16)) : List (α × Nat) :=
  weighted.map fun entry => (entry.1, entry.2.toNat)

/-- The place that the walk in natural numbers is at. -/
def Place.cursor (place : Place α) (count : UInt32) : Cursor α :=
  ⟨place.item, place.remaining.toNat, scaled (weights place.rest) count.toNat⟩

/-- Each scaled score is a word. -/
def Fits (weighted : List (α × UInt16)) (count : UInt32) : Prop :=
  ∀ entry ∈ weighted, entry.2.toNat * count.toNat < 2 ^ 32

theorem Fits.tail {entry : α × UInt16} {weighted : List (α × UInt16)} {count : UInt32}
    (h : Fits (entry :: weighted) count) : Fits weighted count :=
  fun other hother => h other (List.mem_cons_of_mem _ hother)

/-- A score that fits can be scaled. -/
theorem Fits.exists_mul {item : α} {score : UInt16} {weighted : List (α × UInt16)} {count : UInt32}
    (h : Fits ((item, score) :: weighted) count) :
    ∃ mass, mul score.toUInt32 count = .ok mass ∧ mass.toNat = score.toNat * count.toNat := by
  have hscore : score.toUInt32.toNat = score.toNat := UInt16.toNat_toUInt32 score
  rw [← hscore]
  apply Words.exists_mul
  rw [hscore]
  exact h (item, score) List.mem_cons_self

theorem weights_cons (entry : α × UInt16) (weighted : List (α × UInt16)) :
    weights (entry :: weighted) = (entry.1, entry.2.toNat) :: weights weighted := rfl

theorem scaled_cons (entry : α × Nat) (weighted : List (α × Nat)) (count : Nat) :
    scaled (entry :: weighted) count = (entry.1, entry.2 * count) :: scaled weighted count := rfl

/-- Adding the scores to a sum, as long as the result is a word. -/
theorem exists_foldlM_add (weighted : List (α × UInt16)) (sum : UInt32)
    (hsum : sum.toNat + lineLength (weights weighted) < 2 ^ 32) :
    ∃ spacing, weighted.foldlM (fun sum entry => add sum entry.2.toUInt32) sum = .ok spacing ∧
      spacing.toNat = sum.toNat + lineLength (weights weighted) := by
  induction weighted generalizing sum with
  | nil => exact ⟨sum, rfl, rfl⟩
  | cons entry weighted ih =>
      rw [weights_cons, lineLength_cons] at hsum ⊢
      have hscore : entry.2.toUInt32.toNat = entry.2.toNat := UInt16.toNat_toUInt32 entry.2
      obtain ⟨next, hnext, hvalue⟩ := exists_add (a := sum) (b := entry.2.toUInt32) (by omega)
      obtain ⟨spacing, hspacing, htotal⟩ := ih next (by omega)
      refine ⟨spacing, ?_, by omega⟩
      rw [List.foldlM_cons, hnext]
      exact hspacing

theorem exists_total (weighted : List (α × UInt16)) (hsum : lineLength (weights weighted) < 2 ^ 32) :
    ∃ spacing, total weighted = .ok spacing ∧ spacing.toNat = lineLength (weights weighted) := by
  have hfold := exists_foldlM_add weighted 0
  rw [UInt32.toNat_zero, Nat.zero_add] at hfold
  exact hfold hsum

/-- As long as the pointer stays on the line, moving it on in words is moving it on in numbers. -/
theorem exists_seek (count : UInt32) (item : α) (remaining : UInt32) (rest : List (α × UInt16))
    (counter : UInt32) (hfits : Fits rest count)
    (hline : counter.toNat ≤ remaining.toNat + lineLength (scaled (weights rest) count.toNat)) :
    ∃ next, seek count item remaining rest counter = .ok next ∧ Fits next.rest count ∧
      next.cursor count
        = Systematic.seek item remaining.toNat (scaled (weights rest) count.toNat) counter.toNat := by
  induction rest generalizing item remaining counter with
  | nil =>
      have hle : counter.toNat ≤ remaining.toNat := by simpa [weights, scaled] using hline
      obtain ⟨left, hleft, hvalue⟩ := exists_sub hle
      refine ⟨⟨item, left, []⟩, ?_, hfits, ?_⟩
      · rw [seek, if_neg (by rw [UInt32.lt_iff_toNat_lt]; omega), hleft]
        rfl
      · simp [Place.cursor, weights, scaled, Systematic.seek, hvalue]
  | cons entry rest ih =>
      obtain ⟨following, score⟩ := entry
      rw [weights_cons, scaled_cons] at hline ⊢
      rw [seek, Systematic.seek]
      by_cases hpast : remaining.toNat < counter.toNat
      · obtain ⟨ahead, hahead, hvalue⟩ := exists_sub (Nat.le_of_lt hpast)
        obtain ⟨mass, hmass, hscaled⟩ := hfits.exists_mul
        obtain ⟨next, hnext, hnextFits, hcursor⟩ := ih following mass ahead hfits.tail (by
          rw [lineLength_cons] at hline
          dsimp only at hline
          omega)
        refine ⟨next, ?_, hnextFits, ?_⟩
        · rw [if_pos (UInt32.lt_iff_toNat_lt.2 hpast), hahead, hmass]
          exact hnext
        · rw [if_pos hpast, hcursor, hscaled, hvalue]
      · obtain ⟨left, hleft, hvalue⟩ := exists_sub (Nat.not_lt.1 hpast)
        refine ⟨⟨item, left, (following, score) :: rest⟩, ?_, hfits, ?_⟩
        · rw [if_neg (by rwa [UInt32.lt_iff_toNat_lt]), hleft]
          rfl
        · rw [if_neg hpast, Place.cursor, hvalue]
          rfl

theorem picksFrom_eq_ok (count spacing : UInt32) (pointers : Nat) (counter : UInt32) (place : Place α)
    (hfits : Fits place.rest count)
    (hend : ∀ k < pointers,
      counter.toNat + k * spacing.toNat ≤ lineLength (place.cursor count).line) :
    picksFrom count spacing pointers counter place
      = .ok (Systematic.picksFrom spacing.toNat pointers counter.toNat (place.cursor count)) := by
  induction pointers generalizing counter place with
  | zero => rfl
  | succ pointers ih =>
      have hfirst : counter.toNat
          ≤ place.remaining.toNat + lineLength (scaled (weights place.rest) count.toNat) := by
        simpa [Place.cursor, Cursor.line] using hend 0 (by omega)
      obtain ⟨next, hnext, hnextFits, hcursor⟩ :=
        exists_seek count place.item place.remaining place.rest counter hfits hfirst
      have hlength := lineLength_seek place.item place.remaining.toNat
        (scaled (weights place.rest) count.toNat) counter.toNat
      have hrest := ih spacing next hnextFits (by
        intro k hk
        have hlast := hend (k + 1) (by omega)
        rw [Nat.succ_mul] at hlast
        rw [hcursor, hlength]
        simp only [Place.cursor, Cursor.line, lineLength_cons] at hlast
        omega)
      have hitem : next.item = (next.cursor count).item := rfl
      rw [picksFrom, Systematic.picksFrom, hnext]
      change (picksFrom count spacing pointers spacing next >>= fun picked =>
        .ok (next.item :: picked)) = _
      rw [hrest, hitem, hcursor]
      rfl

/-- **The walk in words.** When the scores add up to a word and each scaled score is one, the walk meets no
fault and picks what the walk in natural numbers picks. -/
theorem picks_eq_ok (weighted : List (α × UInt16)) (count start : UInt32)
    (hsum : lineLength (weights weighted) < 2 ^ 32) (hfits : Fits weighted count)
    (hstart : 0 < start.toNat) (htotal : start.toNat ≤ lineLength (weights weighted)) :
    picks weighted count start
      = .ok (Systematic.picks (weights weighted) count.toNat start.toNat) := by
  obtain ⟨spacing, hspacing, hvalue⟩ := exists_total weighted hsum
  rw [picks, hspacing]
  cases weighted with
  | nil =>
      have hlength : lineLength (weights ([] : List (α × UInt16))) = 0 := rfl
      omega
  | cons entry rest =>
      obtain ⟨item, score⟩ := entry
      obtain ⟨mass, hmass, hscaled⟩ := hfits.exists_mul
      have hlength := lineLength_scaled (weights ((item, score) :: rest)) count.toNat
      have hwalk := picksFrom_eq_ok count spacing count.toNat start ⟨item, mass, rest⟩ hfits.tail (by
        intro k hk
        have hlast := Systematic.pointer_le hk htotal
        rw [← hlength] at hlast
        rw [hvalue, Place.cursor, hscaled]
        exact hlast)
      change (mul score.toUInt32 count >>= fun mass =>
        picksFrom count spacing count.toNat start ⟨item, mass, rest⟩) = _
      rw [hmass]
      refine hwalk.trans ?_
      rw [hvalue, Place.cursor, hscaled]
      rfl

end Words

end LightPilot.Systematic
