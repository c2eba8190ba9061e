import LightPilot.Filter.Systematic
import Mathlib

set_option autoImplicit false

/-! # Where the pointers of systematic sampling fall

`Systematic.picks` walks over the items with a carry. This file compares the walk with its closed
form: the items lie side by side on a line, `itemAt line x` is the item that covers position `x`, and
pick number `k` is the item at `start + k * total` on the line of scaled weights (`map_some_picks`).
An item covers the positions beyond the masses before it, up to its own (`itemAt_finRange`), so the
number of times it is picked is a number of equally spaced pointers in an interval, which is its fair
share rounded down or up (`count_picks`). -/

namespace LightPilot.Systematic

variable {α β : Type}

/-! ## A line of items -/

/-- The length of a line of items. -/
def lineLength (line : List (α × Nat)) : Nat :=
  (line.map Prod.snd).sum

@[simp] theorem lineLength_nil : lineLength ([] : List (α × Nat)) = 0 := rfl

@[simp] theorem lineLength_cons (entry : α × Nat) (line : List (α × Nat)) :
    lineLength (entry :: line) = entry.2 + lineLength line := by
  simp [lineLength]

/-- The item that covers a position of a line. Positions are counted from 1. -/
def itemAt : List (α × Nat) → Nat → Option α
  | [], _ => none
  | (item, mass) :: line, x => if x ≤ mass then some item else itemAt line (x - mass)

theorem itemAt_map (f : α → β) (line : List (α × Nat)) (x : Nat) :
    itemAt (line.map fun entry => (f entry.1, entry.2)) x = (itemAt line x).map f := by
  induction line generalizing x with
  | nil => rfl
  | cons entry line ih =>
      simp only [List.map_cons, itemAt, ih]
      split <;> rfl

/-- The line of items that a cursor has before it, from its pointer on. -/
def Cursor.line (cursor : Cursor α) : List (α × Nat) :=
  (cursor.item, cursor.remaining) :: cursor.rest

/-! ## The walk along the line -/

/-- Moving the pointer on finds the item at the new position. -/
theorem some_item_seek (item : α) (remaining : Nat) (rest : List (α × Nat)) (counter : Nat)
    (h : counter ≤ remaining + lineLength rest) :
    some (seek item remaining rest counter).item = itemAt ((item, remaining) :: rest) counter := by
  induction rest generalizing item remaining counter with
  | nil =>
      simp only [lineLength_nil, Nat.add_zero] at h
      simp [seek, itemAt, h]
  | cons entry rest ih =>
      obtain ⟨next, mass⟩ := entry
      rw [seek, itemAt]
      by_cases hpast : remaining < counter
      · rw [if_pos hpast, if_neg (Nat.not_le.2 hpast)]
        apply ih
        simp only [lineLength_cons] at h
        omega
      · rw [if_neg hpast, if_pos (Nat.not_lt.1 hpast)]

/-- The line from the new pointer on is the old line without what was passed. -/
theorem itemAt_line_seek (item : α) (remaining : Nat) (rest : List (α × Nat)) (counter x : Nat)
    (hx : 0 < x) :
    itemAt (seek item remaining rest counter).line x
      = itemAt ((item, remaining) :: rest) (counter + x) := by
  induction rest generalizing item remaining counter with
  | nil =>
      have hiff : x ≤ remaining - counter ↔ counter + x ≤ remaining := by omega
      simp [seek, Cursor.line, itemAt, hiff]
  | cons entry rest ih =>
      obtain ⟨next, mass⟩ := entry
      rw [seek]
      by_cases hpast : remaining < counter
      · have hfar : ¬ counter + x ≤ remaining := by omega
        rw [if_pos hpast, ih, itemAt, itemAt, itemAt, if_neg hfar]
        congr 2 <;> omega
      · have hiff : x ≤ remaining - counter ↔ counter + x ≤ remaining := by omega
        have hsub : x - (remaining - counter) = counter + x - remaining := by omega
        simp only [if_neg hpast, Cursor.line, itemAt, hiff, hsub]

theorem lineLength_seek (item : α) (remaining : Nat) (rest : List (α × Nat)) (counter : Nat) :
    lineLength (seek item remaining rest counter).line = remaining + lineLength rest - counter := by
  induction rest generalizing item remaining counter with
  | nil => simp [seek, Cursor.line]
  | cons entry rest ih =>
      obtain ⟨next, mass⟩ := entry
      rw [seek]
      by_cases hpast : remaining < counter
      · rw [if_pos hpast, ih, lineLength_cons]
        omega
      · simp only [if_neg hpast, Cursor.line, lineLength_cons]
        omega

/-- Each pick is the item under its pointer, as long as no pointer runs off the line. -/
theorem map_some_picksFrom (spacing count counter : Nat) (cursor : Cursor α) (hspacing : 0 < spacing)
    (hend : ∀ k < count, counter + k * spacing ≤ lineLength cursor.line) :
    (picksFrom spacing count counter cursor).map some
      = (List.range count).map fun k => itemAt cursor.line (counter + k * spacing) := by
  induction count generalizing counter cursor with
  | zero => rfl
  | succ count ih =>
      have hfirst : counter ≤ cursor.remaining + lineLength cursor.rest := by
        simpa [Cursor.line] using hend 0 (by omega)
      have hlength := lineLength_seek cursor.item cursor.remaining cursor.rest counter
      rw [picksFrom, List.map_cons, some_item_seek _ _ _ _ hfirst, List.range_succ_eq_map,
        List.map_cons, List.map_map, ih]
      · congr 1
        · simp [Cursor.line]
        · apply List.map_congr_left
          intro k _
          rw [itemAt_line_seek _ _ _ _ _ (by omega)]
          simp only [Function.comp_apply, Nat.succ_mul]
          congr 1
          omega
      · intro k hk
        have hnext := hend (k + 1) (by omega)
        simp only [Cursor.line, lineLength_cons, Nat.succ_mul] at hnext
        omega

/-- The line of items with their masses scaled by the number of picks. -/
def scaled (weighted : List (α × Nat)) (count : Nat) : List (α × Nat) :=
  weighted.map fun entry => (entry.1, entry.2 * count)

theorem lineLength_scaled (weighted : List (α × Nat)) (count : Nat) :
    lineLength (scaled weighted count) = lineLength weighted * count := by
  induction weighted with
  | nil => simp [scaled]
  | cons entry weighted ih =>
      simp only [scaled, List.map_cons, lineLength_cons] at ih ⊢
      rw [ih, Nat.add_mul]

/-- Every pointer is on the scaled line. -/
theorem pointer_le {count start total k : Nat} (hk : k < count) (htotal : start ≤ total) :
    start + k * total ≤ total * count := by
  calc start + k * total
      ≤ (k + 1) * total := by rw [Nat.succ_mul]; omega
    _ ≤ count * total := Nat.mul_le_mul_right _ hk
    _ = total * count := Nat.mul_comm _ _

/-- **The walk in closed form.** With the first pointer between 1 and the total weight, pick number `k`
is the item at position `start + k * total` of the scaled line. -/
theorem map_some_picks (weighted : List (α × Nat)) (count start : Nat) (hstart : 0 < start)
    (htotal : start ≤ lineLength weighted) :
    (picks weighted count start).map some
      = (List.range count).map fun k =>
          itemAt (scaled weighted count) (start + k * lineLength weighted) := by
  have hlength := lineLength_scaled weighted count
  cases weighted with
  | nil => simp at htotal; omega
  | cons entry weighted =>
      obtain ⟨item, weight⟩ := entry
      apply map_some_picksFrom
      · exact Nat.lt_of_lt_of_le hstart htotal
      · intro k hk
        have hlast := pointer_le hk htotal
        rw [← hlength] at hlast
        exact hlast

theorem length_picks (weighted : List (α × Nat)) (count start : Nat) (hstart : 0 < start)
    (htotal : start ≤ lineLength weighted) : (picks weighted count start).length = count := by
  have h := congrArg List.length (map_some_picks weighted count start hstart htotal)
  simpa using h

/-! ## Which positions an item covers -/

section Numbered

variable {n : Nat}

/-- The items `0` to `n - 1` with their weights. -/
def numbered (weight : Fin n → Nat) : List (Fin n × Nat) :=
  (List.finRange n).map fun i => (i, weight i)

/-- The masses before an item. -/
def massBefore (weight : Fin n → Nat) (c : Fin n) : Nat :=
  ∑ i, if i < c then weight i else 0

@[simp] theorem lineLength_numbered (weight : Fin n → Nat) :
    lineLength (numbered weight) = ∑ i, weight i := by
  simp [lineLength, numbered, Function.comp_def, Fin.sum_univ_def]

theorem scaled_numbered (weight : Fin n → Nat) (count : Nat) :
    scaled (numbered weight) count = numbered fun i => weight i * count := by
  simp [scaled, numbered]

theorem numbered_succ (weight : Fin (n + 1) → Nat) :
    numbered weight
      = (0, weight 0) :: (numbered fun i => weight i.succ).map fun entry =>
          (entry.1.succ, entry.2) := by
  simp [numbered, List.finRange_succ]

@[simp] theorem massBefore_zero (weight : Fin (n + 1) → Nat) : massBefore weight 0 = 0 := by
  simp [massBefore]

theorem massBefore_succ (weight : Fin (n + 1) → Nat) (c : Fin n) :
    massBefore weight c.succ = weight 0 + massBefore (fun i => weight i.succ) c := by
  simp [massBefore, Fin.sum_univ_succ]

/-- An item covers the positions beyond the masses before it, up to its own mass. -/
theorem itemAt_numbered (weight : Fin n → Nat) (c : Fin n) (x : Nat) (hx : 0 < x) :
    itemAt (numbered weight) x = some c
      ↔ massBefore weight c < x ∧ x ≤ massBefore weight c + weight c := by
  induction n generalizing x with
  | zero => exact c.elim0
  | succ n ih =>
      rw [numbered_succ, itemAt]
      cases c using Fin.cases with
      | zero =>
          simp only [massBefore_zero, Nat.zero_add]
          split
          · next hle => simp [hx, hle]
          · next hgt => simp [itemAt_map, hgt, Fin.succ_ne_zero]
      | succ c =>
          rw [massBefore_succ]
          split
          · next hle =>
              have hne : (0 : Fin (n + 1)) ≠ c.succ := (Fin.succ_ne_zero c).symm
              simp only [Option.some.injEq, hne, false_iff, not_and]
              omega
          · next hgt =>
              have hstep := ih (fun i => weight i.succ) c (x - weight 0) (by omega)
              simp only [itemAt_map, Option.map_eq_some_iff, Fin.succ_inj, exists_eq_right, hstep]
              omega

theorem massBefore_add_le (weight : Fin n → Nat) (c : Fin n) :
    massBefore weight c + weight c ≤ ∑ i, weight i := by
  have hself : weight c = ∑ i, if i = c then weight i else 0 := by simp
  rw [massBefore, hself, ← Finset.sum_add_distrib]
  apply Finset.sum_le_sum
  intro i _
  by_cases hlt : i < c
  · simp [hlt, hlt.ne]
  · by_cases heq : i = c <;> simp [hlt, heq]

end Numbered

/-! ## Counting pointers -/

theorem countP_lt_range (bound count : Nat) :
    (List.range count).countP (fun k => decide (k < bound)) = min bound count := by
  induction count with
  | zero => simp
  | succ count ih =>
      rw [List.range_succ, List.countP_append, ih, List.countP_singleton]
      by_cases h : count < bound
      · simp only [h, decide_true, if_pos]
        omega
      · simp only [h, decide_false]
        simp
        omega

/-- The number of pointers up to a position. -/
theorem countP_pointers (start spacing count x : Nat) (hstart : 0 < start)
    (hle : start ≤ spacing) (hx : x ≤ count * spacing) :
    (List.range count).countP (fun k => decide (start + k * spacing ≤ x))
      = (x + spacing - start) / spacing := by
  have hspacing : 0 < spacing := by omega
  have hpointer : ∀ k, start + k * spacing ≤ x ↔ k < (x + spacing - start) / spacing := by
    intro k
    rw [← Nat.succ_le_iff, Nat.le_div_iff_mul_le hspacing, Nat.succ_mul]
    omega
  have hcount : (x + spacing - start) / spacing ≤ count := by
    rw [Nat.div_le_iff_le_mul hspacing]
    omega
  simp only [hpointer, countP_lt_range]
  exact Nat.min_eq_left hcount

/-- The pointers in an interval are those up to its end without those up to its begin. -/
theorem countP_between (start spacing count first mass : Nat) :
    (List.range count).countP (fun k => decide (start + k * spacing ≤ first))
      + (List.range count).countP
          (fun k => decide (first < start + k * spacing ∧ start + k * spacing ≤ first + mass))
      = (List.range count).countP (fun k => decide (start + k * spacing ≤ first + mass)) := by
  induction List.range count with
  | nil => rfl
  | cons k ks ih =>
      simp only [List.countP_cons, decide_eq_true_eq]
      by_cases hfirst : start + k * spacing ≤ first
      · have hmass : start + k * spacing ≤ first + mass := by omega
        simp only [hfirst, hmass, Nat.not_lt.2 hfirst, if_true, false_and, if_false]
        omega
      · by_cases hmass : start + k * spacing ≤ first + mass
        · simp only [hfirst, hmass, Nat.not_le.1 hfirst, if_true, and_self, if_false]
          omega
        · simp only [hfirst, hmass, and_false, if_false]
          omega

/-- Between two multiples of a spacing lies the share of the distance, rounded down or up. -/
theorem div_add_sub_div (first mass spacing : Nat) (hspacing : 0 < spacing) :
    (first + mass) / spacing = first / spacing + mass / spacing
      ∨ (first + mass) / spacing = first / spacing + mass ⌈/⌉ spacing := by
  rw [Nat.ceilDiv_eq_add_pred_div, Nat.add_div hspacing]
  by_cases hcarry : spacing ≤ first % spacing + mass % spacing
  · right
    have hmod : first % spacing < spacing := Nat.mod_lt _ hspacing
    have hceil : (mass + spacing - 1) / spacing = mass / spacing + 1 := by
      have hrem : 0 < mass % spacing := by omega
      have hdiv := Nat.div_add_mod mass spacing
      have hlt : mass % spacing < spacing := Nat.mod_lt _ hspacing
      have hsplit : mass + spacing - 1
          = spacing * (mass / spacing + 1) + (mass % spacing - 1) := by
        rw [Nat.mul_add]
        omega
      have hrest : (mass % spacing - 1) / spacing = 0 := Nat.div_eq_of_lt (by omega)
      rw [hsplit, Nat.mul_add_div hspacing, hrest, Nat.add_zero]
    rw [if_pos hcarry, hceil]
    omega
  · left
    rw [if_neg hcarry, Nat.add_zero]

/-! ## The share of an item -/

/-- The number of times an item is picked is the number of pointers on its part of the line. -/
theorem count_picks_eq_countP {n : Nat} (weight : Fin n → Nat) (count start : Nat)
    (hstart : 0 < start) (htotal : start ≤ ∑ i, weight i) (c : Fin n) :
    (picks (numbered weight) count start).count c
      = (List.range count).countP fun k => decide
          (massBefore (fun i => weight i * count) c < start + k * ∑ i, weight i ∧
            start + k * ∑ i, weight i
              ≤ massBefore (fun i => weight i * count) c + weight c * count) := by
  have hwalk := map_some_picks (numbered weight) count start hstart (by simpa using htotal)
  rw [lineLength_numbered, scaled_numbered] at hwalk
  rw [← List.count_map_of_injective _ some (Option.some_injective _), hwalk, List.count,
    List.countP_map]
  apply List.countP_congr
  intro k _
  have hiff := itemAt_numbered (fun i => weight i * count) c (start + k * ∑ i, weight i) (by omega)
  simp only [Function.comp_apply, beq_iff_eq, hiff, decide_eq_true_eq]

/-- **Fair shares.** Whatever the first pointer, an item is picked as often as its weight says, rounded
down or up. -/
theorem count_picks {n : Nat} (weight : Fin n → Nat) (count start : Nat)
    (hstart : 0 < start) (htotal : start ≤ ∑ i, weight i) (c : Fin n) :
    (picks (numbered weight) count start).count c = count * weight c / ∑ i, weight i
      ∨ (picks (numbered weight) count start).count c
          = (count * weight c) ⌈/⌉ ∑ i, weight i := by
  rw [count_picks_eq_countP weight count start hstart htotal]
  generalize hfirst : massBefore (fun i => weight i * count) c = first
  generalize hsum : ∑ i, weight i = total at htotal ⊢
  have hend : first + weight c * count ≤ count * total := by
    have hle := massBefore_add_le (fun i => weight i * count) c
    rwa [hfirst, ← Finset.sum_mul, hsum, Nat.mul_comm total] at hle
  have hbetween := countP_between start total count first (weight c * count)
  rw [countP_pointers start total count first hstart htotal (by omega),
    countP_pointers start total count _ hstart htotal hend] at hbetween
  have hshift : first + weight c * count + total - start
      = (first + total - start) + weight c * count := by omega
  have hdiv := div_add_sub_div (first + total - start) (weight c * count) total (by omega)
  rw [hshift] at hbetween
  rw [Nat.mul_comm count (weight c)]
  omega

/-! ## Filling the slots -/

/-- A kept slot keeps its own item. -/
theorem fill_kept (slots : List (α × Bool)) (picked : List α) :
    ∀ entry ∈ slots.zip (fill slots picked), entry.1.2 = true → entry.2 = entry.1.1 := by
  fun_induction fill slots picked with
  | case1 => simp
  | case2 own slots picked ih =>
      intro entry hentry hkept
      rcases List.mem_cons.1 hentry with rfl | hentry
      · rfl
      · exact ih entry hentry hkept
  | case3 own slots pick picked ih =>
      intro entry hentry hkept
      rcases List.mem_cons.1 hentry with rfl | hentry
      · simp at hkept
      · exact ih entry hentry hkept
  | case4 own slots ih =>
      intro entry hentry hkept
      rcases List.mem_cons.1 hentry with rfl | hentry
      · rfl
      · exact ih entry hentry hkept

/-- With a pick for every slot that needs one, the slots that are not kept hold the picks in order. -/
theorem drawn_fill (slots : List (α × Bool)) (picked : List α)
    (hlength : picked.length = slots.countP fun slot => !slot.2) :
    ((slots.zip (fill slots picked)).filter fun entry => !entry.1.2).map Prod.snd = picked := by
  fun_induction fill slots picked with
  | case1 => simp_all
  | case2 own slots picked ih =>
      rw [List.zip_cons_cons, List.filter_cons_of_neg (by simp), ih (by simpa using hlength)]
  | case3 own slots pick picked ih =>
      rw [List.zip_cons_cons, List.filter_cons_of_pos (by simp), List.map_cons,
        ih (by simpa using hlength)]
  | case4 own slots ih => simp at hlength

/-- The slots that are not kept hold exactly the picks. -/
theorem countP_fill [DecidableEq α] (slots : List (α × Bool)) (picked : List α)
    (hlength : picked.length = slots.countP fun slot => !slot.2) (a : α) :
    (slots.zip (fill slots picked)).countP (fun entry => !entry.1.2 && decide (entry.2 = a))
      = picked.count a := by
  have hdrawn := congrArg (List.count a) (drawn_fill slots picked hlength)
  rw [← hdrawn, List.count, List.countP_map, List.countP_filter]
  apply List.countP_congr
  intro entry _
  simp [and_comm]

end LightPilot.Systematic
