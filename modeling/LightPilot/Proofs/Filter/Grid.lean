import LightPilot.Filter.Population
import LightPilot.Proofs.Number.Value

set_option autoImplicit false

/-! # Places on the grid

A particle on the grid stands at `(cell + offset) * size` along each axis, computed in single precision,
where the offset is its lap's share of a cell. In cells, neighboring laps are at least 23 places of the 24th
binary digit apart if there are not too many of them, and rounding moves a place by 5 at most. So a place
stays inside its cell, and laps stay apart (`Margin`), even after the product with the size and the division
by it that finds the cell again (`floor?_coordinate`, `coordinate_lt`). -/

namespace LightPilot.Grid

open Single

/-- A lap's share of a cell. -/
def offset (laps lap : ℕ) : Float32 :=
  (Float32.ofNat lap + 0.5) / Float32.ofNat laps

/-- The place of a particle along an axis, in cells. -/
def along (laps lap cell : ℕ) : Float32 :=
  Float32.ofNat cell + offset laps lap

/-- The place of a particle along an axis. -/
def coordinate (size : Float32) (laps lap cell : ℕ) : Float32 :=
  along laps lap cell * size

/-! ## The offset -/

variable {laps lap cell : ℕ}

/-- The offset is the middle of the lap's share, rounded. -/
theorem isRounded_offset (hlap : lap < laps) (hlaps : 23 * laps ≤ 2 ^ 24) :
    isFinite (offset laps lap) = true ∧ IsRounded ((lap + 1 / 2) / laps) (value (offset laps lap)) := by
  obtain ⟨hfinite, hvalue⟩ := value_natCast (n := lap) (by omega)
  obtain ⟨hfinite', hvalue'⟩ := value_natCast (n := laps) (by omega)
  obtain ⟨hhalf, hvalueHalf⟩ := value_half
  have hpos : (0 : ℚ) < laps := by exact_mod_cast Nat.zero_lt_of_lt hlap
  have hlt : (lap : ℚ) + 1 ≤ laps := by exact_mod_cast hlap
  have hlaps' : (laps : ℚ) ≤ 2 ^ 24 := by exact_mod_cast (show laps ≤ 2 ^ 24 by omega)
  have hexact : Representable ((lap : ℚ) + 1 / 2) := by
    refine ⟨2 * lap + 1, -1, ?_, by norm_num, ?_⟩
    · rw [abs_of_nonneg (by positivity)]
      omega
    · push_cast
      norm_num
      ring
  have hsum := rounds_add hfinite hhalf
  rw [hvalue, hvalueHalf] at hsum
  obtain ⟨hfiniteSum, hvalueSum⟩ :=
    hsum.value_eq hexact (le_greatest_of_le (by positivity) (by linarith))
  have hquotient := rounds_div hfiniteSum hfinite' (by rw [hvalue']; exact hpos.ne')
  rw [hvalueSum, hvalue'] at hquotient
  have hsmall : ((lap : ℚ) + 1 / 2) / laps ≤ 2 ^ 32 := by
    rw [div_le_iff₀ hpos]
    linarith
  exact hquotient.of_le (by positivity) hsmall

/-- The middles of the laps' shares are at least 23 places apart, and half of that from the cell's edges. -/
theorem share_bounds (hlap : lap < laps) (hlaps : 23 * laps ≤ 2 ^ 24) :
    23 / 2 ^ 25 < 1 / (2 * laps : ℚ) ∧ 1 / (2 * laps : ℚ) ≤ ((lap : ℚ) + 1 / 2) / laps ∧
      ((lap : ℚ) + 1 / 2) / laps ≤ 1 - 1 / (2 * laps : ℚ) := by
  have hpos : (0 : ℚ) < laps := by exact_mod_cast Nat.zero_lt_of_lt hlap
  have hlt : (lap : ℚ) + 1 ≤ laps := by exact_mod_cast hlap
  have hlap' : (0 : ℚ) ≤ lap := by positivity
  have hlaps' : (23 : ℚ) * laps < 2 ^ 24 := by exact_mod_cast (show 23 * laps < 2 ^ 24 by omega)
  refine ⟨?_, ?_, ?_⟩
  · rw [div_lt_div_iff₀ (by norm_num) (by positivity)]
    linarith
  · rw [div_le_div_iff₀ (by positivity) hpos]
    nlinarith
  · rw [le_sub_iff_add_le, div_add_div _ _ hpos.ne' (by positivity), div_le_one (by positivity)]
    nlinarith

theorem share_add_le {lap' : ℕ} (hlt : lap < lap') (hlap' : lap' < laps) :
    ((lap : ℚ) + 1 / 2) / laps + 2 * (1 / (2 * laps)) ≤ ((lap' : ℚ) + 1 / 2) / laps := by
  have hpos : (0 : ℚ) < laps := by exact_mod_cast Nat.zero_lt_of_lt hlap'
  have hnext : (lap : ℚ) + 1 ≤ lap' := by exact_mod_cast hlt
  have hwhole : 2 * (1 / (2 * laps : ℚ)) = 1 / laps := by field_simp
  rw [hwhole, ← add_div]
  exact div_le_div_of_nonneg_right (by linarith) hpos.le

theorem abs_offset_sub_le (hlap : lap < laps) (hlaps : 23 * laps ≤ 2 ^ 24) :
    |((lap : ℚ) + 1 / 2) / laps - value (offset laps lap)| ≤ 1 / 2 ^ 25 := by
  obtain ⟨hstep, hlow, hhigh⟩ := share_bounds hlap hlaps
  have hmoved := (isRounded_offset hlap hlaps).2.abs_sub_le (k := 0)
    (by rw [abs_of_pos (by linarith)]; norm_num; linarith) (by norm_num)
  refine hmoved.trans (le_of_eq ?_)
  norm_num

/-- The offset keeps 12 places to the next cell, since places next to one are whole. -/
theorem offset_le (hlap : lap < laps) (hlaps : 23 * laps ≤ 2 ^ 24) :
    value (offset laps lap) ≤ 1 - 12 / 2 ^ 24 := by
  obtain ⟨hstep, -, hhigh⟩ := share_bounds hlap hlaps
  have hmoved := abs_le.1 (abs_offset_sub_le hlap hlaps)
  have hbelow : value (offset laps lap) < 1 - 11 / 2 ^ 24 := by linarith [hmoved.1]
  rcases le_or_gt (1 / 2) (value (offset laps lap)) with hupper | hlower
  · obtain ⟨k, hk⟩ := (representable_value (offset laps lap)).exists_eq_mul_zpow (u := -24)
      (.inr (by rw [abs_of_pos (by linarith)]; norm_num; linarith))
    have hplaces : (2 : ℚ) ^ (-24 : ℤ) = 1 / 2 ^ 24 := by norm_num
    rw [hplaces] at hk
    rw [hk] at hbelow ⊢
    have hlt : (k : ℚ) < ((2 ^ 24 - 11 : ℤ) : ℚ) := by
      push_cast
      linarith
    have hle : k ≤ 2 ^ 24 - 12 := by
      have hlt' : k < 2 ^ 24 - 11 := by exact_mod_cast hlt
      omega
    have hle' : (k : ℚ) ≤ 2 ^ 24 - 12 := by exact_mod_cast hle
    linarith
  · linarith

/-- Beside an edge the offset keeps 11 places. -/
theorem le_offset (hlap : lap < laps) (hlaps : 23 * laps ≤ 2 ^ 24) :
    11 / 2 ^ 24 ≤ value (offset laps lap) := by
  obtain ⟨hstep, hlow, -⟩ := share_bounds hlap hlaps
  have hmoved := abs_le.1 (abs_offset_sub_le hlap hlaps)
  linarith [hmoved.2]

/-! ## The place in cells -/

theorem isRounded_along (hcell : cell < 8) (hlap : lap < laps) (hlaps : 23 * laps ≤ 2 ^ 24) :
    isFinite (along laps lap cell) = true ∧
      IsRounded (cell + value (offset laps lap)) (value (along laps lap cell)) := by
  obtain ⟨hfinite, hvalue⟩ := value_natCast (n := cell) (by omega)
  have hcell' : (cell : ℚ) < 8 := by exact_mod_cast hcell
  have hlow := le_offset hlap hlaps
  have hhigh := offset_le hlap hlaps
  have hsum := rounds_add hfinite (isRounded_offset hlap hlaps).1
  rw [hvalue] at hsum
  exact hsum.of_le (add_nonneg (by positivity) (by linarith)) (by linarith)

/-- Adding the cell's number moves the place by four places at most. -/
theorem abs_along_sub_le (hcell : cell < 8) (hlap : lap < laps) (hlaps : 23 * laps ≤ 2 ^ 24) :
    |cell + value (offset laps lap) - value (along laps lap cell)| ≤ 4 / 2 ^ 24 := by
  have hcell' : (cell : ℚ) ≤ 7 := by exact_mod_cast Nat.le_of_lt_succ hcell
  have hlow := le_offset hlap hlaps
  have hhigh := offset_le hlap hlaps
  have hmoved := (isRounded_along hcell hlap hlaps).2.abs_sub_le (k := 3)
    (by rw [abs_of_pos (by positivity)]; norm_num; linarith) (by norm_num)
  refine hmoved.trans (le_of_eq ?_)
  norm_num

/-- In the near cells by two places at most. -/
theorem abs_along_sub_le_of_lt (hcell : cell < 4) (hlap : lap < laps) (hlaps : 23 * laps ≤ 2 ^ 24) :
    |cell + value (offset laps lap) - value (along laps lap cell)| ≤ 2 / 2 ^ 24 := by
  have hcell' : (cell : ℚ) ≤ 3 := by exact_mod_cast Nat.le_of_lt_succ hcell
  have hlow := le_offset hlap hlaps
  have hhigh := offset_le hlap hlaps
  have hrounded := (isRounded_along (show cell < 8 by omega) hlap hlaps).2
  have hmoved := hrounded.abs_sub_le (k := 2)
    (by rw [abs_of_pos (by linarith)]; norm_num; linarith) (by norm_num)
  refine hmoved.trans (le_of_eq ?_)
  norm_num

/-- Both roundings together move a place by less than five places. -/
theorem abs_share_sub_le (hcell : cell < 8) (hlap : lap < laps) (hlaps : 23 * laps ≤ 2 ^ 24) :
    |cell + ((lap : ℚ) + 1 / 2) / laps - value (along laps lap cell)| ≤ 9 / 2 ^ 25 := by
  have hoffset := abs_le.1 (abs_offset_sub_le hlap hlaps)
  have hplace := abs_le.1 (abs_along_sub_le hcell hlap hlaps)
  exact abs_le.2 ⟨by linarith [hoffset.1, hplace.1], by linarith [hoffset.2, hplace.2]⟩

theorem representable_above (hcell : cell < 8) : Representable ((cell : ℚ) + 8 / 2 ^ 24) := by
  refine ⟨cell * 2 ^ 21 + 1, -21, ?_, by norm_num, ?_⟩
  · rw [abs_of_nonneg (by positivity)]
    omega
  · push_cast
    norm_num
    ring

theorem representable_below (hcell : cell < 8) : Representable ((cell : ℚ) + 1 - 8 / 2 ^ 24) := by
  refine ⟨(cell + 1) * 2 ^ 21 - 1, -21, ?_, by norm_num, ?_⟩
  · rw [abs_of_nonneg (by omega)]
    omega
  · push_cast
    norm_num
    ring

theorem representable_below_of_lt (hcell : cell < 4) : Representable ((cell : ℚ) + 1 - 4 / 2 ^ 24) := by
  refine ⟨(cell + 1) * 2 ^ 22 - 1, -22, ?_, by norm_num, ?_⟩
  · rw [abs_of_nonneg (by omega)]
    omega
  · push_cast
    norm_num
    ring

/-- The place keeps eight places to the edge behind it. -/
theorem le_along (hcell : cell < 8) (hlap : lap < laps) (hlaps : 23 * laps ≤ 2 ^ 24) :
    cell + 8 / 2 ^ 24 ≤ value (along laps lap cell) := by
  have hlow := le_offset hlap hlaps
  exact (isRounded_along hcell hlap hlaps).2.le_of_le (representable_above hcell) (by linarith)

/-- Places in the far cells are multiples of eight; a place between two of them goes to the even side. -/
theorem along_eq_mul (hfar : 4 ≤ cell) (hcell : cell < 8) (hlap : lap < laps)
    (hlaps : 23 * laps ≤ 2 ^ 24) :
    ∃ n : ℤ, value (along laps lap cell) = n * (8 / 2 ^ 24) ∧
      (|cell + value (offset laps lap) - value (along laps lap cell)| = 4 / 2 ^ 24 → Even n) := by
  have hcell' : (cell : ℚ) ≤ 7 := by exact_mod_cast Nat.le_of_lt_succ hcell
  have hfar' : (4 : ℚ) ≤ cell := by exact_mod_cast hfar
  have hlow := le_offset hlap hlaps
  have hhigh := offset_le hlap hlaps
  have hpos : (0 : ℚ) ≤ cell + value (offset laps lap) := by linarith
  have hulp : ulp (cell + value (offset laps lap)) = 8 / 2 ^ 24 := by
    rw [ulp_eq (k := 2) (by rw [abs_of_nonneg hpos]; norm_num; linarith)
      (by rw [abs_of_nonneg hpos]; norm_num; linarith) (by norm_num)]
    norm_num
  obtain ⟨n, hn, -, heven⟩ := (isRounded_along hcell hlap hlaps).2
  rw [hulp] at hn heven
  refine ⟨n, hn, fun htie => heven (htie.trans ?_)⟩
  norm_num

/-- The place keeps 16 places to the next edge in the far cells: the odd multiple before the edge would have
to win a tie. -/
theorem along_le_of_le (hfar : 4 ≤ cell) (hcell : cell < 8) (hlap : lap < laps)
    (hlaps : 23 * laps ≤ 2 ^ 24) :
    value (along laps lap cell) ≤ cell + 1 - 16 / 2 ^ 24 := by
  have hhigh := offset_le hlap hlaps
  have hmoved := abs_le.1 (abs_along_sub_le hcell hlap hlaps)
  obtain ⟨n, hn, heven⟩ := along_eq_mul hfar hcell hlap hlaps
  have hle : n ≤ (cell + 1) * 2 ^ 21 - 1 := by
    have hle' : (n : ℚ) ≤ (((cell + 1) * 2 ^ 21 - 1 : ℤ) : ℚ) := by
      push_cast
      linarith [hmoved.1]
    exact_mod_cast hle'
  have hne : n ≠ (cell + 1) * 2 ^ 21 - 1 := by
    intro hodd
    have hplace : value (along laps lap cell) = cell + 1 - 8 / 2 ^ 24 := by
      rw [hn, hodd]
      push_cast
      ring
    have htie : |cell + value (offset laps lap) - value (along laps lap cell)| = 4 / 2 ^ 24 := by
      apply le_antisymm (abs_along_sub_le hcell hlap hlaps)
      rw [hplace, abs_of_nonpos (by linarith)]
      linarith
    have hparity := heven htie
    rw [hodd, Int.even_sub_one] at hparity
    exact hparity ⟨(cell + 1) * 2 ^ 20, by ring⟩
  have hle' : (n : ℚ) ≤ (((cell + 1) * 2 ^ 21 - 2 : ℤ) : ℚ) := Int.cast_le.2 (by omega)
  push_cast at hle'
  rw [hn]
  linarith

/-- And 12 places in the near ones. -/
theorem along_le_of_lt (hcell : cell < 4) (hlap : lap < laps) (hlaps : 23 * laps ≤ 2 ^ 24) :
    value (along laps lap cell) ≤ cell + 1 - 12 / 2 ^ 24 := by
  have hhigh := offset_le hlap hlaps
  refine (isRounded_along (by omega) hlap hlaps).2.ge_of_ge ?_ (by linarith)
  refine ⟨(cell + 1) * 2 ^ 22 - 3, -22, ?_, by norm_num, ?_⟩
  · rw [abs_of_nonneg (by omega)]
    omega
  · push_cast
    norm_num
    ring

theorem offset_add_le {lap' : ℕ} (hlt : lap < lap') (hlap' : lap' < laps) (hlaps : 23 * laps ≤ 2 ^ 24) :
    value (offset laps lap) + 22 / 2 ^ 24 ≤ value (offset laps lap') := by
  have hstep := (share_bounds hlap' hlaps).1
  have hmoved := abs_le.1 (abs_offset_sub_le (hlt.trans hlap') hlaps)
  have hmoved' := abs_le.1 (abs_offset_sub_le hlap' hlaps)
  have hshare := share_add_le hlt hlap'
  linarith [hmoved.1, hmoved'.2]

/-- Different laps stay 16 places apart. -/
theorem along_add_le {lap' : ℕ} (hcell : cell < 8) (hlt : lap < lap') (hlap' : lap' < laps)
    (hlaps : 23 * laps ≤ 2 ^ 24) :
    value (along laps lap cell) + 16 / 2 ^ 24 ≤ value (along laps lap' cell) := by
  have hstep := offset_add_le hlt hlap' hlaps
  rcases Nat.lt_or_ge cell 4 with hnear | hfar
  · have hmoved := abs_le.1 (abs_along_sub_le_of_lt hnear (hlt.trans hlap') hlaps)
    have hmoved' := abs_le.1 (abs_along_sub_le_of_lt hnear hlap' hlaps)
    linarith [hmoved.1, hmoved'.2]
  · have hmoved := abs_le.1 (abs_along_sub_le hcell (hlt.trans hlap') hlaps)
    have hmoved' := abs_le.1 (abs_along_sub_le hcell hlap' hlaps)
    obtain ⟨n, hn, -⟩ := along_eq_mul hfar hcell (hlt.trans hlap') hlaps
    obtain ⟨n', hn', -⟩ := along_eq_mul hfar hcell hlap' hlaps
    have hlt' : ((n + 1 : ℤ) : ℚ) < n' := by
      push_cast
      linarith [hmoved.1, hmoved'.2]
    have hle : n + 2 ≤ n' := by
      have hlt'' : n + 1 < n' := by exact_mod_cast hlt'
      omega
    have hle' : (n : ℚ) + 2 ≤ n' := by exact_mod_cast hle
    rw [hn, hn']
    linarith

/-! ## Margins -/

/-- The places of all laps stay `margin` away from the edges of their cells, and twice that from each other. -/
structure Margin (laps : ℕ) (margin : ℚ) : Prop where
  behind : ∀ {lap cell : ℕ}, cell < 8 → lap < laps → cell + margin ≤ value (along laps lap cell)
  /-- The margin to the next edge includes a last representable number before it. -/
  ahead : ∀ {lap cell : ℕ}, cell < 8 → lap < laps →
    ∃ last, Representable last ∧ last < cell + 1 ∧ value (along laps lap cell) + margin ≤ last
  between : ∀ {lap lap' cell : ℕ}, cell < 8 → lap < lap' → lap' < laps →
    value (along laps lap cell) + 2 * margin ≤ value (along laps lap' cell)

/-- A margin of eight places is always there. -/
theorem margin_of_le (hlaps : 23 * laps ≤ 2 ^ 24) : Margin laps (8 / 2 ^ 24) where
  behind hcell hlap := le_along hcell hlap hlaps
  ahead {lap cell} hcell hlap := by
    rcases Nat.lt_or_ge cell 4 with hnear | hfar
    · refine ⟨_, representable_below_of_lt hnear, by linarith, ?_⟩
      have hplace := along_le_of_lt hnear hlap hlaps
      linarith
    · refine ⟨_, representable_below hcell, by linarith, ?_⟩
      have hplace := along_le_of_le hfar hcell hlap hlaps
      linarith
  between hcell hlt hlap' := by
    have hplaces := along_add_le hcell hlt hlap' hlaps
    linarith

/-- With few laps the margin is a part of a lap's share. -/
theorem margin_of_few (hpos : 0 < laps) (hfew : laps ≤ 2 ^ 17) : Margin laps (1 / (8 * laps)) := by
  have hlaps : 23 * laps ≤ 2 ^ 24 := by omega
  have hpos' : (0 : ℚ) < laps := by exact_mod_cast hpos
  have hwide : (16 : ℚ) / 2 ^ 24 ≤ 1 / (8 * laps) := by
    rw [div_le_div_iff₀ (by norm_num) (by positivity)]
    have hfew' : (laps : ℚ) ≤ 2 ^ 17 := by exact_mod_cast hfew
    linarith
  have hhalf : 1 / (2 * laps : ℚ) = 4 * (1 / (8 * laps)) := by
    field_simp
    norm_num
  constructor
  case behind =>
    intro lap cell hcell hlap
    have hshare := (share_bounds hlap hlaps).2.1
    have hplace := abs_le.1 (abs_share_sub_le hcell hlap hlaps)
    linarith [hplace.2]
  case ahead =>
    intro lap cell hcell hlap
    have hshare := (share_bounds hlap hlaps).2.2
    have hplace := abs_le.1 (abs_share_sub_le hcell hlap hlaps)
    refine ⟨_, representable_below hcell, by linarith, ?_⟩
    linarith [hplace.1]
  case between =>
    intro lap lap' cell hcell hlt hlap'
    have hplace := abs_le.1 (abs_share_sub_le hcell (hlt.trans hlap') hlaps)
    have hplace' := abs_le.1 (abs_share_sub_le hcell hlap' hlaps)
    have hshare := share_add_le hlt hlap'
    linarith [hplace.1, hplace'.2]

/-- The margin that suits the size of a cell: rounding a place along the map moves it by less. -/
theorem exists_margin {size : ℚ} (hpos : 0 < laps) (hlaps : 23 * laps ≤ 2 ^ 24)
    (hsteps : laps * 2 ^ (-146 : ℤ) ≤ size) :
    ∃ margin, Margin laps margin ∧
      ∀ q r, IsRounded q r → 0 ≤ q → q < 8 * size → |q - r| < margin * size := by
  have hpos' : (0 : ℚ) < laps := by exact_mod_cast hpos
  have hsize : 0 < size := (by positivity : (0 : ℚ) < laps * 2 ^ (-146 : ℤ)).trans_le hsteps
  rcases Nat.lt_or_ge (2 ^ 17) laps with hmany | hfew
  · refine ⟨_, margin_of_le hlaps, fun q r hrounded hq hlt => ?_⟩
    have hmany' : ((2 : ℚ) ^ 17) < laps := by exact_mod_cast hmany
    refine hrounded.abs_sub_le_max.trans_lt (max_lt ?_ ?_)
    · rw [abs_of_nonneg hq]
      linarith
    · calc (2 : ℚ) ^ (-150 : ℤ) = 8 / 2 ^ 24 * (2 ^ 17 * 2 ^ (-146 : ℤ)) := by norm_num
        _ < 8 / 2 ^ 24 * (laps * 2 ^ (-146 : ℤ)) := by gcongr
        _ ≤ 8 / 2 ^ 24 * size := by gcongr
  · refine ⟨_, margin_of_few hpos hfew, fun q r hrounded hq hlt => ?_⟩
    have hfew' : (laps : ℚ) ≤ 2 ^ 17 := by exact_mod_cast hfew
    have hwide : (8 : ℚ) / 2 ^ 24 ≤ 1 / (8 * laps) := by
      rw [div_le_div_iff₀ (by norm_num) (by positivity)]
      linarith
    refine hrounded.abs_sub_le_max.trans_lt (max_lt ?_ ?_)
    · rw [abs_of_nonneg hq]
      calc q / 2 ^ 24 < 8 * size / 2 ^ 24 := by gcongr
        _ = 8 / 2 ^ 24 * size := by ring
        _ ≤ 1 / (8 * laps) * size := by gcongr
    · calc (2 : ℚ) ^ (-150 : ℤ) < 1 / (8 * laps) * (laps * 2 ^ (-146 : ℤ)) := by
            rw [one_div_mul_eq_div, lt_div_iff₀ (by positivity)]
            norm_num
            linarith
        _ ≤ 1 / (8 * laps) * size := by gcongr

/-! ## The place on the map -/

/-- The laps fit into cells of this size: the map's side is finite, there are not too many laps, and each of
them has eight of the smallest steps to itself. -/
structure Fits (laps : ℕ) (size : Float32) : Prop where
  finite : isFinite size = true
  extent : 8 * value size ≤ greatest
  few : 23 * laps ≤ 2 ^ 24
  steps : laps * 2 ^ (-146 : ℤ) ≤ value size

variable {size : Float32}

theorem Fits.pos (h : Fits laps size) (hlap : lap < laps) : 0 < value size := by
  have hpos : (0 : ℚ) < laps := by exact_mod_cast Nat.zero_lt_of_lt hlap
  exact (by positivity : (0 : ℚ) < laps * 2 ^ (-146 : ℤ)).trans_le h.steps

theorem along_bounds (hcell : cell < 8) (hlap : lap < laps) (hlaps : 23 * laps ≤ 2 ^ 24) :
    0 ≤ value (along laps lap cell) ∧ value (along laps lap cell) < 8 := by
  have hmargin := margin_of_le hlaps
  have hbehind := hmargin.behind hcell hlap
  obtain ⟨last, -, hlast, hahead⟩ := hmargin.ahead hcell hlap
  have hcell' : (cell : ℚ) + 1 ≤ 8 := by exact_mod_cast hcell
  have hpos : (0 : ℚ) ≤ cell := by positivity
  exact ⟨by linarith, by linarith⟩

theorem Fits.isRounded_coordinate (h : Fits laps size) (hcell : cell < 8) (hlap : lap < laps) :
    isFinite (coordinate size laps lap cell) = true ∧
      IsRounded (value (along laps lap cell) * value size) (value (coordinate size laps lap cell)) := by
  obtain ⟨hlow, hhigh⟩ := along_bounds hcell hlap h.few
  have hsize := h.pos hlap
  have hproduct := rounds_mul (isRounded_along hcell hlap h.few).1 h.finite
  have hle : |value (along laps lap cell) * value size| ≤ greatest := by
    rw [abs_of_nonneg (by positivity)]
    exact (mul_le_mul_of_nonneg_right hhigh.le hsize.le).trans h.extent
  exact ⟨hproduct.finite hle, hproduct.isRounded hle⟩

theorem Fits.exists_margin (h : Fits laps size) (hpos : 0 < laps) :
    ∃ margin, Margin laps margin ∧ ∀ {lap cell : ℕ}, cell < 8 → lap < laps →
      |value (along laps lap cell) * value size - value (coordinate size laps lap cell)|
        < margin * value size := by
  obtain ⟨margin, hmargin, hmoved⟩ := Grid.exists_margin hpos h.few h.steps
  refine ⟨margin, hmargin, fun {lap cell} hcell hlap => ?_⟩
  obtain ⟨hlow, hhigh⟩ := along_bounds hcell hlap h.few
  have hsize := h.pos hlap
  exact hmoved _ _ (h.isRounded_coordinate hcell hlap).2 (by positivity)
    (mul_lt_mul_of_pos_right hhigh hsize)

/-- A place stays in its cell, before the last representable number of it. -/
theorem Fits.quotient_bounds (h : Fits laps size) (hcell : cell < 8) (hlap : lap < laps) :
    cell ≤ value (coordinate size laps lap cell) / value size ∧
      ∃ last, Representable last ∧ last < cell + 1 ∧
        value (coordinate size laps lap cell) / value size ≤ last := by
  have hsize := h.pos hlap
  obtain ⟨margin, hmargin, hmoved⟩ := h.exists_margin (Nat.zero_lt_of_lt hlap)
  obtain ⟨hdown, hup⟩ := abs_lt.1 (hmoved hcell hlap)
  have hbehind := mul_le_mul_of_nonneg_right (hmargin.behind hcell hlap) hsize.le
  obtain ⟨last, hlast, hbelow, hahead⟩ := hmargin.ahead hcell hlap
  have hahead' := mul_le_mul_of_nonneg_right hahead hsize.le
  refine ⟨?_, last, hlast, hbelow, ?_⟩
  · rw [le_div_iff₀ hsize]
    linarith
  · rw [div_le_iff₀ hsize]
    linarith

/-- The cell of a place is found again. -/
theorem Fits.floor?_coordinate (h : Fits laps size) (hcell : cell < 8) (hlap : lap < laps) :
    floor? (coordinate size laps lap cell / size) = some (cell : ℤ) := by
  have hcell' : (cell : ℚ) + 1 ≤ 8 := by exact_mod_cast hcell
  have hfinite := (h.isRounded_coordinate hcell hlap).1
  obtain ⟨hlow, last, hlast, hbelow, hhigh⟩ := h.quotient_bounds hcell hlap
  obtain ⟨hquotient, hrounded⟩ := (rounds_div hfinite h.finite (h.pos hlap).ne').of_le
    ((Nat.cast_nonneg cell).trans hlow) (by linarith)
  rw [floor?_eq hquotient, Option.some_inj, Int.floor_eq_iff]
  constructor
  · exact_mod_cast hrounded.le_of_le (representable_natCast (by omega)) hlow
  · exact_mod_cast (hrounded.ge_of_ge hlast hhigh).trans_lt hbelow

/-- Laps stay apart on the map. -/
theorem Fits.coordinate_lt (h : Fits laps size) (hcell : cell < 8) {lap' : ℕ} (hlt : lap < lap')
    (hlap' : lap' < laps) :
    value (coordinate size laps lap cell) < value (coordinate size laps lap' cell) := by
  obtain ⟨margin, hmargin, hmoved⟩ := h.exists_margin (Nat.zero_lt_of_lt hlap')
  have hbetween := mul_le_mul_of_nonneg_right (hmargin.between hcell hlt hlap') (h.pos hlap').le
  have hdown := (abs_lt.1 (hmoved hcell (hlt.trans hlap'))).1
  have hup := (abs_lt.1 (hmoved hcell hlap')).2
  linarith

/-- Cells stay apart on the map, whatever the laps. -/
theorem Fits.coordinate_lt_of_cell_lt (h : Fits laps size) {cell' lap' : ℕ} (hlt : cell < cell')
    (hcell' : cell' < 8) (hlap : lap < laps) (hlap' : lap' < laps) :
    value (coordinate size laps lap cell) < value (coordinate size laps lap' cell') := by
  have hnext : (cell : ℚ) + 1 ≤ cell' := by exact_mod_cast hlt
  obtain ⟨-, last, -, hbelow, hhigh⟩ := h.quotient_bounds (hlt.trans hcell') hlap
  obtain ⟨hlow, -⟩ := h.quotient_bounds hcell' hlap'
  rw [← div_lt_div_iff_of_pos_right (h.pos hlap)]
  linarith

/-- Two places are different numbers unless both their cells and their laps are the same. -/
theorem Fits.coordinate_lt_or_lt (h : Fits laps size) {cell' lap' : ℕ} (hcell : cell < 8)
    (hcell' : cell' < 8) (hlap : lap < laps) (hlap' : lap' < laps)
    (hne : cell = cell' → lap ≠ lap') :
    coordinate size laps lap cell < coordinate size laps lap' cell' ∨
      coordinate size laps lap' cell' < coordinate size laps lap cell := by
  have hfinite := (h.isRounded_coordinate hcell hlap).1
  have hfinite' := (h.isRounded_coordinate hcell' hlap').1
  rw [lt_iff hfinite hfinite', lt_iff hfinite' hfinite]
  rcases Nat.lt_trichotomy cell cell' with hlt | heq | hgt
  · exact .inl (h.coordinate_lt_of_cell_lt hlt hcell' hlap hlap')
  · subst heq
    rcases Nat.lt_or_gt_of_ne (hne rfl) with hlt | hgt
    · exact .inl (h.coordinate_lt hcell hlt hlap')
    · exact .inr (h.coordinate_lt hcell hgt hlap)
  · exact .inr (h.coordinate_lt_of_cell_lt hgt hcell hlap' hlap)

end LightPilot.Grid
