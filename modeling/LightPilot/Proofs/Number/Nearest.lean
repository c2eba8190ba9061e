import Mathlib

set_option autoImplicit false

/-! # Rounding to single precision, as arithmetic

A single keeps 24 binary places of a number, but none beyond the 149th after the point. `ulp` is the last
place that is kept next to a number, and `IsRounded` says that a number was rounded to it, a half to the even
side. Rounding never passes a number that is representable (`IsRounded.le_of_le`, `IsRounded.ge_of_ge`), and
it moves by half a place at most (`IsRounded.abs_sub_le`). Nothing here bounds the exponent from above. -/

namespace LightPilot.Single

/-- The exponent of the last place that is kept next to a number. -/
def ulpExponent (q : ℚ) : ℤ :=
  if q = 0 then -149 else max (Int.log 2 |q| - 23) (-149)

/-- The last place that is kept next to a number. -/
def ulp (q : ℚ) : ℚ :=
  2 ^ ulpExponent q

/-- `r` is `q` rounded to its last place; a half goes to the even side. -/
def IsRounded (q r : ℚ) : Prop :=
  ∃ n : ℤ, r = n * ulp q ∧ |q - r| ≤ ulp q / 2 ∧ (|q - r| = ulp q / 2 → Even n)

/-- A number that needs no rounding. -/
def Representable (q : ℚ) : Prop :=
  ∃ m e : ℤ, |m| < 2 ^ 24 ∧ -149 ≤ e ∧ q = m * 2 ^ e

variable {q r b : ℚ}

/-! ## The last place -/

theorem ulp_pos (q : ℚ) : 0 < ulp q :=
  zpow_pos (by norm_num) _

@[simp] theorem ulp_neg (q : ℚ) : ulp (-q) = ulp q := by
  simp [ulp, ulpExponent]

theorem neg_149_le_ulpExponent (q : ℚ) : -149 ≤ ulpExponent q := by
  rw [ulpExponent]
  split
  · exact le_refl _
  · exact le_max_right ..

/-- Below a power of two the last place is 24 places further down. -/
theorem ulp_le {k : ℤ} (hq : |q| < 2 ^ k) (hk : -125 ≤ k) : ulp q ≤ 2 ^ (k - 24) := by
  apply zpow_le_zpow_right₀ (by norm_num)
  rw [ulpExponent]
  split
  · omega
  · next hne =>
      have hlog : Int.log 2 |q| < k :=
        (Int.lt_zpow_iff_log_lt (by norm_num) (abs_pos.2 hne)).1 (by exact_mod_cast hq)
      omega

theorem ulp_eq {k : ℤ} (hlow : 2 ^ k ≤ |q|) (hhigh : |q| < 2 ^ (k + 1)) (hk : -126 ≤ k) :
    ulp q = 2 ^ (k - 23) := by
  have hpos : 0 < |q| := (zpow_pos (by norm_num) k).trans_le hlow
  have hle : k ≤ Int.log 2 |q| := (Int.zpow_le_iff_le_log (by norm_num) hpos).1 (by exact_mod_cast hlow)
  have hlt : Int.log 2 |q| < k + 1 :=
    (Int.lt_zpow_iff_log_lt (by norm_num) hpos).1 (by exact_mod_cast hhigh)
  rw [ulp, ulpExponent, if_neg (abs_pos.1 hpos)]
  congr 1
  omega

/-- No number has more than 24 places. -/
theorem abs_lt_mul_ulp (q : ℚ) : |q| < 2 ^ 24 * ulp q := by
  have htop : |q| < 2 ^ (Int.log 2 |q| + 1) := by
    exact_mod_cast Int.lt_zpow_succ_log_self (b := 2) (by norm_num) |q|
  rcases eq_or_ne q 0 with rfl | hne
  · simp [ulp_pos]
  · calc |q| < 2 ^ (Int.log 2 |q| + 1) := htop
      _ ≤ 2 ^ (24 + ulpExponent q) := by
        apply zpow_le_zpow_right₀ (by norm_num)
        rw [ulpExponent, if_neg hne]
        omega
      _ = 2 ^ 24 * ulp q := by
        rw [zpow_add₀ (by norm_num)]
        rfl

/-- A number has all of its 24 places, unless the last one is the last of all. -/
theorem ulpExponent_eq_or_mul_ulp_le (q : ℚ) : ulpExponent q = -149 ∨ 2 ^ 23 * ulp q ≤ |q| := by
  rcases eq_or_ne q 0 with rfl | hne
  · exact .inl (if_pos rfl)
  · rw [or_iff_not_imp_left]
    intro hplace
    have hlast := neg_149_le_ulpExponent q
    have hexp : 23 + ulpExponent q = Int.log 2 |q| := by
      rw [ulpExponent, if_neg hne] at hplace hlast ⊢
      omega
    calc 2 ^ 23 * ulp q = 2 ^ (23 + ulpExponent q) := by
          rw [zpow_add₀ (by norm_num)]
          rfl
      _ = 2 ^ Int.log 2 |q| := by rw [hexp]
      _ ≤ |q| := by exact_mod_cast Int.zpow_log_le_self (b := 2) (by norm_num) (abs_pos.2 hne)

theorem le_ulpExponent {u : ℤ} (hu : u ≤ -149 ∨ 2 ^ (u + 23) ≤ |q|) : u ≤ ulpExponent q := by
  rcases hu with hu | hu
  · exact hu.trans (neg_149_le_ulpExponent q)
  · have hpos : 0 < |q| := (zpow_pos (by norm_num) _).trans_le hu
    have hlog : u + 23 ≤ Int.log 2 |q| :=
      (Int.zpow_le_iff_le_log (by norm_num) hpos).1 (by exact_mod_cast hu)
    rw [ulpExponent, if_neg (abs_pos.1 hpos)]
    omega

/-! ## Representable numbers -/

theorem representable_mul_zpow {m e : ℤ} (hm : |m| < 2 ^ 24) (he : -149 ≤ e) :
    Representable (m * 2 ^ e) :=
  ⟨m, e, hm, he, rfl⟩

theorem representable_zero : Representable 0 :=
  ⟨0, 0, by norm_num, by norm_num, by norm_num⟩

theorem representable_natCast {n : ℕ} (hn : n < 2 ^ 24) : Representable n :=
  ⟨n, 0, by rw [abs_of_nonneg (by positivity)]; exact_mod_cast hn, by norm_num, by simp⟩

theorem Representable.neg (hb : Representable b) : Representable (-b) := by
  obtain ⟨m, e, hm, he, rfl⟩ := hb
  exact ⟨-m, e, by rwa [abs_neg], he, by push_cast; ring⟩

/-- A multiple of a place is a multiple of each place below. -/
theorem exists_mul_zpow_eq (m : ℤ) {u e : ℤ} (hue : u ≤ e) : ∃ k : ℤ, (m : ℚ) * 2 ^ e = k * 2 ^ u := by
  refine ⟨m * 2 ^ (e - u).toNat, ?_⟩
  have hsplit : (2 : ℚ) ^ e = 2 ^ (e - u).toNat * 2 ^ u := by
    rw [← zpow_natCast, ← zpow_add₀ (by norm_num), Int.toNat_of_nonneg (by omega), sub_add_cancel]
  rw [hsplit]
  push_cast
  ring

/-- A representable number is a multiple of any place that 24 of its places reach down to. -/
theorem Representable.exists_eq_mul_zpow (hb : Representable b) {u : ℤ}
    (hu : u ≤ -149 ∨ 2 ^ (u + 23) ≤ |b|) : ∃ k : ℤ, b = k * 2 ^ u := by
  obtain ⟨m, e, hm, he, rfl⟩ := hb
  have hue : u ≤ e := by
    rcases hu with hu | hu
    · omega
    · have hm' : |(m : ℚ)| < 2 ^ 24 := by exact_mod_cast hm
      rw [abs_mul, abs_of_pos (zpow_pos (by norm_num : (0 : ℚ) < 2) e)] at hu
      have hlt : (2 : ℚ) ^ (u + 23) < 2 ^ (24 + e) := by
        calc (2 : ℚ) ^ (u + 23) ≤ |(m : ℚ)| * 2 ^ e := hu
          _ < 2 ^ 24 * 2 ^ e := by gcongr
          _ = 2 ^ (24 + e) := by rw [zpow_add₀ (by norm_num)]; norm_num
      have hexp := (zpow_lt_zpow_iff_right₀ (by norm_num : (1 : ℚ) < 2)).1 hlt
      omega
  exact exists_mul_zpow_eq m hue

/-- The next smaller number is at least the 24th place down. -/
theorem Representable.le_of_lt {x y : ℚ} (hx : Representable x) (hy : Representable y)
    (hlt : x < y) : x ≤ y - y / 2 ^ 24 := by
  obtain ⟨m, e, hm, -, rfl⟩ := hx
  obtain ⟨n, f, hn, -, rfl⟩ := hy
  rcases le_or_gt f e with hfe | hef
  · obtain ⟨k, hk⟩ := exists_mul_zpow_eq m hfe
    have hplace : (0 : ℚ) < 2 ^ f := zpow_pos (by norm_num) f
    have hn' : (n : ℚ) ≤ 2 ^ 24 := by exact_mod_cast (abs_lt.1 hn).2.le
    rw [hk] at hlt ⊢
    have hkn : k + 1 ≤ n := by exact_mod_cast lt_of_mul_lt_mul_right hlt hplace.le
    have hstep : ((k : ℚ) + 1) * 2 ^ f ≤ n * 2 ^ f := by
      apply mul_le_mul_of_nonneg_right _ hplace.le
      exact_mod_cast hkn
    have hlast : (n : ℚ) * 2 ^ f / 2 ^ 24 ≤ 2 ^ f := by
      rw [div_le_iff₀ (by norm_num), mul_comm]
      exact mul_le_mul_of_nonneg_left hn' hplace.le
    linarith
  · obtain ⟨k, hk⟩ := exists_mul_zpow_eq n hef.le
    have hplace : (0 : ℚ) < 2 ^ e := zpow_pos (by norm_num) e
    have hm' : (m : ℚ) ≤ 2 ^ 24 - 1 := by exact_mod_cast Int.le_sub_one_of_lt (abs_lt.1 hm).2
    rw [hk] at hlt ⊢
    have hmk : m + 1 ≤ k := by exact_mod_cast lt_of_mul_lt_mul_right hlt hplace.le
    have hmk' : (m : ℚ) + 1 ≤ k := by exact_mod_cast hmk
    -- either the step down is a whole place, or `x` has no more places to offer
    have hcoefficient : (m : ℚ) ≤ k - k / 2 ^ 24 := by
      rcases le_or_gt (k : ℚ) (2 ^ 24) with hk' | hk' <;> linarith
    calc (m : ℚ) * 2 ^ e ≤ (k - k / 2 ^ 24) * 2 ^ e :=
          mul_le_mul_of_nonneg_right hcoefficient hplace.le
      _ = k * 2 ^ e - k * 2 ^ e / 2 ^ 24 := by ring

/-! ## What rounding keeps -/

theorem IsRounded.neg (h : IsRounded q r) : IsRounded (-q) (-r) := by
  obtain ⟨n, rfl, hhalf, heven⟩ := h
  have hsub : -q - -(n * ulp q) = -(q - n * ulp q) := by ring
  refine ⟨-n, by rw [ulp_neg]; push_cast; ring, ?_, ?_⟩
  · rwa [hsub, abs_neg, ulp_neg]
  · rw [hsub, abs_neg, ulp_neg]
    intro htie
    exact (heven htie).neg

theorem IsRounded.le_of_multiple (h : IsRounded q r) {k : ℤ} (hk : k * ulp q ≤ q) : k * ulp q ≤ r := by
  obtain ⟨n, rfl, hhalf, -⟩ := h
  have hulp := ulp_pos q
  have hupper := (abs_le.1 hhalf).2
  have hstep : ((k - 1 : ℤ) : ℚ) * ulp q < n * ulp q := by
    push_cast
    linarith
  have hkn : k - 1 < n := by exact_mod_cast lt_of_mul_lt_mul_right hstep hulp.le
  have hle : (k : ℚ) ≤ n := by exact_mod_cast (show k ≤ n by omega)
  exact mul_le_mul_of_nonneg_right hle hulp.le

theorem IsRounded.ge_of_multiple (h : IsRounded q r) {k : ℤ} (hk : q ≤ k * ulp q) : r ≤ k * ulp q := by
  have hneg := h.neg.le_of_multiple (k := -k) (by rw [ulp_neg]; push_cast; linarith)
  rw [ulp_neg] at hneg
  push_cast at hneg
  linarith

/-- Between a representable number and a greater one there is a multiple of the greater one's last place. -/
theorem Representable.exists_multiple_le (hb : Representable b) (hpos : 0 ≤ b) (hle : b ≤ q) :
    ∃ k : ℤ, b ≤ k * ulp q ∧ k * ulp q ≤ q := by
  rcases hpos.eq_or_lt with rfl | hpos
  · exact ⟨0, by simp, by simpa using hle⟩
  have hq : 0 < q := hpos.trans_le hle
  have hexp : ulpExponent q = max (Int.log 2 q - 23) (-149) := by
    rw [ulpExponent, if_neg hq.ne', abs_of_pos hq]
  by_cases hmultiple : ulpExponent q ≤ -149 ∨ 2 ^ (ulpExponent q + 23) ≤ |b|
  · obtain ⟨k, hk⟩ := hb.exists_eq_mul_zpow hmultiple
    exact ⟨k, hk.le, hk.symm.le.trans hle⟩
  · -- the power of two at the top of `q` is in between
    rw [not_or, not_le, not_le, abs_of_pos hpos] at hmultiple
    obtain ⟨hplace, hbelow⟩ := hmultiple
    have hlog : ulpExponent q + 23 = Int.log 2 q := by omega
    have htop : ((2 ^ 23 : ℤ) : ℚ) * ulp q = 2 ^ (ulpExponent q + 23) := by
      rw [ulp, zpow_add₀ (by norm_num)]
      push_cast
      ring
    refine ⟨2 ^ 23, ?_, ?_⟩
    · rw [htop]
      exact hbelow.le
    · rw [htop, hlog]
      exact_mod_cast Int.zpow_log_le_self (b := 2) (by norm_num) hq

theorem Representable.exists_multiple_ge (hb : Representable b) (hpos : 0 ≤ q) (hle : q ≤ b) :
    ∃ k : ℤ, q ≤ k * ulp q ∧ k * ulp q ≤ b := by
  rcases hpos.eq_or_lt with rfl | hpos
  · exact ⟨0, by simp, by simpa using hle⟩
  have hmultiple : ulpExponent q ≤ -149 ∨ 2 ^ (ulpExponent q + 23) ≤ |b| := by
    rw [or_iff_not_imp_left]
    intro hplace
    rw [ulpExponent, if_neg hpos.ne', abs_of_pos hpos] at hplace ⊢
    have hlog : max (Int.log 2 q - 23) (-149) + 23 = Int.log 2 q := by omega
    rw [hlog, abs_of_pos (hpos.trans_le hle)]
    have htop := Int.zpow_log_le_self (b := 2) (by norm_num) hpos
    exact (show (2 : ℚ) ^ Int.log 2 q ≤ q by exact_mod_cast htop).trans hle
  obtain ⟨k, hk⟩ := hb.exists_eq_mul_zpow hmultiple
  exact ⟨k, hle.trans hk.le, hk.symm.le⟩

theorem IsRounded.le_of_le_of_nonneg (h : IsRounded q r) (hb : Representable b) (hpos : 0 ≤ b)
    (hle : b ≤ q) : b ≤ r := by
  obtain ⟨k, hbk, hkq⟩ := hb.exists_multiple_le hpos hle
  exact hbk.trans (h.le_of_multiple hkq)

theorem IsRounded.ge_of_ge_of_nonneg (h : IsRounded q r) (hb : Representable b) (hpos : 0 ≤ q)
    (hle : q ≤ b) : r ≤ b := by
  obtain ⟨k, hqk, hkb⟩ := hb.exists_multiple_ge hpos hle
  exact (h.ge_of_multiple hqk).trans hkb

/-- Rounding does not fall below a representable number. -/
theorem IsRounded.le_of_le (h : IsRounded q r) (hb : Representable b) (hle : b ≤ q) : b ≤ r := by
  rcases le_total 0 b with hpos | hneg
  · exact h.le_of_le_of_nonneg hb hpos hle
  rcases le_total 0 q with hq | hq
  · exact hneg.trans (h.le_of_le_of_nonneg representable_zero le_rfl hq)
  · exact neg_le_neg_iff.1 (h.neg.ge_of_ge_of_nonneg hb.neg (neg_nonneg.2 hq) (neg_le_neg hle))

/-- Rounding does not rise above a representable number. -/
theorem IsRounded.ge_of_ge (h : IsRounded q r) (hb : Representable b) (hle : q ≤ b) : r ≤ b :=
  neg_le_neg_iff.1 (h.neg.le_of_le hb.neg (neg_le_neg hle))

theorem Representable.isRounded (hq : Representable q) : IsRounded q q := by
  have hplace : ulpExponent q ≤ -149 ∨ 2 ^ (ulpExponent q + 23) ≤ |q| := by
    refine (ulpExponent_eq_or_mul_ulp_le q).imp le_of_eq fun hlong => ?_
    rw [zpow_add₀ (by norm_num), mul_comm]
    exact_mod_cast hlong
  obtain ⟨k, hk⟩ := hq.exists_eq_mul_zpow hplace
  have hulp := ulp_pos q
  refine ⟨k, hk, ?_, ?_⟩
  · rw [sub_self, abs_zero]
    positivity
  · rw [sub_self, abs_zero]
    intro htie
    linarith

/-- Representable numbers stay what they are. -/
theorem IsRounded.eq_of_representable (h : IsRounded q r) (hq : Representable q) : r = q :=
  le_antisymm (h.ge_of_ge hq le_rfl) (h.le_of_le hq le_rfl)

/-- Below a power of two rounding moves by half of the 24th place at most. -/
theorem IsRounded.abs_sub_le (h : IsRounded q r) {k : ℤ} (hq : |q| < 2 ^ k) (hk : -125 ≤ k) :
    |q - r| ≤ 2 ^ (k - 25) := by
  obtain ⟨-, -, hhalf, -⟩ := h
  have hulp := ulp_le hq hk
  calc |q - r| ≤ ulp q / 2 := hhalf
    _ ≤ 2 ^ (k - 24) / 2 := by linarith
    _ = 2 ^ (k - 25) := by
      rw [div_eq_mul_inv, ← zpow_sub_one₀ (by norm_num)]
      congr 1
      ring

/-- Rounding moves by half of the 24th place of the number itself at most, or by half of the last of all. -/
theorem IsRounded.abs_sub_le_max (h : IsRounded q r) : |q - r| ≤ max (|q| / 2 ^ 24) (2 ^ (-150 : ℤ)) := by
  obtain ⟨-, -, hhalf, -⟩ := h
  rcases ulpExponent_eq_or_mul_ulp_le q with hlast | hlong
  · refine hhalf.trans (le_max_of_le_right (le_of_eq ?_))
    rw [ulp, hlast]
    norm_num
  · refine hhalf.trans (le_max_of_le_left ?_)
    rw [le_div_iff₀ (by norm_num)]
    linarith

end LightPilot.Single
