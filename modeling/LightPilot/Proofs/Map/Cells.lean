import LightPilot.Map.ColorModel
import LightPilot.Proofs.Number.Value

set_option autoImplicit false

/-! # Where a pose is on the map, and where it is not

A pose sees the color of the cell that its coordinates reach, and the ambient color if there is none. Which
cell that is goes by quotients in single precision, which may be infinite, and the craft computes with words:
it clamps a quotient rounded down to 32 bits before it looks at the table. A quotient that is no number would
come out as cell zero. `Single.isNaN_div` says that there is none, and `floor32_cases` that no clamped quotient
falls onto the map. So the words lead to the cell of the pose or off the map, and every look at the table is
inside it (`ColorModel.showsCells_of_ofTable`). -/

namespace LightPilot

/-! ## Rounding down to a word -/

namespace Single

open Float.Model (UnpackedFloat)
open Float.Model.UnpackedFloat

variable {x y : Float32}

/-- `x` rounded down and clamped to 32 bits; a NaN counts as zero. -/
def floor32 (x : Float32) : Int32 :=
  match x.toModel.unpack with
  | .notANumber => 0
  | .infinity .negative => Int32.minValue
  | .infinity .positive => Int32.maxValue
  | .zero _ => 0
  | .finite sign significand exponent _ => .ofIntClamp (floorScaled (sign.apply significand) exponent)

@[simp] theorem toInt_minValue32 : Int32.minValue.toInt = -2147483648 := by
  decide

@[simp] theorem toInt_maxValue32 : Int32.maxValue.toInt = 2147483647 := by
  decide

theorem toInt_clamp32 (n : ℤ) :
    (Int32.ofIntClamp n).toInt = max Int32.minValue.toInt (min n Int32.maxValue.toInt) := by
  have hrange : Int32.minValue.toInt ≤ Int32.maxValue.toInt := by decide
  unfold Int32.ofIntClamp
  split
  · split
    · rw [Int32.toInt_ofIntLE]
      omega
    · omega
  · omega

/-- A word for a number is its floor, clamped; an infinite one is the least or the greatest word. -/
theorem floor32_cases (hnumber : x.isNaN = false) :
    (∃ n, floor? x = some n ∧
      (floor32 x).toInt = max Int32.minValue.toInt (min n Int32.maxValue.toInt)) ∨
    (floor? x = none ∧ (floor32 x = Int32.minValue ∨ floor32 x = Int32.maxValue)) := by
  have hcore : x.toModel.unpack.isNaN = false := hnumber
  unfold floor? floor32
  cases hx : x.toModel.unpack with
  | notANumber =>
      rw [hx] at hcore
      contradiction
  | infinity sign =>
      right
      cases sign
      · exact ⟨rfl, .inl rfl⟩
      · exact ⟨rfl, .inr rfl⟩
  | zero sign =>
      have hzero : (0 : Int32).toInt = max Int32.minValue.toInt (min 0 Int32.maxValue.toInt) := by
        decide
      exact .inl ⟨0, rfl, hzero⟩
  | finite sign significand exponent hpos => exact .inl ⟨_, rfl, toInt_clamp32 _⟩

theorem floor?_eq_some_iff {n : ℤ} : floor? x = some n ↔ isFinite x = true ∧ ⌊value x⌋ = n := by
  constructor
  · intro hfloor
    have hx : isFinite x = true := by
      show x.toModel.unpack.isFinite = true
      unfold floor? at hfloor
      cases hunpack : x.toModel.unpack with
      | finite => rfl
      | zero => rfl
      | infinity =>
          rw [hunpack] at hfloor
          contradiction
      | notANumber =>
          rw [hunpack] at hfloor
          contradiction
    rw [floor?_eq hx] at hfloor
    exact ⟨hx, Option.some.inj hfloor⟩
  · rintro ⟨hx, rfl⟩
    exact floor?_eq hx

/-- A rounded number may be packed as infinite, but it is a number. -/
theorem isNaN_of_pack {q : ℚ} {f : UnpackedFloat} (hx : x.toModel = .pack f) (hf : IsRounding q f) :
    x.isNaN = false := by
  have hunpack : x.toModel.unpack = unpack .binary32 (pack .binary32 f) := by
    rw [hx]
    rfl
  show x.toModel.unpack.isNaN = false
  rw [hunpack]
  rcases zero_or_finite hf.finite with ⟨sign, rfl⟩ | ⟨sign, m, e, hpos, rfl⟩
  · rw [pack, unpack_packedZero]
    rfl
  rcases le_or_gt e 104 with hsmall | hlarge
  · rw [unpack_pack_finite hf.canonical hsmall]
    rfl
  · rw [unpack_pack_of_lt sign hpos hlarge]
    rfl

/-- The quotient of two finite numbers is a number, unless both are zero. -/
theorem isNaN_div (hx : isFinite x = true) (hy : isFinite y = true) (hne : value y ≠ 0) :
    (x / y).isNaN = false :=
  isNaN_of_pack rfl (isRounding_div hx hy hne)

end Single

open Single

/-! ## Look-ups -/

namespace ColorMap

variable {table : ColorTable} {map : ColorMap}

/-- Inside the map the color is an entry of the table. -/
theorem lookup_cell (map : ColorMap) (column row : Fin mapSide) :
    map.lookup (column : ℤ) (row : ℤ) = (map.table.get row.rev).get column := by
  have hcolumn := column.isLt
  have hrow := row.isLt
  rw [lookup, dif_pos (by omega)]
  simp only [Vector.get_eq_getElem, Fin.val_rev, Int.toNat_natCast, Nat.sub_sub, Nat.add_comm 1]

/-- A column or a row of the map. -/
theorem exists_cell {n : ℤ} (hpos : 0 ≤ n) (hlt : n < mapSide) : ∃ cell : Fin mapSide, n = cell := by
  obtain ⟨cell, rfl⟩ := Int.eq_ofNat_of_zero_le hpos
  exact ⟨⟨cell, by exact_mod_cast hlt⟩, rfl⟩

theorem lookup_of_outside (map : ColorMap) {column row : ℤ}
    (houtside : ¬ ((0 ≤ column ∧ column < mapSide) ∧ 0 ≤ row ∧ row < mapSide)) :
    map.lookup column row = ambient :=
  dif_neg houtside

/-- A table is accepted exactly as the map that holds it. -/
theorem ofTable_eq_ok_iff : ofTable table = .ok map ↔ map.table = table := by
  unfold ofTable
  constructor
  · intro hmap
    split at hmap
    · contradiction
    · rw [← Except.ok.inj hmap]
  · rintro rfl
    split
    · next row column hfault =>
        have hlarge := List.find?_some hfault
        simp only [decide_eq_true_eq] at hlarge
        exact absurd (map.inRange row column) (UInt8.not_le.2 hlarge)
    · rfl

/-- The place that a word addresses: a negative one is far beyond every table. -/
def address (index : Int32) : ℕ :=
  index.toInt64.toUInt64.toNat

theorem address_of_nonneg {index : Int32} (hpos : 0 ≤ index.toInt) : address index = index.toInt.toNat := by
  have hwide : 0 ≤ index.toInt64 := by
    rw [Int64.le_iff_toInt_le, Int32.toInt_toInt64]
    exact hpos
  rw [address, Int64.toNat_toUInt64_of_le hwide, Int32.toNatClampNeg_toInt64]
  rfl

/-- A look-up in words. Each access to the table is checked; `none` would be an access beyond it. -/
def lookup32? (table : ColorTable) (column row : Int32) : Option UInt8 :=
  if column < 0 ∨ Int32.ofNat mapSide ≤ column ∨ row < 0 ∨ Int32.ofNat mapSide ≤ row then some ambient
  else do
    let cells ← table[address (Int32.ofNat mapSide - 1 - row)]?
    cells[address column]?

/-- No access is beyond the table. -/
theorem lookup32?_eq (map : ColorMap) (column row : Int32) :
    lookup32? map.table column row = some (map.lookup column.toInt row.toInt) := by
  have hside : (Int32.ofNat mapSide).toInt = mapSide := by decide
  have hzero : (0 : Int32).toInt = 0 := by decide
  unfold lookup32?
  simp only [Int32.lt_iff_toInt_lt, Int32.le_iff_toInt_le, hside, hzero]
  split
  · next houtside => rw [lookup_of_outside map (by omega)]
  · next hinside =>
      obtain ⟨c, hc⟩ := exists_cell (n := column.toInt) (by omega) (by omega)
      obtain ⟨r, hr⟩ := exists_cell (n := row.toInt) (by omega) (by omega)
      have hcolumn : address column = c := by
        rw [address_of_nonneg (by omega), hc, Int.toNat_natCast]
      have hdown : (Int32.ofNat mapSide - 1 - row).toInt = r.rev := by
        have hlast : (Int32.ofNat mapSide - 1).toInt = 7 := by decide
        have hlt : r.val < 8 := r.isLt
        have hrev : ((r.rev : Fin mapSide) : ℤ) = 7 - r := by
          rw [Fin.val_rev]
          show ((8 - (r.val + 1) : ℕ) : ℤ) = 7 - r
          omega
        rw [Int32.toInt_sub, hlast, hr, hrev, Int.bmod_eq_of_le (by omega) (by omega)]
      have hrow : address (Int32.ofNat mapSide - 1 - row) = r.rev := by
        rw [address_of_nonneg (by omega), hdown, Int.toNat_natCast]
      rw [hc, hr, lookup_cell, hcolumn, hrow]
      simp [Vector.get_eq_getElem]

end ColorMap

/-! ## Poses -/

namespace ColorModel

variable {table : ColorTable} {map : ColorMap}

/-- The color of a finite pose is that of the cell that both of its coordinates reach. -/
theorem expectedColor_of_floor {model : ColorModel} {x y depth size : Float32}
    (hsize : model.lens.cellSizeAt depth = size) (hfinite : isFinite size = true)
    (hpos : 0 < value size) (hx : isFinite x = true) (hy : isFinite y = true) {column row : ℤ}
    (hcolumn : floor? (x / size) = some column) (hrow : floor? (y / size) = some row) :
    model.expectedColor ⟨x, y, depth⟩ = model.map.lookup column row := by
  have hpos' : size > 0 := (lt_iff rfl hfinite).2 hpos
  rw [expectedColor, hsize, if_pos ⟨hpos', hfinite, hx, hy⟩, hcolumn, hrow]

/-- The color received at a pose, computed in words and with checked accesses to the table. -/
def expectedColor32? (table : ColorTable) (lens : Lens) (pose : Vec3) : Option UInt8 :=
  let size := lens.cellSizeAt pose.z
  if ¬ size > 0 ∨ ¬ isFinite size ∨ ¬ isFinite pose.x ∨ ¬ isFinite pose.y then some ambient
  else ColorMap.lookup32? table (floor32 (pose.x / size)) (floor32 (pose.y / size))

/-- A pose lies in a cell: its depth gives cells a size, and its coordinates in cells, each rounded to a
single, have the column and the row as their floors. -/
structure LiesIn (lens : Lens) (pose : Vec3) (column row : Fin mapSide) : Prop where
  size_pos : lens.cellSizeAt pose.z > 0
  size_finite : isFinite (lens.cellSizeAt pose.z) = true
  x_finite : isFinite pose.x = true
  y_finite : isFinite pose.y = true
  across : isFinite (pose.x / lens.cellSizeAt pose.z) = true
  column_eq : ⌊value (pose.x / lens.cellSizeAt pose.z)⌋ = column
  along : isFinite (pose.y / lens.cellSizeAt pose.z) = true
  row_eq : ⌊value (pose.y / lens.cellSizeAt pose.z)⌋ = row

/-- The color that a pose under a map with this table has to see. -/
structure ShowsCells (table : ColorTable) (lens : Lens) (pose : Vec3) (color : UInt8) : Prop where
  /-- The computation in words stays inside the table and gives the same color. -/
  accesses : expectedColor32? table lens pose = some color
  le : color ≤ ambient
  inside : ∀ column row, LiesIn lens pose column row → color = (table.get row.rev).get column
  outside : (∀ column row, ¬ LiesIn lens pose column row) → color = ambient

/-- Clamped words look up what the floors do. -/
theorem lookup_floor32_of_some (map : ColorMap) {x y : Float32} (hx : x.isNaN = false)
    (hy : y.isNaN = false) {column row : ℤ} (hcolumn : floor? x = some column)
    (hrow : floor? y = some row) :
    map.lookup (floor32 x).toInt (floor32 y).toInt = map.lookup column row := by
  obtain ⟨c, hc, hcolumn'⟩ := (floor32_cases hx).resolve_right (by simp [hcolumn])
  obtain ⟨r, hr, hrow'⟩ := (floor32_cases hy).resolve_right (by simp [hrow])
  obtain rfl : c = column := Option.some.inj (hc.symm.trans hcolumn)
  obtain rfl : r = row := Option.some.inj (hr.symm.trans hrow)
  have hside : (mapSide : ℤ) = 8 := rfl
  rw [hcolumn', hrow', toInt_minValue32, toInt_maxValue32]
  by_cases hinside : (0 ≤ c ∧ c < mapSide) ∧ 0 ≤ r ∧ r < mapSide
  · congr 1 <;> omega
  · rw [map.lookup_of_outside hinside, map.lookup_of_outside (by omega)]

/-- An infinite quotient leads off the map. -/
theorem not_inside_of_none {x : Float32} (hx : x.isNaN = false) (hnone : floor? x = none) :
    ¬ (0 ≤ (floor32 x).toInt ∧ (floor32 x).toInt < mapSide) := by
  obtain ⟨-, hleast | hgreatest⟩ := (floor32_cases hx).resolve_left (by simp [hnone])
  · rw [hleast]
    decide
  · rw [hgreatest]
    decide

/-- The words never leave the table and never lead elsewhere than the floors. -/
theorem expectedColor32?_eq (model : ColorModel) (pose : Vec3) :
    expectedColor32? model.map.table model.lens pose = some (model.expectedColor pose) := by
  unfold expectedColor32? expectedColor
  dsimp only
  by_cases hguard : model.lens.cellSizeAt pose.z > 0 ∧ isFinite (model.lens.cellSizeAt pose.z) = true ∧
      isFinite pose.x = true ∧ isFinite pose.y = true
  · obtain ⟨hpos, hsize, hx, hy⟩ := hguard
    have hne : value (model.lens.cellSizeAt pose.z) ≠ 0 := ((lt_iff rfl hsize).1 hpos).ne'
    have hacross := isNaN_div hx hsize hne
    have halong := isNaN_div hy hsize hne
    rw [if_neg (by tauto), if_pos ⟨hpos, hsize, hx, hy⟩, ColorMap.lookup32?_eq]
    congr 1
    cases hcolumn : floor? (pose.x / model.lens.cellSizeAt pose.z) with
    | none =>
        exact model.map.lookup_of_outside fun hinside => not_inside_of_none hacross hcolumn hinside.1
    | some column =>
        cases hrow : floor? (pose.y / model.lens.cellSizeAt pose.z) with
        | none => exact model.map.lookup_of_outside fun hinside => not_inside_of_none halong hrow hinside.2
        | some row => exact lookup_floor32_of_some model.map hacross halong hcolumn hrow
  · rw [if_pos (by tauto), if_neg hguard]

theorem LiesIn.expectedColor_eq {model : ColorModel} {pose : Vec3} {column row : Fin mapSide}
    (h : LiesIn model.lens pose column row) :
    model.expectedColor pose = (model.map.table.get row.rev).get column := by
  have hpos := (lt_iff rfl h.size_finite).1 h.size_pos
  rw [← ColorMap.lookup_cell]
  exact expectedColor_of_floor rfl h.size_finite hpos h.x_finite h.y_finite
    (floor?_eq_some_iff.2 ⟨h.across, h.column_eq⟩) (floor?_eq_some_iff.2 ⟨h.along, h.row_eq⟩)

theorem expectedColor_of_outside {model : ColorModel} {pose : Vec3}
    (houtside : ∀ column row, ¬ LiesIn model.lens pose column row) :
    model.expectedColor pose = ambient := by
  unfold expectedColor
  dsimp only
  split
  · next hguard =>
      obtain ⟨hpos, hsize, hx, hy⟩ := hguard
      split
      · next column row hcolumn hrow =>
          -- a pose with both floors on the map would lie in a cell
          refine model.map.lookup_of_outside fun hinside => ?_
          obtain ⟨across, hcolumn⟩ := floor?_eq_some_iff.1 hcolumn
          obtain ⟨along, hrow⟩ := floor?_eq_some_iff.1 hrow
          obtain ⟨c, rfl⟩ := ColorMap.exists_cell hinside.1.1 hinside.1.2
          obtain ⟨r, rfl⟩ := ColorMap.exists_cell hinside.2.1 hinside.2.2
          exact houtside c r ⟨hpos, hsize, hx, hy, across, hcolumn, along, hrow⟩
      · rfl
  · rfl

/-- **Every pose sees its cell, or the ambient color.** Under each map that is accepted and through each lens,
whatever numbers, infinities or NaNs they and the pose are made of, the color is the table's entry for the cell
that the pose lies in and the ambient one if it lies in none; and to find it no access leaves the table. -/
theorem showsCells_of_ofTable (hmap : ColorMap.ofTable table = .ok map) (lens : Lens) (pose : Vec3) :
    ShowsCells table lens pose (expectedColor ⟨map, lens⟩ pose) := by
  obtain rfl := ColorMap.ofTable_eq_ok_iff.1 hmap
  exact ⟨expectedColor32?_eq ⟨map, lens⟩ pose, expectedColor_le _ pose,
    fun _ _ hcell => LiesIn.expectedColor_eq hcell, fun houtside => expectedColor_of_outside houtside⟩

/-- Cells of a focal length of 9 and a size of 3/4, as wide as 15 at a depth of 189. -/
def usualLens : Lens := ⟨9, 0.75⟩

/-- Far off the near edge, and a hair off the near left corner, whose quotient vanishes. -/
theorem showsCells_edges :
    ColorMap.ofTable ColorMap.standard.table = .ok ColorMap.standard ∧
      ShowsCells ColorMap.standard.table usualLens ⟨20, -1e30, 189⟩ ambient ∧
      ShowsCells ColorMap.standard.table usualLens ⟨-1e-45, 50, 189⟩ 1 := by
  have hmap : ColorMap.ofTable ColorMap.standard.table = .ok ColorMap.standard :=
    ColorMap.ofTable_eq_ok_iff.2 rfl
  have hfar : expectedColor ⟨ColorMap.standard, usualLens⟩ ⟨20, -1e30, 189⟩ = ambient := by
    decide +kernel
  have hnear : expectedColor ⟨ColorMap.standard, usualLens⟩ ⟨-1e-45, 50, 189⟩ = 1 := by
    decide +kernel
  exact ⟨hmap, hfar ▸ showsCells_of_ofTable hmap usualLens _,
    hnear ▸ showsCells_of_ofTable hmap usualLens _⟩

end ColorModel

end LightPilot
