import LightPilot.Proofs.Check
import LightPilot.Proofs.Filter.Grid
import LightPilot.Proofs.Filter.Resampling
import LightPilot.Proofs.Map.Cells
import LightPilot.Proofs.Random.Uniform

set_option autoImplicit false

/-! # A fresh layout lies on the map

The layouts and the model of the colors compute with the same cell size, each in its own roundings. If the
map's side is a finite length they agree: the grid puts each particle into the cell that is meant for it, and
no two of them on one place (`LiesOnGrid`), and the random layout stays on the map (`LiesOnMap`). The checks of
the settings do not look at the side. Where even a cell's size is not finite, no particle is on the map at all
(`expectedColor_layOut_of_not_isFinite`). -/

namespace LightPilot

open Single

/-! ## Cells -/

/-- A finite side is eight exact cells. -/
theorem FilterConfig.value_mapExtent {config : FilterConfig} (h : isFinite config.mapExtent = true) :
    isFinite config.startingCellSize = true ∧
      value config.mapExtent = 8 * value config.startingCellSize ∧
      8 * value config.startingCellSize ≤ greatest := by
  have hsize : isFinite config.startingCellSize = true := isFinite_of_mul h
  obtain ⟨height, hvalue⟩ := value_natCast (n := mapSide) (by norm_num)
  have hexact : Representable (8 * value config.startingCellSize) := by
    obtain ⟨m, e, hm, he, hcell⟩ := representable_value config.startingCellSize
    refine ⟨m, e + 3, hm, by omega, ?_⟩
    rw [hcell, zpow_add₀ (by norm_num)]
    norm_num
    ring
  have hproduct := (rounds_mul height hsize).rounded h
  rw [hvalue] at hproduct
  have hside : value config.mapExtent = 8 * value config.startingCellSize :=
    hproduct.eq_of_representable hexact
  refine ⟨hsize, hside, ?_⟩
  rw [← hside]
  exact (le_abs_self _).trans (abs_value_le _)

/-- A coordinate below the side of the map is in one of its cells. -/
theorem exists_floor? {size x side : Float32} (hsize : isFinite size = true) (hpos : 0 < value size)
    (hside : value side = 8 * value size) (hx : isFinite x = true) (hlow : 0 ≤ value x)
    (hhigh : value x < value side) : ∃ cell : Fin mapSide, floor? (x / size) = some (cell : ℤ) := by
  have hbelow := (representable_value x).le_of_lt (representable_value side) hhigh
  have hnonneg : 0 ≤ value x / value size := by positivity
  have hle : value x / value size ≤ (7 : ℕ) + 1 - 8 / 2 ^ 24 := by
    rw [div_le_iff₀ hpos]
    rw [hside] at hbelow
    push_cast
    linarith
  obtain ⟨hquotient, hrounded⟩ := (rounds_div hx hsize hpos.ne').of_le hnonneg
    (hle.trans (by norm_num))
  have hfloorLow := hrounded.le_of_le representable_zero hnonneg
  have hfloorHigh := hrounded.ge_of_ge (Grid.representable_below (by norm_num)) hle
  have hcell : 0 ≤ ⌊value (x / size)⌋ ∧ ⌊value (x / size)⌋ < 8 := by
    refine ⟨Int.floor_nonneg.2 hfloorLow, Int.floor_lt.2 (hfloorHigh.trans_lt ?_)⟩
    norm_num
  refine ⟨⟨⌊value (x / size)⌋.toNat, by show _ < 8; omega⟩, ?_⟩
  rw [floor?_eq hquotient, Option.some_inj]
  exact (Int.toNat_of_nonneg hcell.1).symm

/-! ## What a layout promises -/

/-- A coordinate on the map that belongs to a cell. -/
structure FilterConfig.Covers (config : FilterConfig) (x : Float32) (cell : Fin mapSide) : Prop where
  low : 0 ≤ x
  high : x < config.mapExtent
  cell : floor? (x / config.startingCellSize) = some (cell : ℤ)

/-- Two poses that differ in a coordinate, as numbers. -/
def Vec3.Apart (a b : Vec3) : Prop :=
  (a.x < b.x ∨ b.x < a.x) ∨ a.y < b.y ∨ b.y < a.y

namespace Population

variable {n : ℕ}

/-- How often the particles go through all cells of the grid. -/
def laps (n : ℕ) : ℕ :=
  (n + 63) / 64

theorem gridPose_eq (p : Population n) (index : ℕ) :
    p.gridPose index =
      ⟨Grid.coordinate p.config.startingCellSize (laps n) (index / 64) (index % 64 % 8),
        Grid.coordinate p.config.startingCellSize (laps n) (index / 64) (index % 64 / 8),
        p.config.startingDepth⟩ :=
  rfl

theorem particle_layOut_grid (p : Population n) (i : Fin n) :
    (p.layOut .grid).particle i = p.settled (p.gridPose i) := by
  simp [particle, Vector.get_eq_getElem, layOut]

theorem randomPlace_eq (extent : Float32) (g : Generator) :
    (randomPlace extent g).1
      = ((g.within 0 extent).1, ((g.within 0 extent).2.within 0 extent).1) :=
  rfl

/-- A particle that was laid out at random stands where some draw put it. -/
theorem particle_layOut_uniform (p : Population n) (i : Fin n) :
    ∃ g : Generator, (p.layOut .uniform).particle i = p.settled
      ⟨(randomPlace p.config.mapExtent g).1.1, (randomPlace p.config.mapExtent g).1.2,
        p.config.startingDepth⟩ := by
  obtain ⟨g, hg⟩ := Generator.exists_get_draws (randomPlace p.config.mapExtent) n p.generator i
  refine ⟨g, ?_⟩
  rw [← hg]
  -- the places are named and never drawn
  rcases hdraws : Generator.draws (randomPlace p.config.mapExtent) n p.generator
    with ⟨places, generator⟩
  simp [particle, Vector.get_eq_getElem, layOut, hdraws]

/-- Each particle of a grid is in the cell that is meant for it, and none are on one place. -/
structure LiesOnGrid (p : Population n) : Prop where
  color : ∀ i : Fin n, ((p.layOut .grid).particle i).expectedColor
    = p.map.lookup (i.val % 8 : ℕ) (i.val % 64 / 8 : ℕ)
  apart : ∀ i j : Fin n, i ≠ j →
    ((p.layOut .grid).particle i).position.Apart ((p.layOut .grid).particle j).position

/-- Each particle of a random layout is in some cell of the map and sees its color. -/
def LiesOnMap (p : Population n) : Prop :=
  ∀ i : Fin n, ∃ column row : Fin mapSide,
    p.config.Covers ((p.layOut .uniform).particle i).position.x column ∧
      p.config.Covers ((p.layOut .uniform).particle i).position.y row ∧
      ((p.layOut .uniform).particle i).expectedColor = (p.map.table.get row.rev).get column

/-- How the layouts of a population come out. -/
structure LaysOutOnMap (p : Population n) : Prop where
  /-- The grid, if there are not too many laps and each of them has eight of the smallest steps of a cell to
  itself; any normal cell size has room for so many. -/
  grid : 23 * laps n ≤ 2 ^ 24 → laps n * 2 ^ (-146 : ℤ) ≤ value p.config.startingCellSize → p.LiesOnGrid
  /-- The random layout, if a cell has any size. -/
  uniform : p.config.startingCellSize > 0 → p.LiesOnMap

/-! ## The grid -/

theorem lap_lt (i : Fin n) : i.val / 64 < laps n := by
  have hi := i.isLt
  rw [laps]
  omega

theorem column_lt (index : ℕ) : index % 64 % 8 < 8 := by
  omega

theorem row_lt (index : ℕ) : index % 64 / 8 < 8 := by
  omega

theorem expectedColor_settled (p : Population n) (pose : Vec3) :
    (p.settled pose).expectedColor = p.model.expectedColor pose :=
  rfl

theorem position_settled (p : Population n) (pose : Vec3) : (p.settled pose).position = pose :=
  rfl

theorem cellSizeAt_startingDepth (p : Population n) :
    p.model.lens.cellSizeAt p.config.startingDepth = p.config.startingCellSize :=
  rfl

/-- Each particle of a grid sees the color of the cell that is meant for it. -/
theorem expectedColor_layOut_grid (p : Population n)
    (h : Grid.Fits (laps n) p.config.startingCellSize) (i : Fin n) :
    ((p.layOut .grid).particle i).expectedColor
      = p.map.lookup (i.val % 8 : ℕ) (i.val % 64 / 8 : ℕ) := by
  have hmod : i.val % 64 % 8 = i.val % 8 := by omega
  have hx := (h.isRounded_coordinate (column_lt i) (lap_lt i)).1
  have hy := (h.isRounded_coordinate (row_lt i) (lap_lt i)).1
  rw [particle_layOut_grid, expectedColor_settled, gridPose_eq, ← hmod]
  exact ColorModel.expectedColor_of_floor p.cellSizeAt_startingDepth h.finite (h.pos (lap_lt i)) hx hy
    (h.floor?_coordinate (column_lt i) (lap_lt i)) (h.floor?_coordinate (row_lt i) (lap_lt i))

/-- No two particles of a grid are on one place: they differ in the column, in the row or in the lap. -/
theorem apart_layOut_grid (p : Population n) (h : Grid.Fits (laps n) p.config.startingCellSize)
    {i j : Fin n} (hne : i ≠ j) :
    ((p.layOut .grid).particle i).position.Apart ((p.layOut .grid).particle j).position := by
  have hne' : i.val ≠ j.val := Fin.val_ne_of_ne hne
  rw [particle_layOut_grid, particle_layOut_grid, position_settled, position_settled, gridPose_eq,
    gridPose_eq]
  by_cases hrow : i.val % 64 / 8 = j.val % 64 / 8
  · refine .inl (h.coordinate_lt_or_lt (column_lt i) (column_lt j) (lap_lt i) (lap_lt j) ?_)
    intro hcolumn
    omega
  · refine .inr (h.coordinate_lt_or_lt (row_lt i) (row_lt j) (lap_lt i) (lap_lt j) ?_)
    intro hrow'
    exact absurd hrow' hrow

theorem liesOnGrid_of_fits (p : Population n) (h : Grid.Fits (laps n) p.config.startingCellSize) :
    p.LiesOnGrid where
  color := p.expectedColor_layOut_grid h
  apart _ _ hne := p.apart_layOut_grid h hne

/-! ## The random layout -/

/-- A draw along a side of the map is in some cell. -/
theorem exists_covers {config : FilterConfig} (hside : isFinite config.mapExtent = true)
    (hpos : 0 < value config.startingCellSize) (g : Generator) :
    isFinite (g.within 0 config.mapExtent).1 = true ∧
      ∃ cell, config.Covers (g.within 0 config.mapExtent).1 cell := by
  obtain ⟨hfinite, hextent, -⟩ := FilterConfig.value_mapExtent hside
  have hpos' : 0 < value config.mapExtent := by
    rw [hextent]
    linarith
  obtain ⟨hdrawn, hlow, hhigh⟩ := Generator.value_within hside hpos' g
  obtain ⟨hzero, hvalue⟩ := Generator.value_zero
  obtain ⟨cell, hcell⟩ := exists_floor? hfinite hpos hextent hdrawn hlow hhigh
  have hlow' : 0 ≤ (g.within 0 config.mapExtent).1 := (le_iff hzero hdrawn).2 (by rwa [hvalue])
  exact ⟨hdrawn, cell, hlow', (lt_iff hdrawn hside).2 hhigh, hcell⟩

/-- A random layout on a map with cells of some finite size. -/
theorem liesOnMap_of_pos (p : Population n) (hside : isFinite p.config.mapExtent = true)
    (hpos : 0 < value p.config.startingCellSize) : p.LiesOnMap := by
  intro i
  obtain ⟨g, hg⟩ := p.particle_layOut_uniform i
  obtain ⟨hx, column, hcolumn⟩ := exists_covers hside hpos g
  obtain ⟨hy, row, hrow⟩ := exists_covers hside hpos (g.within 0 p.config.mapExtent).2
  rw [hg, expectedColor_settled, position_settled, randomPlace_eq]
  refine ⟨column, row, hcolumn, hrow, ?_⟩
  rw [← ColorMap.lookup_cell]
  exact ColorModel.expectedColor_of_floor p.cellSizeAt_startingDepth
    (FilterConfig.value_mapExtent hside).1 hpos hx hy hcolumn.cell hrow.cell

/-- **A fresh layout lies on the map** if the map's side is a finite length. -/
theorem laysOutOnMap_of_isFinite (p : Population n) (hside : isFinite p.config.mapExtent = true) :
    p.LaysOutOnMap := by
  obtain ⟨hfinite, hextent, hgreatest⟩ := FilterConfig.value_mapExtent hside
  constructor
  case grid =>
    intro hlaps hsteps
    exact p.liesOnGrid_of_fits ⟨hfinite, hgreatest, hlaps, hsteps⟩
  case uniform =>
    intro hsize
    obtain ⟨hzero, hvalue⟩ := Generator.value_zero
    have hpos : value 0 < value p.config.startingCellSize := (lt_iff hzero hfinite).1 hsize
    exact p.liesOnMap_of_pos hside (by rwa [hvalue] at hpos)

theorem trio_laysOutOnMap :
    isFinite trio.config.mapExtent = true ∧ trio.LaysOutOnMap ∧ trio.LiesOnGrid ∧ trio.LiesOnMap := by
  have hside : isFinite trio.config.mapExtent = true := by decide +kernel
  have hlays := laysOutOnMap_of_isFinite trio hside
  obtain ⟨hone, hvalue⟩ := value_natCast (n := 1) (by norm_num)
  have hle : Float32.ofNat 1 ≤ trio.config.startingCellSize := by decide +kernel
  have hsize : 1 ≤ value trio.config.startingCellSize := by
    rw [le_iff hone (FilterConfig.value_mapExtent hside).1, hvalue] at hle
    exact_mod_cast hle
  have hlaps : laps 3 = 1 := rfl
  refine ⟨hside, hlays, hlays.grid ?_ (hsize.trans' ?_), hlays.uniform ?_⟩
  · norm_num [hlaps]
  · norm_num [hlaps]
  · decide +kernel

/-! ## Cells without a size -/

/-- What a population is before its first layout. -/
def blank (n : ℕ) (config : FilterConfig) (map : ColorMap) : Population n where
  particles := Vector.replicate n (Particle.resting Vec3.zero)
  map := map
  config := config
  generator := ⟨config.seed⟩

theorem create_eq_ok_iff {config : FilterConfig} {map : ColorMap} {p : Population n} :
    create n config map = .ok p
      ↔ config.validate = .ok () ∧ n ≠ 0 ∧ p = (blank n config map).layOut config.layout := by
  rw [create, Check.bind_eq_ok_iff, Check.before_eq_ok_iff]
  constructor
  · rintro ⟨hvalid, hn, hp⟩
    exact ⟨hvalid, hn, (Except.ok.inj hp).symm⟩
  · rintro ⟨hvalid, hn, rfl⟩
    exact ⟨hvalid, hn, rfl⟩

/-- Where a cell has no finite size, no particle of a fresh layout is on the map. -/
theorem expectedColor_layOut_of_not_isFinite (p : Population n)
    (hsize : isFinite p.config.startingCellSize = false) (layout : Layout) (i : Fin n) :
    ((p.layOut layout).particle i).expectedColor = ambient := by
  have hambient : ∀ x y, (p.settled ⟨x, y, p.config.startingDepth⟩).expectedColor = ambient := by
    intro x y
    rw [expectedColor_settled, ColorModel.expectedColor, cellSizeAt_startingDepth, if_neg]
    rintro ⟨-, hfinite, -⟩
    rw [hsize] at hfinite
    exact Bool.false_ne_true hfinite
  cases layout with
  | grid =>
      rw [particle_layOut_grid, gridPose_eq]
      exact hambient _ _
  | uniform =>
      obtain ⟨g, hg⟩ := p.particle_layOut_uniform i
      rw [hg]
      exact hambient _ _

/-- Settings whose cell size is positive and whose cells are not finite at the starting depth. -/
def hugeCells : FilterConfig :=
  { lens := ⟨9, 1e38⟩ }

theorem expectedColor_hugeCells :
    ∃ p : Population 1, create 1 hugeCells ColorMap.standard = .ok p ∧
      (p.particle 0).expectedColor = ambient ∧ p.map.lookup 0 0 = 0 := by
  have hconfig : hugeCells.validate = .ok () :=
    (FilterConfig.validate_eq_ok_iff _).2 (by decide +kernel)
  have hsize : isFinite hugeCells.startingCellSize = false := by decide +kernel
  refine ⟨_, create_eq_ok_iff.2 ⟨hconfig, one_ne_zero, rfl⟩, ?_, ?_⟩
  · exact (blank 1 hugeCells ColorMap.standard).expectedColor_layOut_of_not_isFinite hsize _ 0
  · show ColorMap.standard.lookup 0 0 = 0
    decide

end Population

end LightPilot
