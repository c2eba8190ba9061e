import LightPilot.Navigation.Error

set_option autoImplicit false

/-! # The map of colors

The projection is a square of colored cells. It is written down with the far row first, while cells
are addressed by a column and a row counted from the near left corner, so the two row orders run
against each other. Everything outside the square has the ambient color, which is also what an
observation reports when it can tell nothing. -/

namespace LightPilot

/-- The mark for "outside the map" and "no reliable observation"; the colors are below it. -/
def ambient : UInt8 := 8

/-- The number of cells along each side of the map. -/
abbrev mapSide : Nat := 8

/-- A table of color marks, far row first. -/
abbrev ColorTable : Type := Vector (Vector UInt8 mapSide) mapSide

/-- A map of colors: a table without marks above the ambient one. -/
structure ColorMap where
  table : ColorTable
  inRange : ∀ row column : Fin mapSide, table[row][column] ≤ ambient

namespace ColorMap

/-! ## Reading a table -/

/-- The places of a table, row by row. -/
def places : List (Fin mapSide × Fin mapSide) :=
  (List.finRange mapSide).flatMap fun row => (List.finRange mapSide).map fun column => (row, column)

theorem mem_places (place : Fin mapSide × Fin mapSide) : place ∈ places :=
  List.mem_flatMap.2 ⟨place.1, List.mem_finRange _,
    List.mem_map.2 ⟨place.2, List.mem_finRange _, rfl⟩⟩

/-- The first place of a table that holds no color mark. -/
def firstFault? (table : ColorTable) : Option (Fin mapSide × Fin mapSide) :=
  places.find? fun place => ambient < table[place.1][place.2]

/-- The map of a table; refused at the first place that holds no color mark. -/
def ofTable (table : ColorTable) : Except NavigationError ColorMap :=
  match h : firstFault? table with
  | some (row, column) => .error (.invalidColor table[row][column] column row)
  | none => .ok
      { table
        inRange := fun row column => by
          have := List.find?_eq_none.1 h (row, column) (mem_places _)
          simpa [UInt8.not_lt] using this }

/-- The usual projection: neighbors in a row and in a column always differ, so moving by one cell shows. -/
def standard : ColorMap where
  table := #v[
    #v[5, 6, 7, 0, 1, 2, 3, 4],
    #v[2, 3, 4, 5, 6, 7, 0, 1],
    #v[7, 0, 1, 2, 3, 4, 5, 6],
    #v[4, 5, 6, 7, 0, 1, 2, 3],
    #v[1, 2, 3, 4, 5, 6, 7, 0],
    #v[6, 7, 0, 1, 2, 3, 4, 5],
    #v[3, 4, 5, 6, 7, 0, 1, 2],
    #v[0, 1, 2, 3, 4, 5, 6, 7]]
  inRange := by decide

/-! ## Looking up cells -/

/-- The color of a cell, its row counted from the near edge; ambient outside the map. -/
def lookup (map : ColorMap) (column row : Int) : UInt8 :=
  if h : (0 ≤ column ∧ column < mapSide) ∧ 0 ≤ row ∧ row < mapSide then
    map.table[mapSide - 1 - row.toNat][column.toNat]
  else ambient

theorem lookup_le (map : ColorMap) (column row : Int) : map.lookup column row ≤ ambient := by
  unfold lookup
  split
  · exact map.inRange ⟨mapSide - 1 - row.toNat, by omega⟩ ⟨column.toNat, by omega⟩
  · exact UInt8.le_refl _

end ColorMap

end LightPilot
