/-
The size of a grid, and the torus it spans.

A grid has between 1 and `maxSide` cells to a side.  Its cells are numbered row by
row; `index` takes any two coordinates to the number of the cell they fall on once
both have been wrapped around.  The sizes are kept in the type, so `index` is in range
by construction.
-/
import Lifecast.Life.FrameError

namespace Lifecast

/-- The size of a grid. -/
structure Size where
  width : Nat
  height : Nat
  width_pos : 0 < width
  height_pos : 0 < height
  width_le : width ≤ maxSide
  height_le : height ≤ maxSide
deriving DecidableEq, Repr

namespace Size

/-- The size with these sides, if they are in range. -/
def ofSides (width height : Nat) : Except FrameError Size :=
  if h : (0 < width ∧ 0 < height) ∧ width ≤ maxSide ∧ height ≤ maxSide then
    .ok ⟨width, height, h.1.1, h.1.2, h.2.1, h.2.2⟩
  else
    .error (.invalidDimensions width height)

/-- How many cells there are. -/
def area (s : Size) : Nat :=
  s.height * s.width

theorem index_lt (s : Size) (x y : Nat) : y % s.height * s.width + x % s.width < s.area := by
  have hx := Nat.mod_lt x s.width_pos
  have hy := Nat.mod_lt y s.height_pos
  calc y % s.height * s.width + x % s.width
      < y % s.height * s.width + s.width := by omega
    _ = (y % s.height + 1) * s.width := by rw [Nat.succ_mul]
    _ ≤ s.height * s.width := Nat.mul_le_mul_right _ hy

/-- The number of the cell at two coordinates, both wrapped around. -/
def index (s : Size) (x y : Nat) : Fin s.area :=
  ⟨y % s.height * s.width + x % s.width, s.index_lt x y⟩

/-- The column of a cell. -/
def column (s : Size) (i : Fin s.area) : Nat :=
  i.val % s.width

/-- The row of a cell. -/
def row (s : Size) (i : Fin s.area) : Nat :=
  i.val / s.width

theorem column_lt (s : Size) (i : Fin s.area) : s.column i < s.width :=
  Nat.mod_lt _ s.width_pos

theorem row_lt (s : Size) (i : Fin s.area) : s.row i < s.height :=
  Nat.div_lt_of_lt_mul (by rw [Nat.mul_comm]; exact i.isLt)

/-- A cell lies where its column and its row say. -/
theorem index_column_row (s : Size) (i : Fin s.area) : s.index (s.column i) (s.row i) = i := by
  apply Fin.ext
  show s.row i % s.height * s.width + s.column i % s.width = i.val
  rw [Nat.mod_eq_of_lt (s.row_lt i), Nat.mod_eq_of_lt (s.column_lt i), Nat.mul_comm]
  exact Nat.div_add_mod i.val s.width

/-- The column that coordinates fall on. -/
theorem column_index (s : Size) (x y : Nat) : s.column (s.index x y) = x % s.width := by
  simp only [column, index, Nat.mul_comm, Nat.mul_add_mod, Nat.mod_mod]

/-- The row that coordinates fall on. -/
theorem row_index (s : Size) (x y : Nat) : s.row (s.index x y) = y % s.height := by
  simp only [row, index]
  rw [Nat.mul_comm, Nat.mul_add_div s.width_pos, Nat.div_eq_of_lt (Nat.mod_lt x s.width_pos),
    Nat.add_zero]

/-- Within one lap of both sides cells are numbered row by row. -/
theorem index_of_lt (s : Size) {x y : Nat} (hx : x < s.width) (hy : y < s.height) :
    (s.index x y).val = y * s.width + x := by
  simp only [index, Nat.mod_eq_of_lt hx, Nat.mod_eq_of_lt hy]

/-- The size with its sides exchanged. -/
def transposed (s : Size) : Size :=
  ⟨s.height, s.width, s.height_pos, s.width_pos, s.height_le, s.width_le⟩

end Size

end Lifecast
