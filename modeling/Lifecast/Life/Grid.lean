/-
Conway's game of life on a torus.

Coordinates of any size name a cell, since both wrap around.  A cell looks at the
cells one step away in each direction; a step back is written as a step of one less
than the side, so that coordinates never fall below zero.

The eight steps are kept apart even where the torus is so small that several of them
reach the same cell, which is then counted once for each.  Only steps that do not move
at all are left out, and on a side of one that is also the step back.
-/
import Lifecast.Life.Size

namespace Lifecast

/-- One generation of the game. -/
structure Grid where
  /-- The size of the torus. -/
  size : Size
  /-- The cells, row by row, true where alive. -/
  cells : Vector Bool size.area
  /-- How many steps led here. -/
  generation : Nat
deriving DecidableEq, Repr

namespace Grid

/-- The grid on which no cell is alive. -/
def dead (size : Size) : Grid :=
  { size, cells := Vector.replicate size.area false, generation := 0 }

/-- A dead grid with these sides, if they are in range. -/
def ofSides (width height : Nat) : Except FrameError Grid :=
  (Size.ofSides width height).map dead

/-- Is the cell at these coordinates alive? -/
def isAlive (g : Grid) (x y : Nat) : Bool :=
  g.cells[g.size.index x y]

/-- Bring the cell at these coordinates to life, or let it die. -/
def set (g : Grid) (x y : Nat) (alive : Bool) : Grid :=
  { g with cells := g.cells.set (g.size.index x y).val alive (g.size.index x y).isLt }

/-- How many cells are alive. -/
def aliveCount (g : Grid) : Nat :=
  g.cells.count true

/-! ### The rule -/

/-- The ways to move by at most one along a side: back, not at all, forward. -/
def moves (side : Nat) : List Nat :=
  [side - 1, 0, 1]

/-- The steps from a cell to its neighbours, as columns and rows to move by. -/
def steps (size : Size) : List (Nat × Nat) :=
  ((moves size.height).flatMap fun dy => (moves size.width).map fun dx => (dx, dy)).filter
    fun step => !(step.1 == 0 && step.2 == 0)

/-- How many of the neighbours that these steps reach are alive. -/
def aliveAmong (g : Grid) (steps : List (Nat × Nat)) (x y : Nat) : Nat :=
  steps.countP fun step => g.isAlive (x + step.1) (y + step.2)

/-- How many neighbours of a cell are alive. -/
def liveNeighbours (g : Grid) (x y : Nat) : Nat :=
  g.aliveAmong (steps g.size) x y

/-- Does a cell live in the next generation?  It is born from three neighbours and
survives on two or three. -/
def lives : (alive : Bool) → (neighbours : Nat) → Bool
  | true, 2 => true
  | true, 3 => true
  | false, 3 => true
  | _, _ => false

/-- The next generation. -/
def step (g : Grid) : Grid :=
  let around := steps g.size
  { g with
    cells := Vector.ofFn fun i =>
      let x := g.size.column i
      let y := g.size.row i
      lives (g.isAlive x y) (g.aliveAmong around x y)
    generation := g.generation + 1 }

/-- The generation `n` steps later. -/
def stepMany (g : Grid) : Nat → Grid
  | 0 => g
  | n + 1 => g.step.stepMany n

@[simp] theorem size_step (g : Grid) : g.step.size = g.size := rfl

@[simp] theorem size_set (g : Grid) (x y : Nat) (alive : Bool) :
    (g.set x y alive).size = g.size := rfl

/-- Coordinates count only up to wrapping. -/
theorem isAlive_mod (g : Grid) (x y : Nat) :
    g.isAlive (x % g.size.width) (y % g.size.height) = g.isAlive x y := by
  simp only [isAlive, Size.index, Nat.mod_mod]

/-- A cell of the next generation lives if the rule says so. -/
theorem isAlive_step (g : Grid) (x y : Nat) :
    g.step.isAlive x y
      = lives (g.isAlive x y) (g.liveNeighbours (x % g.size.width) (y % g.size.height)) := by
  rw [← g.isAlive_mod x y, ← g.size.column_index x y, ← g.size.row_index x y]
  show (Vector.ofFn fun i => lives (g.isAlive (g.size.column i) (g.size.row i))
    (g.liveNeighbours (g.size.column i) (g.size.row i)))[g.size.index x y] = _
  simp

end Grid

end Lifecast
