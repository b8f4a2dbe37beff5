/-
The game on an endless plane.

A cell of the plane has eight different neighbours, and the rule is the one that
everybody knows: a cell lives next if three of them live, or if it lives and two do.

A torus, laid out over and over, covers the plane (`Grid.plane`).
-/
import Lifecast.Life.Grid

namespace Lifecast

/-- One generation on the plane: which cells are alive. -/
abbrev Plane : Type := Int → Int → Bool

namespace Plane

/-- The ways from a cell to its neighbours. -/
def around : List (Int × Int) :=
  [(-1, -1), (0, -1), (1, -1), (-1, 0), (1, 0), (-1, 1), (0, 1), (1, 1)]

/-- How many neighbours of a cell are alive. -/
def liveNeighbours (p : Plane) (i j : Int) : Nat :=
  around.countP fun way => p (i + way.1) (j + way.2)

/-- The next generation. -/
def step (p : Plane) : Plane := fun i j =>
  p.liveNeighbours i j == 3 || (p i j && p.liveNeighbours i j == 2)

/-- The generation `n` steps later. -/
def stepMany (p : Plane) : Nat → Plane
  | 0 => p
  | n + 1 => stepMany p.step n

end Plane

/-- The plane that a torus covers. -/
def Grid.plane (g : Grid) : Plane := fun i j =>
  g.isAlive (i % g.size.width).toNat (j % g.size.height).toNat

end Lifecast
