/-
Patterns on a torus.

A pattern can be moved about, reflected or turned over its diagonal; a torus has no
edge that would keep it from it.  `glider` is the small pattern that moves about by
itself.
-/
import Lifecast.Life.Plane

namespace Lifecast

namespace Grid

/-- The grid whose cells are given by their columns and rows. -/
def ofFn (size : Size) (alive : Nat → Nat → Bool) : Grid where
  size := size
  cells := Vector.ofFn fun i => alive (size.column i) (size.row i)
  generation := 0

/-- The pattern moved by some columns and rows. -/
def shifted (g : Grid) (dx dy : Int) : Grid :=
  { ofFn g.size fun x y => g.plane (x - dx) (y - dy) with generation := g.generation }

/-- The pattern reflected from left to right. -/
def reflected (g : Grid) : Grid :=
  { ofFn g.size fun x y => g.plane (g.size.width - 1 - x) y with generation := g.generation }

/-- The pattern reflected from top to bottom. -/
def flipped (g : Grid) : Grid :=
  { ofFn g.size fun x y => g.plane x (g.size.height - 1 - y) with generation := g.generation }

/-- The pattern turned over its diagonal. -/
def transposed (g : Grid) : Grid :=
  { ofFn g.size.transposed fun x y => g.isAlive y x with generation := g.generation }

@[simp] theorem size_shifted (g : Grid) (dx dy : Int) : (g.shifted dx dy).size = g.size := rfl

@[simp] theorem size_reflected (g : Grid) : g.reflected.size = g.size := rfl

@[simp] theorem size_flipped (g : Grid) : g.flipped.size = g.size := rfl

@[simp] theorem size_transposed (g : Grid) : g.transposed.size = g.size.transposed := rfl

/-- Bring several cells to life. -/
def setAll (g : Grid) (cells : List (Nat × Nat)) : Grid :=
  cells.foldl (fun g cell => g.set cell.1 cell.2 true) g

/-- The cells of a glider whose upper left corner is at these coordinates. -/
def gliderCells (x y : Nat) : List (Nat × Nat) :=
  [(x + 1, y), (x + 2, y + 1), (x, y + 2), (x + 1, y + 2), (x + 2, y + 2)]

/-- A torus on which nothing but a glider lives. -/
def glider (size : Size) (x y : Nat) : Grid :=
  (dead size).setAll (gliderCells x y)

end Grid

end Lifecast
