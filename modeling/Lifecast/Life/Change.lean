/-
What can be done to a grid.

A cell is set, all cells are drawn anew, or the next generation comes.  Coordinates come
as words of 64 bits, and each draw has words of its own to draw from.  A draw with a
ratio that is no number is no draw, and the grid stays as it is.
-/
import Lifecast.Life.Population

namespace Lifecast

namespace Grid

/-- One change of a grid. -/
inductive Change where
  /-- The cell at these coordinates is brought to life or let die. -/
  | set (x y : UInt64) (alive : Bool)
  /-- All cells are drawn with a fill ratio. -/
  | randomize (ratio : Binary64) (words : WordStream)
  /-- The next generation comes. -/
  | step

/-- The grid after a change. -/
def perform (g : Grid) : Change → Grid
  | .set x y alive => g.set x.toNat y.toNat alive
  | .randomize ratio words => ((g.randomize ratio words).map (·.1)).getD g
  | .step => g.step

/-- The grid after some changes, one after the other. -/
def performAll (g : Grid) (changes : List Change) : Grid :=
  changes.foldl perform g

end Grid

end Lifecast
