/-
A grid as it is stored: two words, an array, and a count.

The type of `Grid` keeps the sides in range, the cells as many as there are places and
every index in bounds.  Nothing of that is in the type here.  The sides and the
coordinates are words of 64 bits, so a sum may overflow and a side may be zero; the cells
are an array of any length, so an index may lie behind its end.  Wherever one of these
things happens the work stops with a `Fault`.

`Grid.stored` is the form in which a grid is stored.
-/
import Lifecast.Life.Change

namespace Lifecast

/-- A grid in words and an array. -/
structure StoredGrid where
  width : UInt64
  height : UInt64
  /-- The cells, row by row, true where alive. -/
  cells : Array Bool
  /-- How many steps led here, counted from zero again after the last word. -/
  generation : UInt64
deriving DecidableEq, Repr

namespace StoredGrid

/-- What stops the work on a stored grid. -/
inductive Fault where
  /-- A result is no word of 64 bits. -/
  | overflow
  /-- A remainder is to be taken by zero. -/
  | divisionByZero
  /-- There is no cell of that number. -/
  | outOfBounds
  /-- A chance is no number. -/
  | notANumber
deriving DecidableEq, Repr

/-! ### Words -/

/-- A sum. -/
def plus (a b : UInt64) : Except Fault UInt64 :=
  if a.toNat + b.toNat < UInt64.size then .ok (a + b) else .error .overflow

/-- A difference. -/
def minus (a b : UInt64) : Except Fault UInt64 :=
  if b.toNat ≤ a.toNat then .ok (a - b) else .error .overflow

/-- A product. -/
def times (a b : UInt64) : Except Fault UInt64 :=
  if a.toNat * b.toNat < UInt64.size then .ok (a * b) else .error .overflow

/-- A remainder. -/
def remainder (a b : UInt64) : Except Fault UInt64 :=
  if b = 0 then .error .divisionByZero else .ok (a % b)

/-! ### Cells -/

/-- The cell of a number. -/
def read (cells : Array Bool) (i : UInt64) : Except Fault Bool :=
  if h : i.toNat < cells.size then .ok cells[i.toNat] else .error .outOfBounds

/-- The cells with the one of a number replaced. -/
def write (cells : Array Bool) (i : UInt64) (alive : Bool) : Except Fault (Array Bool) :=
  if h : i.toNat < cells.size then .ok (cells.set i.toNat alive) else .error .outOfBounds

/-- A grid without a live cell, if the sides are in range. -/
def new (width height : UInt64) : Except Fault (Except FrameError StoredGrid) :=
  if width.toNat = 0 ∨ height.toNat = 0 ∨ maxSide < width.toNat ∨ maxSide < height.toNat then
    .ok (.error (.invalidDimensions width.toNat height.toNat))
  else do
    let area ← times width height
    return .ok { width, height, cells := Array.replicate area.toNat false, generation := 0 }

/-- The number of the cell at two coordinates, both wrapped around. -/
def index (s : StoredGrid) (x y : UInt64) : Except Fault UInt64 := do
  let row ← remainder y s.height
  let before ← times row s.width
  let column ← remainder x s.width
  plus before column

/-- Is the cell at these coordinates alive? -/
def isAlive (s : StoredGrid) (x y : UInt64) : Except Fault Bool := do
  read s.cells (← s.index x y)

/-- Bring the cell at these coordinates to life, or let it die. -/
def set (s : StoredGrid) (x y : UInt64) (alive : Bool) : Except Fault StoredGrid := do
  let i ← s.index x y
  let cells ← write s.cells i alive
  return { s with cells }

/-- How many cells are alive. -/
def aliveCount (s : StoredGrid) : Nat :=
  s.cells.count true

/-! ### The rule -/

/-- The ways to move by at most one along a side: back, not at all, forward. -/
def moves (side : UInt64) : Except Fault (List UInt64) := do
  let back ← minus side 1
  return [back, 0, 1]

/-- The steps from a cell to its neighbours, as columns and rows to move by. -/
def steps (s : StoredGrid) : Except Fault (List (UInt64 × UInt64)) := do
  let rows ← moves s.height
  let columns ← moves s.width
  return (rows.flatMap fun dy => columns.map fun dx => (dx, dy)).filter
    fun step => !(step.1 == 0 && step.2 == 0)

/-- Count the neighbour that a step from a cell leads to, if it is alive. -/
def countNeighbour (s : StoredGrid) (x y : UInt64) (count : UInt64) (step : UInt64 × UInt64) :
    Except Fault UInt64 := do
  let column ← plus x step.1
  let row ← plus y step.2
  if ← s.isAlive column row then plus count 1 else return count

/-- How many neighbours of a cell are alive. -/
def liveNeighbours (s : StoredGrid) (x y : UInt64) : Except Fault UInt64 := do
  let steps ← s.steps
  steps.foldlM (s.countNeighbour x y) 0

/-- Fill in what becomes of the cell of a row and a column. -/
def advance (s : StoredGrid) (y : Nat) (next : Array Bool) (x : Nat) :
    Except Fault (Array Bool) := do
  let column := UInt64.ofNat x
  let row := UInt64.ofNat y
  let neighbours ← s.liveNeighbours column row
  let alive ← s.isAlive column row
  let before ← times row s.width
  let i ← plus before column
  write next i (Grid.lives alive neighbours.toNat)

/-- Fill in what becomes of the cells of a row, column after column. -/
def advanceRow (s : StoredGrid) (next : Array Bool) (y : Nat) : Except Fault (Array Bool) :=
  (List.range s.width.toNat).foldlM (s.advance y) next

/-- The next generation, filled in row after row. -/
def step (s : StoredGrid) : Except Fault StoredGrid := do
  let cells ← (List.range s.height.toNat).foldlM s.advanceRow (Array.replicate s.cells.size false)
  return { s with cells, generation := s.generation + 1 }

/-! ### Drawing -/

variable {σ : Type} [WordSource σ]

/-- Draw cell after cell, up to one that cannot be drawn: what stopped the work, if anything
did, the cells as they then are, and the source. -/
def drawCells (ratio : Binary64) : List Bool → σ → Option Fault × List Bool × σ
  | [], source => (none, [], source)
  | cell :: rest, source =>
    match Chance.ofRatio? ratio with
    | none => (some .notANumber, cell :: rest, source)
    | some chance =>
      let (alive, source) := chance.draw source
      let (fault, rest, source) := drawCells ratio rest source
      (fault, alive :: rest, source)

/-- Draw all cells with a fill ratio. -/
def randomize (s : StoredGrid) (ratio : Binary64) (source : σ) : Option Fault × StoredGrid × σ :=
  let (fault, cells, source) := drawCells ratio s.cells.toList source
  (fault, { s with cells := cells.toArray }, source)

/-! ### Changes -/

/-- What is left of a grid: another one, or the same one and what stopped the work on it. -/
def orSame (s : StoredGrid) : Except Fault StoredGrid → Option Fault × StoredGrid
  | .ok s' => (none, s')
  | .error fault => (some fault, s)

/-- A change: what stopped the work, if anything did, and the grid as it then is. -/
def perform (s : StoredGrid) : Grid.Change → Option Fault × StoredGrid
  | .set x y alive => s.orSame (s.set x y alive)
  | .randomize ratio words =>
    let (fault, s, _) := s.randomize ratio words
    (fault, s)
  | .step => s.orSame s.step

/-- The grid after some changes, one after the other, whether or not work on one was stopped. -/
def performAll (s : StoredGrid) (changes : List Grid.Change) : StoredGrid :=
  changes.foldl (fun s change => (s.perform change).2) s

end StoredGrid

/-- A grid in words and an array. -/
def Grid.stored (g : Grid) : StoredGrid where
  width := UInt64.ofNat g.size.width
  height := UInt64.ofNat g.size.height
  cells := g.cells.toArray
  generation := UInt64.ofNat g.generation

end Lifecast
