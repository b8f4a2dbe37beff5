/-
A generation as it was received.

A picture is what a payload shows: its size and its cells, without the count of
steps.  Outside its edges nothing is alive; unlike a grid it does not wrap around.

`parse` names the first fault of a payload: its length, its header, its sides, the
number of its cells, and last the first cell that is neither alive nor dead.
-/
import Lifecast.Life.Payload
import Lifecast.Text.Utf8

namespace Lifecast

/-- One generation as received. -/
structure Picture where
  /-- Its size. -/
  size : Size
  /-- The cells, row by row, true where alive. -/
  cells : Vector Bool size.area
deriving DecidableEq, Repr

namespace Picture

/-- Is there a live cell at these coordinates? -/
def isAlive (p : Picture) (x y : Nat) : Bool :=
  decide (x < p.size.width) && decide (y < p.size.height) && p.cells[p.size.index x y]

/-- How many cells are alive. -/
def aliveCount (p : Picture) : Nat :=
  p.cells.count true

/-- One row of cells. -/
def row (p : Picture) (y : Nat) : List Bool :=
  (p.cells.extract (y * p.size.width) ((y + 1) * p.size.width)).toList

/-- The rows as lines of text, top first. -/
def rows (p : Picture) (alive dead : Char) : List String :=
  (List.range p.size.height).map fun y =>
    String.ofList ((p.row y).map fun cell => if cell then alive else dead)

/-- The picture of a generation. -/
def ofGrid (g : Grid) : Picture where
  size := g.size
  cells := Vector.ofFn fun i => g.isAlive (g.size.column i) (g.size.row i)

/-! ### Reading payloads -/

/-- The bytes without a line feed at the end, if there is one. -/
def withoutNewline (payload : Bytes) : Bytes :=
  if payload.getLast? = some defaultDelimiter then payload.dropLast else payload

/-- Is the byte a digit? -/
def isDigit (b : UInt8) : Bool :=
  48 ≤ b && b ≤ 57

/-- The number that three digits write. -/
def sideOf (a b c : UInt8) : Nat :=
  (a.toNat - 48) * 100 + (b.toNat - 48) * 10 + (c.toNat - 48)

/-- The size that a header announces. -/
def parseHeader (a b c x d e f : UInt8) : Except FrameError Size :=
  if x = timesByte ∧ [a, b, c, d, e, f].all isDigit then
    Size.ofSides (sideOf a b c) (sideOf d e f)
  else
    .error (.malformedHeader (Text.decode [a, b, c, x, d, e, f]))

/-- The first byte, counted from `index`, that is no cell. -/
def badCell? (index : Nat) : Bytes → Option FrameError
  | [] => none
  | b :: rest =>
    if b = aliveByte ∨ b = deadByte then badCell? (index + 1) rest
    else some (.invalidCell index b)

/-- The picture that the bytes behind a header show. -/
def parseBody (size : Size) (body : Bytes) : Except FrameError Picture :=
  if h : body.length = size.area then
    match badCell? 0 body with
    | some fault => .error fault
    | none => .ok ⟨size, ⟨(body.map (· == aliveByte)).toArray, by simpa using h⟩⟩
  else
    .error (.bodyLength size.area body.length)

/-- The picture that a payload shows.  One line feed at its end is allowed. -/
def parse (payload : Bytes) : Except FrameError Picture :=
  match withoutNewline payload with
  | a :: b :: c :: x :: d :: e :: f :: body => do
    let size ← parseHeader a b c x d e f
    parseBody size body
  | short => .error (.tooShort short.length)

end Picture

end Lifecast
