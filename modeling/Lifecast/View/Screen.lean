/-
The screen of a consumer.

Every drawing starts with a control sequence that moves the cursor home and clears the
terminal.  A picture is drawn row by row, each cell some columns wide, with a line
below that gives its size and how many cells are alive; a status is one line of text.
-/
import Lifecast.Life.Picture
import Lifecast.View.Writer

namespace Lifecast

/-- A screen on a writer. -/
structure Screen where
  /-- How many columns a cell takes. -/
  cellWidth : Nat
  /-- Where the text goes. -/
  writer : Writer
deriving DecidableEq, Repr

/-- What a drawing came to. -/
structure Drawing where
  /-- The screen afterwards. -/
  screen : Screen
  /-- The bytes that the writer took. -/
  written : Bytes
  /-- Why it did not take all of them. -/
  fault : Option WriteFault
deriving DecidableEq, Repr

namespace Screen

/-- Shows that a cell is alive. -/
def block : Char := '█'

/-- The most bytes that one text can have. -/
def maxTextSize : Nat := 0x7fffffffffffffff

/-- A screen with cells of some width, at least one column. -/
def new (writer : Writer) (cellWidth : Nat) : Screen :=
  { cellWidth := max cellWidth 1, writer }

/-- A screen with cells of some width, if the blocks of one cell make a text. -/
def new? (writer : Writer) (cellWidth : Nat) : Option Screen :=
  let screen := new writer cellWidth
  if screen.cellWidth * block.utf8Size ≤ maxTextSize then some screen else none

/-- Moves the cursor home and clears the terminal. -/
def clear : List Char := ['\x1b', '[', 'H', '\x1b', '[', '2', 'J']

/-- The columns of one cell: blocks if it is alive, else spaces. -/
def glyphs (cellWidth : Nat) (alive : Bool) : List Char :=
  List.replicate cellWidth (if alive then block else ' ')

/-- One row of a picture, as it is drawn. -/
def drawnRow (cellWidth : Nat) (p : Picture) (y : Nat) : List Char :=
  ((List.range p.size.width).flatMap fun x => glyphs cellWidth (p.isAlive x y)) ++ ['\n']

/-- The line below a picture. -/
def caption (p : Picture) : String :=
  s!"{p.size.width}x{p.size.height}  alive: {p.aliveCount}\n"

/-- The text of a picture. -/
def gridText (cellWidth : Nat) (p : Picture) : String :=
  String.ofList
    (clear ++ (List.range p.size.height).flatMap (drawnRow cellWidth p) ++ (caption p).toList)

/-- The text of a status line, in the pieces in which it is written. -/
def statusPieces (message : String) : List String :=
  [String.ofList clear, message, "\n"]

/-- Write pieces of text to the screen. -/
def draw (s : Screen) (pieces : List String) : Drawing :=
  let result := s.writer.writePieces (pieces.map Text.encode)
  { screen := { s with writer := result.writer }
    written := result.bytes
    fault := result.fault }

/-- Leave the screen as it is. -/
def drawNothing (s : Screen) : Drawing :=
  { screen := s, written := [], fault := none }

/-- Draw a picture. -/
def drawGrid (s : Screen) (p : Picture) : Drawing :=
  s.draw [gridText s.cellWidth p]

/-- Draw a status line. -/
def drawStatus (s : Screen) (message : String) : Drawing :=
  s.draw (statusPieces message)

end Screen

/-- One call that draws. -/
inductive DrawCall where
  /-- Draw a picture. -/
  | grid (p : Picture)
  /-- Draw a status line. -/
  | status (message : String)
deriving DecidableEq, Repr

namespace Screen

/-- Draw what a call asks for. -/
def perform (s : Screen) : DrawCall → Drawing
  | .grid p => s.drawGrid p
  | .status message => s.drawStatus message

/-- Make calls one after the other on one screen, also behind one that failed. -/
def performAll (s : Screen) : List DrawCall → List Drawing
  | [] => []
  | call :: rest =>
    let drawing := s.perform call
    drawing :: drawing.screen.performAll rest

end Screen

end Lifecast
