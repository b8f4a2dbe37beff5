/-
How a generation is written down.

A payload is a header, which gives width and height as three digits each with an `x`
between them, and one byte for each cell, row by row.  The sides have at most three
digits, so the header always has seven bytes.  A frame is a payload and a line feed.
-/
import Lifecast.Framing
import Lifecast.Life.Grid

namespace Lifecast

/-- The byte of a live cell: `#`. -/
def aliveByte : UInt8 := 35

/-- The byte of a dead cell: a space. -/
def deadByte : UInt8 := 32

/-- The byte between the two sides: `x`. -/
def timesByte : UInt8 := 120

/-- The byte of a cell. -/
def cellByte (alive : Bool) : UInt8 :=
  if alive then aliveByte else deadByte

/-- The byte of a digit. -/
def digitByte (n : Nat) : UInt8 :=
  UInt8.ofNat (48 + n % 10)

/-- A number below a thousand as three digits. -/
def threeDigits (n : Nat) : Bytes :=
  [digitByte (n / 100), digitByte (n / 10), digitByte n]

/-- The header of a payload. -/
def Size.header (s : Size) : Bytes :=
  threeDigits s.width ++ timesByte :: threeDigits s.height

namespace Grid

/-- The generation as a payload. -/
def payload (g : Grid) : Bytes :=
  g.size.header ++ g.cells.toList.map cellByte

/-- The generation as a frame. -/
def frame (g : Grid) : Bytes :=
  encodeFrame g.payload defaultDelimiter

end Grid

/-- Seven bytes of header and one for each cell. -/
theorem Grid.length_payload (g : Grid) : g.payload.length = 7 + g.size.area := by
  simp [payload, Size.header, threeDigits]
  omega

end Lifecast
