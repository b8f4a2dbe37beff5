/-
What can be wrong with a grid or with a payload that should hold one.
-/
import Lifecast.Text.Quoted

namespace Lifecast

/-- The longest side of a grid. -/
def maxSide : Nat := 999

/-- Why there is no grid. -/
inductive FrameError where
  /-- A side is zero or too long. -/
  | invalidDimensions (width height : Nat)
  /-- There are too few bytes for a header. -/
  | tooShort (length : Nat)
  /-- The header is not three digits, an `x` and three digits. -/
  | malformedHeader (header : String)
  /-- The number of cells is not the one that the header announces. -/
  | bodyLength (expected actual : Nat)
  /-- A byte is neither a live nor a dead cell. -/
  | invalidCell (index : Nat) (byte : UInt8)
deriving DecidableEq, Repr

namespace FrameError

/-- A byte as two hexadecimal digits. -/
def byteText (b : UInt8) : String :=
  String.ofList ((Nat.toDigits 16 (b.toNat / 16)) ++ (Nat.toDigits 16 (b.toNat % 16)))

/-- The error in words. -/
def message : FrameError → String
  | invalidDimensions width height =>
    s!"grid dimensions {width}x{height} out of range (1..={maxSide} per side)"
  | tooShort length => s!"frame too short for header: {length} bytes"
  | malformedHeader header => s!"malformed header: {Text.quoted header}"
  | bodyLength expected actual => s!"expected {expected} cells, got {actual}"
  | invalidCell index byte => s!"invalid cell byte 0x{byteText byte} at index {index}"

end FrameError

end Lifecast
