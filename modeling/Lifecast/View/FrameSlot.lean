/-
The newest frame, on its way from the receiver to the screen.

Two threads share the slot: one stores frames as they arrive, the other takes the
newest when it is time to draw.  The frame and the flag that says it is fresh are
separate cells without a common lock.  A store writes the frame first and raises the
flag second; a take lowers the flag first and reads the frame second.  So a flag found
raised always has a frame behind it, and no frame is lost between the two.
-/
import Lifecast.Bytes

namespace Lifecast

/-- The slot that both threads see. -/
structure FrameSlot where
  /-- The frame stored last. -/
  latest : Option Bytes := none
  /-- Has a frame been stored since the last take? -/
  fresh : Bool := false
  /-- Is the client connected? -/
  connected : Bool := false
deriving DecidableEq, Repr

namespace FrameSlot

/-! ### Single steps -/

/-- First step of a store: replace the frame. -/
def write (s : FrameSlot) (frame : Bytes) : FrameSlot :=
  { s with latest := some frame }

/-- Second step of a store: raise the flag. -/
def raise (s : FrameSlot) : FrameSlot :=
  { s with fresh := true }

/-- First step of a take: lower the flag and report whether it was raised. -/
def lower (s : FrameSlot) : Bool × FrameSlot :=
  (s.fresh, { s with fresh := false })

/-! ### Whole calls -/

/-- Store a frame; one that was not taken yet is dropped. -/
def store (s : FrameSlot) (frame : Bytes) : FrameSlot :=
  (s.write frame).raise

/-- Take the newest frame, if one was stored since the last take.  The frame stays
in the slot. -/
def takeFresh (s : FrameSlot) : Option Bytes × FrameSlot :=
  let (wasFresh, s) := s.lower
  (if wasFresh then s.latest else none, s)

/-- Has any frame been stored yet? -/
def hasFrame (s : FrameSlot) : Bool :=
  s.latest.isSome

/-- Record whether the client is connected. -/
def setConnected (s : FrameSlot) (connected : Bool) : FrameSlot :=
  { s with connected }

end FrameSlot

end Lifecast
