/-
A frame slot between two threads.

One thread stores frames, the other takes them, and each does so in two steps that the
other may come between: a store writes the frame and then raises the flag, a take
lowers the flag and, if it was raised, reads the frame.

Besides the slot the state remembers what was written and what the takes answered.
Stores are numbered from one; `Take.overlaps` says which of them a take ran beside.
-/
import Lifecast.Interleaving.Basic
import Lifecast.View.FrameSlot

namespace Lifecast

namespace Interleaving

/-- A take that has ended. -/
structure Take where
  /-- Did it find the flag raised? -/
  found : Bool
  /-- What it answered. -/
  answer : Option Bytes
  /-- How many stores had ended when it began. -/
  before : Nat
  /-- How many stores had written their frame when it ended. -/
  upTo : Nat
deriving DecidableEq, Repr

/-- Did the take run beside the store with some number? -/
def Take.overlaps (t : Take) (store : Nat) : Bool :=
  t.before < store && store ≤ t.upTo

/-- A slot and the two threads that share it. -/
structure SharedSlot where
  /-- The slot. -/
  slot : FrameSlot := {}
  /-- Has a store written its frame and not yet raised the flag? -/
  storing : Bool := false
  /-- Has a take found the flag raised and not yet read the frame?  If so, how many
  stores had ended when it began. -/
  taking : Option Nat := none
  /-- The frames written, oldest first. -/
  written : List Bytes := []
  /-- The takes that have ended, oldest first. -/
  takes : List Take := []
deriving DecidableEq, Repr

/-- A step of one of the threads. -/
inductive SlotMove where
  /-- A store begins and writes its frame. -/
  | write (frame : Bytes)
  /-- It raises the flag and ends. -/
  | raise
  /-- A take begins and lowers the flag.  If that was not raised it ends. -/
  | lower
  /-- It reads the frame and ends. -/
  | read
deriving DecidableEq, Repr

namespace SharedSlot

/-- How many stores have ended. -/
def ended (s : SharedSlot) : Nat :=
  if s.storing then s.written.length - 1 else s.written.length

/-- Make a move. -/
def move? (s : SharedSlot) : SlotMove → Option SharedSlot
  | .write frame =>
    if s.storing then none
    else some { s with
      slot := s.slot.write frame, storing := true, written := s.written ++ [frame] }
  | .raise =>
    if s.storing then some { s with slot := s.slot.raise, storing := false } else none
  | .lower =>
    if s.taking.isSome then none
    else match s.slot.lower with
      | (true, slot) => some { s with slot, taking := some s.ended }
      | (false, slot) =>
        let take := { found := false, answer := none, before := s.ended, upTo := s.written.length }
        some { s with slot, takes := s.takes ++ [take] }
  | .read =>
    match s.taking with
    | none => none
    | some before =>
      let take := { found := true, answer := s.slot.latest, before, upTo := s.written.length }
      some { s with taking := none, takes := s.takes ++ [take] }

/-- A store that nothing comes between does what `FrameSlot.store` does. -/
theorem play_store (s : SharedSlot) (frame : Bytes) (h : s.storing = false) :
    (play move? s [.write frame, .raise]).map (·.slot) = some (s.slot.store frame) := by
  simp [play, move?, h, FrameSlot.store]

/-- A take that nothing comes between answers what `FrameSlot.takeFresh` answers. -/
theorem play_take (s : SharedSlot) (h : s.taking = none) (raised : s.slot.fresh = true) :
    (play move? s [.lower, .read]).map (fun t => (t.takes.getLast?.bind (·.answer), t.slot))
      = some s.slot.takeFresh := by
  simp [play, move?, h, raised, FrameSlot.lower, FrameSlot.takeFresh]

end SharedSlot

end Interleaving

end Lifecast
