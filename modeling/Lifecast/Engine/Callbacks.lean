/-
Callbacks of a client.

A client has three slots, each of which holds at most one callback.  A callback is
taken out of its slot before it runs, so it may fill any slot anew, its own included,
and the change counts from the next call on.
-/
import Lifecast.Bytes

namespace Lifecast

/-- When a callback is called. -/
inductive Slot where
  /-- A connection has been made. -/
  | connected
  /-- A connection has ended. -/
  | disconnected
  /-- A frame has arrived. -/
  | data
deriving DecidableEq, Repr

/-- The slots of a client, for callbacks of some kind. -/
structure Callbacks (κ : Type) where
  connected : Option κ := none
  disconnected : Option κ := none
  data : Option κ := none
deriving DecidableEq, Repr

namespace Callbacks

variable {κ : Type}

/-- The callback in a slot. -/
def get (c : Callbacks κ) : Slot → Option κ
  | .connected => c.connected
  | .disconnected => c.disconnected
  | .data => c.data

/-- Fill a slot, in place of what it held. -/
def set (c : Callbacks κ) (slot : Slot) (callback : κ) : Callbacks κ :=
  match slot with
  | .connected => { c with connected := some callback }
  | .disconnected => { c with disconnected := some callback }
  | .data => { c with data := some callback }

end Callbacks

/-- A callback that logs a label and then, if it is told to, fills a slot. -/
inductive LoggingCallback where
  | mk (label : String) (andThen : Option (Slot × LoggingCallback))

namespace LoggingCallback

/-- What the callback logs: its label and, in the data slot, the frame it was given. -/
structure Entry where
  label : String
  frame : Option Bytes
deriving DecidableEq, Repr

/-- Call what a slot holds.  An empty slot does nothing. -/
def fire (c : Callbacks LoggingCallback) (slot : Slot) (frame : Bytes) :
    List Entry × Callbacks LoggingCallback :=
  match c.get slot with
  | none => ([], c)
  | some (mk label andThen) =>
    let entry := { label, frame := if slot = .data then some frame else none }
    match andThen with
    | none => ([entry], c)
    | some (target, callback) => ([entry], c.set target callback)

end LoggingCallback

end Lifecast
