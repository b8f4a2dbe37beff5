/-
Phases of a lifecycle.

Clients, servers and sessions each go through four phases, numbered in order.  The
phase is kept where several threads see it, so it changes only by the three single
steps at the end of this file; `exchange` is the one that lets at most one of several
rivals through.
-/

namespace Lifecast

/-- A kind of lifecycle, whose phases have numbers and names. -/
class Lifecycle (α : Type) where
  /-- The name of the kind. -/
  kindName : String
  /-- The phases, by number. -/
  phases : List α
  /-- The number of a phase. -/
  number : α → Nat
  /-- The name of a phase. -/
  name : α → String

/-- Where a client stands. -/
inductive ConnectionState where
  | disconnected
  | connecting
  | connected
  | closing
deriving DecidableEq, Repr

/-- Where a server stands. -/
inductive ServerState where
  | stopped
  | starting
  | running
  | stopping
deriving DecidableEq, Repr

/-- Where a session stands.  It only ever moves forward. -/
inductive SessionState where
  | accepting
  | opened
  | closing
  | closed
deriving DecidableEq, Repr

instance : Lifecycle ConnectionState where
  kindName := "ConnectionState"
  phases := [.disconnected, .connecting, .connected, .closing]
  number
    | .disconnected => 0
    | .connecting => 1
    | .connected => 2
    | .closing => 3
  name
    | .disconnected => "Disconnected"
    | .connecting => "Connecting"
    | .connected => "Connected"
    | .closing => "Closing"

instance : Lifecycle ServerState where
  kindName := "ServerState"
  phases := [.stopped, .starting, .running, .stopping]
  number
    | .stopped => 0
    | .starting => 1
    | .running => 2
    | .stopping => 3
  name
    | .stopped => "Stopped"
    | .starting => "Starting"
    | .running => "Running"
    | .stopping => "Stopping"

instance : Lifecycle SessionState where
  kindName := "SessionState"
  phases := [.accepting, .opened, .closing, .closed]
  number
    | .accepting => 0
    | .opened => 1
    | .closing => 2
    | .closed => 3
  name
    | .accepting => "Accepting"
    | .opened => "Open"
    | .closing => "Closing"
    | .closed => "Closed"

/-- The phase with a number, or else the words that no phase has it. -/
def Lifecycle.ofNumber {α : Type} [Lifecycle α] (n : Nat) : Except String α :=
  match (phases : List α)[n]? with
  | some phase => .ok phase
  | none => .error s!"invalid {kindName α} {n}"

namespace Phase

variable {α : Type} [DecidableEq α]

/-- Move from one phase to another.  Nothing happens, and the answer is no, unless the
present phase is the first one. -/
def exchange (source target present : α) : Bool × α :=
  if present = source then (true, target) else (false, present)

/-- Move to a phase and report the one before. -/
def swap (target present : α) : α × α :=
  (present, target)

/-- A phase as it is shown in a report. -/
def report [Lifecycle α] (present : α) : String :=
  s!"AtomicState({Lifecycle.name present})"

end Phase

end Lifecast
