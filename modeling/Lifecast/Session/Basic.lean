/-
One session of a server.

A session is what the server keeps of one connection.  Several threads act on it at
once, and each of the functions below is one step that no other thread can interrupt.
Whole calls are put together from these steps in `Lifecast.Session.Hub`.

The backlog is a machine word that is counted up before a message is queued and down
after one has been taken out, so like any machine word it wraps around.
-/
import Lifecast.Engine.Phase
import Lifecast.Net.Address

namespace Lifecast

/-- One session. -/
structure Session where
  /-- Its number, under which it is registered. -/
  id : Nat
  /-- The other end of its connection. -/
  remote : SocketAddress
  /-- The run of the server that accepted it. -/
  run : Nat
  /-- Where it stands. -/
  state : SessionState := .accepting
  /-- Has closing begun?  Never goes back. -/
  latched : Bool := false
  /-- Has it been cancelled on its own?  Never goes back. -/
  cancelled : Bool := false
  /-- The backlog: messages accepted and not yet written. -/
  pending : UInt64 := 0
  /-- The messages in its queue, oldest first. -/
  queue : Array String := #[]
  /-- Does the receiving end of the queue still exist? -/
  receiving : Bool := true
deriving DecidableEq, Repr

namespace Session

/-- Count a message up. -/
def countUp (s : Session) : Session :=
  { s with pending := s.pending + 1 }

/-- Count a message down. -/
def countDown (s : Session) : Session :=
  { s with pending := s.pending - 1 }

/-- Put a message into the queue.  Refused once the receiving end is gone. -/
def enqueue (s : Session) (message : String) : Bool × Session :=
  if s.receiving then (true, { s with queue := s.queue.push message }) else (false, s)

/-- Take messages out of the queue, oldest first, at most as many as given. -/
def dequeue (s : Session) (most : Nat) : List String × Session :=
  ((s.queue.extract 0 most).toList, { s with queue := s.queue.extract most s.queue.size })

/-- Give up the receiving end, and with it what waits in the queue. -/
def dropQueue (s : Session) : Session :=
  { s with queue := #[], receiving := false }

/-- Begin to close.  The answer is whether closing had begun before. -/
def latch (s : Session) : Bool × Session :=
  (s.latched, { s with latched := true })

/-- Move from accepting to open; no if the session is not accepting. -/
def openUp (s : Session) : Bool × Session :=
  let (moved, state) := Phase.exchange .accepting .opened s.state
  (moved, { s with state })

/-- Move from one phase to closing; no if the session is not in that phase. -/
def closeFrom (s : Session) (source : SessionState) : Bool × Session :=
  let (moved, state) := Phase.exchange source .closing s.state
  (moved, { s with state })

/-- Leave the phases in which messages flow: first tried from accepting, then from
open. -/
def leaveOpen (s : Session) : Session :=
  match s.closeFrom .accepting with
  | (true, s) => s
  | (false, s) => (s.closeFrom .opened).2

/-- Cancel the session. -/
def cancel (s : Session) : Session :=
  { s with cancelled := true }

/-- The end of the session: closed, and nothing waits. -/
def finish (s : Session) : Session :=
  { s with state := .closed, pending := 0 }

@[simp] theorem id_leaveOpen (s : Session) : s.leaveOpen.id = s.id := by
  cases h : s.state <;> simp [leaveOpen, closeFrom, Phase.exchange, h]

end Session

end Lifecast
