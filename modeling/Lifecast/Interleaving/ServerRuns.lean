/-
A server of sessions, over all its runs.

A run begins with a start and ends with a stop, which first cancels the run, then
empties the registry and then closes those who were in it, one by one.  Other threads
accept connections, register, close and remove sessions and broadcast while this goes
on, and may still do so for a run that is long over.

The registry keeps its members in no order.  Whoever goes through them does so in an order
of its own, which the move that looks them up names.
-/
import Lifecast.Interleaving.Basic
import Lifecast.Session.Hub

namespace Lifecast

namespace Interleaving

/-- Where a server stands between its starts and stops. -/
inductive Stage where
  /-- It does not run. -/
  | stopped
  /-- It runs. -/
  | running
  /-- It stops, and has cancelled its run. -/
  | cancelled
  /-- It stops, has emptied its registry, and has yet to close these sessions. -/
  | closing (rest : List Handle)
deriving DecidableEq, Repr

/-- A broadcast under way. -/
structure Broadcast where
  /-- What is sent. -/
  message : String
  /-- To whom it is still to be sent. -/
  rest : List Handle
deriving DecidableEq, Repr

/-- A server of sessions and the threads that act on it. -/
structure ServerRuns where
  /-- Its sessions. -/
  hub : Hub := {}
  /-- How many runs have begun.  They are numbered from zero. -/
  runs : Nat := 0
  /-- Where it stands in the last of them. -/
  stage : Stage := .stopped
  /-- The broadcasts under way. -/
  broadcasts : List Broadcast := []
  /-- The runs whose registry has been emptied. -/
  drained : List Nat := []
deriving DecidableEq, Repr

/-- A step of one of the threads. -/
inductive ServerMove where
  /-- A run begins. -/
  | start
  /-- A stop begins and cancels the run. -/
  | cancelRun
  /-- It empties the registry, to close those who were in it in this order. -/
  | drain (order : List Handle)
  /-- It closes the next of those who were in the registry. -/
  | closeNext
  /-- It ends. -/
  | stopped
  /-- A connection is accepted for some run. -/
  | accept (run : Nat) (remote : SocketAddress)
  /-- A session is registered. -/
  | register (h : Handle)
  /-- A session is closed. -/
  | close (h : Handle)
  /-- A member is removed. -/
  | remove (id : Nat)
  /-- A session is cancelled. -/
  | cancel (h : Handle)
  /-- A broadcast begins and finds out who the members are, to send to them in this
  order. -/
  | broadcast (message : String) (order : List Handle)
  /-- Broadcast `i` sends its message to the next of them. -/
  | sendNext (i : Nat)
deriving DecidableEq, Repr

namespace ServerRuns

/-- The number of the last run. -/
def lastRun (s : ServerRuns) : Nat :=
  s.runs - 1

/-- Make a move. -/
def move? (s : ServerRuns) : ServerMove → Option ServerRuns
  | .start =>
    if s.stage = .stopped then some { s with stage := .running, runs := s.runs + 1 } else none
  | .cancelRun =>
    if s.stage = .running then
      some { s with stage := .cancelled, hub := s.hub.cancelRun s.lastRun }
    else none
  | .drain order =>
    if s.stage = .cancelled ∧ order.Perm s.hub.snapshot then
      some { s with
        stage := .closing order
        hub := s.hub.drain.2
        drained := s.lastRun :: s.drained }
    else none
  | .closeNext =>
    match s.stage with
    | .closing (h :: rest) => some { s with stage := .closing rest, hub := s.hub.close h }
    | _ => none
  | .stopped => if s.stage = .closing [] then some { s with stage := .stopped } else none
  | .accept run remote =>
    if run < s.runs then
      let (id, hub) := s.hub.nextId
      some { s with hub := (hub.make id remote run).2 }
    else none
  | .register h => some { s with hub := (s.hub.register h).2 }
  | .close h => some { s with hub := s.hub.close h }
  | .remove id => some { s with hub := (s.hub.remove id).2 }
  | .cancel h => some { s with hub := s.hub.cancel h }
  | .broadcast message order =>
    if order.Perm s.hub.snapshot then
      some { s with broadcasts := s.broadcasts ++ [{ message, rest := order }] }
    else none
  | .sendNext i =>
    match s.broadcasts[i]? with
    | some { message, rest := h :: rest } =>
      some { s with
        hub := s.hub.send h message
        broadcasts := s.broadcasts.set i { message, rest } }
    | _ => none

end ServerRuns

end Interleaving

end Lifecast
