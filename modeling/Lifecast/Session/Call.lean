/-
What can be asked of a hub.

Each call is one step of a run of the hub, whoever makes it, and `perform` says what
it changes and what it answers.  A run is a list of calls made one after the other.
-/
import Lifecast.Session.Hub

namespace Lifecast

namespace Hub

/-- A call on a hub or on one of its sessions. -/
inductive Call where
  /-- Give out the next id. -/
  | nextId
  /-- Make a session of the first run, with an id of its own or with the next one. -/
  | make (id : Option Nat) (remote : SocketAddress)
  /-- Make a session a member. -/
  | register (h : Handle)
  /-- Remove the member with an id. -/
  | remove (id : Nat)
  /-- Who are the members? -/
  | snapshot
  /-- Send a message to a session. -/
  | send (h : Handle) (message : String)
  /-- Send a message to all members. -/
  | broadcast (message : String)
  /-- Take messages out of the queue of a session: all, or at most some number. -/
  | receive (h : Handle) (most : Option Nat)
  /-- Drop the receiving end of the queue of a session. -/
  | dropQueue (h : Handle)
  /-- Close a session. -/
  | close (h : Handle)
  /-- Cancel a session. -/
  | cancel (h : Handle)
  /-- Cancel the first run. -/
  | cancelRun
  /-- Has a session been cancelled? -/
  | isCancelled (h : Handle)
  /-- Close all members. -/
  | closeAll
  /-- Let the registry go away. -/
  | dropRegistry
deriving DecidableEq, Repr

/-- What a call answers. -/
inductive Answer where
  /-- Nothing. -/
  | done
  /-- Yes or no. -/
  | flag (yes : Bool)
  /-- An id, or how many members were sent to. -/
  | number (n : Nat)
  /-- A session that was made. -/
  | made (h : Handle)
  /-- The session that was removed, if there was one. -/
  | removed (h : Option Handle)
  /-- Some sessions. -/
  | handles (hs : List Handle)
  /-- Some ids. -/
  | ids (ids : List Nat)
  /-- Some messages. -/
  | messages (ms : List String)
deriving DecidableEq, Repr

/-- How many messages wait in the queue of a session. -/
def waiting (hub : Hub) (h : Handle) : Nat :=
  match hub.sessions[h]? with
  | some s => s.queue.size
  | none => 0

/-- Make a call. -/
def perform (hub : Hub) : Call → Answer × Hub
  | .nextId => let (id, hub) := hub.nextId; (.number id, hub)
  | .make (some id) remote => let (h, hub) := hub.make id remote 0; (.made h, hub)
  | .make none remote =>
    let (id, hub) := hub.nextId
    let (h, hub) := hub.make id remote 0
    (.made h, hub)
  | .register h => let (yes, hub) := hub.register h; (.flag yes, hub)
  | .remove id => let (h, hub) := hub.remove id; (.removed h, hub)
  | .snapshot => (.handles hub.snapshot, hub)
  | .send h message => (.done, hub.send h message)
  | .broadcast message => let (n, hub) := hub.broadcast message; (.number n, hub)
  | .receive h most =>
    let (ms, hub) := hub.receive h (most.getD (hub.waiting h))
    (.messages ms, hub)
  | .dropQueue h => (.done, hub.dropQueue h)
  | .close h => (.done, hub.close h)
  | .cancel h => (.done, hub.cancel h)
  | .cancelRun => (.done, hub.cancelRun 0)
  | .isCancelled h => (.flag (hub.sessions[h]?.any hub.isCancelled), hub)
  | .closeAll => let (hs, hub) := hub.closeAll; (.ids (hub.idsOf hs), hub)
  | .dropRegistry => (.done, hub.dropRegistry)

/-- The hub after some calls. -/
def performAll (hub : Hub) (calls : List Call) : Hub :=
  calls.foldl (fun hub call => (hub.perform call).2) hub

end Hub

end Lifecast
