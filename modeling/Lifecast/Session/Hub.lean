/-
The sessions of a server.

A hub knows every session it ever made; a session is named by its place in that list,
its handle.  Some of them are members: they are registered under their ids and get the
messages that are broadcast.

Sessions belong to runs of the server.  Cancelling a run cancels every session that it
made or will make, and a cancelled session is closing, whether or not it was told to
close itself.  A closing session is refused as a member and takes no more messages,
so nothing slips in behind a server that stops.
-/
import Lifecast.Session.Basic

namespace Lifecast

/-- The place of a session in the list of all sessions. -/
abbrev Handle : Type := Nat

/-- The sessions of one server. -/
structure Hub where
  /-- All sessions ever made, in order. -/
  sessions : Array Session := #[]
  /-- The members, each by its id and handle, one for each id. -/
  members : List (Nat × Handle) := []
  /-- The id given out last. -/
  lastId : Nat := 0
  /-- The runs that have been cancelled. -/
  cancelledRuns : List Nat := []
  /-- Does the registry of members still exist? -/
  registryExists : Bool := true
deriving DecidableEq, Repr

namespace Hub

/-- Change one session by a step. -/
def update (hub : Hub) (h : Handle) (step : Session → Session) : Hub :=
  { hub with sessions := hub.sessions.modify h step }

/-- Change one session by a step that has an answer; `default` where there is no such
session. -/
def updateWith {α : Type} (hub : Hub) (h : Handle) (default : α)
    (step : Session → α × Session) : α × Hub :=
  ((hub.sessions[h]?.map fun s => (step s).1).getD default, hub.update h fun s => (step s).2)

/-- What is found after a change. -/
@[simp] theorem getElem?_update (hub : Hub) (h i : Handle) (step : Session → Session) :
    (hub.update h step).sessions[i]?
      = if h = i then hub.sessions[i]?.map step else hub.sessions[i]? := by
  simp only [update, Array.getElem?_modify]

/-- Two changes of one session are one. -/
theorem update_update (hub : Hub) (h : Handle) (first second : Session → Session) :
    (hub.update h first).update h second = hub.update h fun s => second (first s) := by
  simp only [update]
  congr 1
  apply Array.ext_getElem?
  intro i
  simp only [Array.getElem?_modify]
  split <;> simp [Function.comp_def]

/-- A change in a session is no change elsewhere. -/
theorem update_congr (hub : Hub) (h : Handle) {first second : Session → Session}
    (same : ∀ s, hub.sessions[h]? = some s → first s = second s) :
    hub.update h first = hub.update h second := by
  simp only [update]
  congr 1
  apply Array.ext_getElem?
  intro i
  simp only [Array.getElem?_modify]
  split
  · next e =>
      subst e
      cases found : hub.sessions[h]? with
      | none => rfl
      | some s => simp [same s found]
  · rfl

/-! ### Closing -/

/-- Has the session been cancelled, on its own or with its run? -/
def isCancelled (hub : Hub) (s : Session) : Bool :=
  s.cancelled || hub.cancelledRuns.contains s.run

/-- Is the session closing?  Never goes back. -/
def isClosing (hub : Hub) (s : Session) : Bool :=
  s.latched || hub.isCancelled s

/-- Is the session with a handle closing? -/
def isClosingAt (hub : Hub) (h : Handle) : Bool :=
  hub.sessions[h]?.any hub.isClosing

/-- Cancel one session. -/
def cancel (hub : Hub) (h : Handle) : Hub :=
  hub.update h Session.cancel

/-- Cancel a run, and every session of it. -/
def cancelRun (hub : Hub) (run : Nat) : Hub :=
  { hub with cancelledRuns := run :: hub.cancelledRuns }

/-! ### Members -/

/-- Give out the next id. -/
def nextId (hub : Hub) : Nat × Hub :=
  (hub.lastId + 1, { hub with lastId := hub.lastId + 1 })

/-- Make a session. -/
def make (hub : Hub) (id : Nat) (remote : SocketAddress) (run : Nat) : Handle × Hub :=
  (hub.sessions.size, { hub with sessions := hub.sessions.push { id, remote, run } })

/-- The members without the one under an id. -/
def without (members : List (Nat × Handle)) (id : Nat) : List (Nat × Handle) :=
  members.filter (·.1 != id)

/-- Make a session a member, in place of the one with its id.  Refused if it is
closing; the look and the change are one step. -/
def register (hub : Hub) (h : Handle) : Bool × Hub :=
  match hub.sessions[h]? with
  | none => (false, hub)
  | some s =>
    if hub.isClosing s then (false, hub)
    else (true, { hub with members := (s.id, h) :: without hub.members s.id })

/-- Remove the member with an id, whichever session it is. -/
def remove (hub : Hub) (id : Nat) : Option Handle × Hub :=
  (hub.members.lookup id, { hub with members := without hub.members id })

/-- The handles of the members, in increasing order.  Whoever goes through the members in any
other order comes to the same (`closeEach_perm`, `sendAll_perm`). -/
def snapshot (hub : Hub) : List Handle :=
  (hub.members.map (·.2)).mergeSort

/-- How many members there are. -/
def size (hub : Hub) : Nat :=
  hub.members.length

/-- The registry goes away.  Sessions live on and can still be closed. -/
def dropRegistry (hub : Hub) : Hub :=
  { hub with members := [], registryExists := false }

/-! ### Messages -/

/-- Queue a message, as a session that is not closing does: count it up, and down
again if the queue does not take it. -/
def accept (message : String) (s : Session) : Session :=
  match s.countUp.enqueue message with
  | (true, s) => s
  | (false, s) => s.countDown

/-- Send a message to one session.  A closing session drops it. -/
def send (hub : Hub) (h : Handle) (message : String) : Hub :=
  if hub.isClosingAt h then hub else hub.update h (accept message)

/-- Send a message to several sessions. -/
def sendAll (hub : Hub) (hs : List Handle) (message : String) : Hub :=
  hs.foldl (fun hub h => hub.send h message) hub

/-- Send a message to all members and say how many they are. -/
def broadcast (hub : Hub) (message : String) : Nat × Hub :=
  let members := hub.snapshot
  (members.length, hub.sendAll members message)

/-- Take messages out of the queue of a session. -/
def receive (hub : Hub) (h : Handle) (most : Nat) : List String × Hub :=
  hub.updateWith h [] (·.dequeue most)

/-- Drop the receiving end of the queue of a session. -/
def dropQueue (hub : Hub) (h : Handle) : Hub :=
  hub.update h Session.dropQueue

/-! ### Whole calls that close -/

/-- Close a session: leave its open phases, leave the registry, be cancelled.  Only
the first call does anything. -/
def close (hub : Hub) (h : Handle) : Hub :=
  match hub.updateWith h true Session.latch with
  | (true, hub) => hub
  | (false, hub) =>
    let hub := hub.update h Session.leaveOpen
    let hub := match hub.sessions[h]? with
      | some s => (hub.remove s.id).2
      | none => hub
    hub.cancel h

/-- Empty the registry and say who the members were. -/
def drain (hub : Hub) : List Handle × Hub :=
  (hub.snapshot, { hub with members := [] })

/-- Close several sessions. -/
def closeEach (hub : Hub) (hs : List Handle) : Hub :=
  hs.foldl close hub

/-- Close all members, the registry having been emptied first, and say who they
were. -/
def closeAll (hub : Hub) : List Handle × Hub :=
  let (members, hub) := hub.drain
  (members, hub.closeEach members)

/-- The ids of some sessions, in increasing order. -/
def idsOf (hub : Hub) (hs : List Handle) : List Nat :=
  (hs.filterMap fun h => hub.sessions[h]?.map (·.id)).mergeSort

end Hub

end Lifecast
