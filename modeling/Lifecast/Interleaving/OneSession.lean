/-
One session and everybody who acts on it.

The task of the session registers it, opens it, writes what is queued and, when the
connection is over or has been cancelled, closes and finishes it.  Meanwhile any number
of other threads may close it, send to it or cancel it.
-/
import Lifecast.Interleaving.Basic
import Lifecast.Interleaving.SessionCalls

namespace Lifecast

namespace Interleaving

/-- Where the task of a session has got to. -/
inductive Task where
  /-- The connection has been accepted. -/
  | accepted
  /-- The session is registered. -/
  | registered
  /-- The session is open, and the task waits for a message or for the end. -/
  | opened
  /-- A message has been taken out of the queue and not yet counted down. -/
  | taken
  /-- The task closes the session. -/
  | closing (call : Closing)
  /-- The session is finished; its queue still exists. -/
  | finished
  /-- The task has ended, and the queue has gone with it. -/
  | ended
deriving DecidableEq, Repr

/-- A session and the threads that act on it. -/
structure OneSession where
  /-- The sessions of the server, this one among them. -/
  hub : Hub
  /-- Which one it is. -/
  handle : Handle
  /-- Its task. -/
  task : Task := .accepted
  /-- The calls of other threads that close it. -/
  closers : List Closing := []
  /-- The calls of other threads that send to it. -/
  senders : List Sending := []
deriving DecidableEq, Repr

/-- A step of one of the threads. -/
inductive SessionMove where
  /-- The task goes on, where it has no choice. -/
  | goOn
  /-- The task takes the oldest message out of the queue. -/
  | takeMessage
  /-- The task finds that the session was cancelled. -/
  | seeCancelled
  /-- The task finds that the connection is over. -/
  | seeEnd
  /-- A thread calls to close the session. -/
  | callClose
  /-- Closing call `i` makes its next step. -/
  | close (i : Nat)
  /-- A thread calls to send a message. -/
  | callSend (message : String)
  /-- Sending call `i` makes its next step. -/
  | send (i : Nat)
  /-- The session is cancelled, without being closed. -/
  | cancel
deriving DecidableEq, Repr

namespace OneSession

/-- A session that has just been accepted, the first of its server. -/
def start (remote : SocketAddress) : OneSession :=
  let (id, hub) := Hub.nextId {}
  let (handle, hub) := hub.make id remote 0
  { hub, handle }

/-- The session itself. -/
def session? (s : OneSession) : Option Session :=
  s.hub.sessions[s.handle]?

/-- Is the session a member? -/
def isMember (s : OneSession) : Bool :=
  s.hub.members.any (·.2 = s.handle)

/-- How many messages wait in its queue. -/
def waiting (s : OneSession) : Nat :=
  match s.session? with
  | some session => session.queue.size
  | none => 0

/-- The task goes on, where it has no choice. -/
def goOn? (s : OneSession) : Option OneSession :=
  match s.task with
  | .accepted =>
    let (registered, hub) := s.hub.register s.handle
    some { s with hub, task := if registered then .registered else .closing .called }
  | .registered =>
    let (moved, hub) := s.hub.updateWith s.handle false Session.openUp
    some { s with hub, task := if moved then .opened else .closing .called }
  | .opened => none
  | .taken => some { s with hub := s.hub.update s.handle Session.countDown, task := .opened }
  | .closing .returned => some { s with hub := s.hub.update s.handle Session.finish, task := .finished }
  | .closing call =>
    let (call, hub) := call.next s.handle s.hub
    some { s with hub, task := .closing call }
  | .finished => some { s with hub := s.hub.dropQueue s.handle, task := .ended }
  | .ended => none

/-- Make a move. -/
def move? (s : OneSession) : SessionMove → Option OneSession
  | .goOn => s.goOn?
  | .takeMessage =>
    if s.task = .opened && 0 < s.waiting then
      some { s with hub := (s.hub.receive s.handle 1).2, task := .taken }
    else none
  | .seeCancelled =>
    if s.task = .opened && s.session?.any s.hub.isCancelled then
      some { s with task := .closing .called }
    else none
  | .seeEnd => if s.task = .opened then some { s with task := .closing .called } else none
  | .callClose => some { s with closers := s.closers ++ [.called] }
  | .close i =>
    match s.closers[i]? with
    | none | some .returned => none
    | some call =>
      let (call, hub) := call.next s.handle s.hub
      some { s with hub, closers := s.closers.set i call }
  | .callSend message => some { s with senders := s.senders ++ [.called message] }
  | .send i =>
    match s.senders[i]? with
    | none | some .returned => none
    | some call =>
      let (call, hub) := call.next s.handle s.hub
      some { s with hub, senders := s.senders.set i call }
  | .cancel => some { s with hub := s.hub.cancel s.handle }

/-- Have the task and all calls returned? -/
def isOver (s : OneSession) : Bool :=
  s.task = .ended && s.closers.all (· = .returned) && s.senders.all (· = .returned)

end OneSession

end Interleaving

end Lifecast
