/-
Calls on a session, one step at a time.

`Hub.close` and `Hub.send` are calls that other threads may come between.  Here each is
a place that the call has got to and the step from there to the next place.  Made
without anything in between, the steps come to the same as the whole call.
-/
import Lifecast.Session.Hub

namespace Lifecast

namespace Interleaving

/-- Where a call that closes a session has got to. -/
inductive Closing where
  /-- Nothing has been done. -/
  | called
  /-- It was the first to begin closing. -/
  | first
  /-- It found that the session was not accepting. -/
  | notAccepting
  /-- The session has left its open phases. -/
  | left
  /-- The session has left the registry. -/
  | removed
  /-- The call has returned. -/
  | returned
deriving DecidableEq, Repr

/-- The next step of a call that closes a session. -/
def Closing.next (h : Handle) (hub : Hub) : Closing → Closing × Hub
  | .called =>
    match hub.updateWith h true Session.latch with
    | (true, hub) => (.returned, hub)
    | (false, hub) => (.first, hub)
  | .first =>
    match hub.updateWith h false (Session.closeFrom · .accepting) with
    | (true, hub) => (.left, hub)
    | (false, hub) => (.notAccepting, hub)
  | .notAccepting => (.left, (hub.updateWith h false (Session.closeFrom · .opened)).2)
  | .left =>
    match hub.sessions[h]? with
    | none => (.removed, hub)
    | some s => (.removed, (hub.remove s.id).2)
  | .removed => (.returned, hub.cancel h)
  | .returned => (.returned, hub)

/-- Some steps of a call that closes a session, with nothing in between. -/
def Closing.after (h : Handle) : Nat → Closing × Hub → Closing × Hub
  | 0, s => s
  | n + 1, (call, hub) => after h n (call.next h hub)

/-- With nothing in between, the steps are a whole call. -/
theorem Closing.after_called (h : Handle) (hub : Hub) :
    Closing.after h 5 (.called, hub) = (.returned, hub.close h) := by
  cases found : hub.sessions[h]? with
  | none => simp [Closing.after, Closing.next, Hub.close, Hub.updateWith, found]
  | some s =>
    cases latched : s.latched with
    | true =>
      simp [Closing.after, Closing.next, Hub.close, Hub.updateWith, found, Session.latch, latched]
    | false =>
      have left (f g : Session → Session) (same : f s = g s) :
          ((hub.update h f).remove s.id).2.cancel h = ((hub.update h g).remove s.id).2.cancel h := by
        rw [Hub.update_congr hub h]
        intro t there
        rw [found] at there
        cases there
        exact same
      cases phase : s.state <;>
        simp [Closing.after, Closing.next, Hub.close, Hub.updateWith, found, Session.latch, latched,
          Session.closeFrom, Phase.exchange, phase, Hub.update_update] <;>
        exact left _ _ (by simp [Session.leaveOpen, Session.closeFrom, Phase.exchange, phase])

/-- Where a call that sends a message has got to. -/
inductive Sending where
  /-- Nothing has been done. -/
  | called (message : String)
  /-- It found that the session was not closing. -/
  | admitted (message : String)
  /-- The message has been counted. -/
  | counted (message : String)
  /-- The queue did not take the message. -/
  | refused
  /-- The call has returned. -/
  | returned
deriving DecidableEq, Repr

/-- The next step of a call that sends a message. -/
def Sending.next (h : Handle) (hub : Hub) : Sending → Sending × Hub
  | .called message => (if hub.isClosingAt h then .returned else .admitted message, hub)
  | .admitted message => (.counted message, hub.update h Session.countUp)
  | .counted message =>
    match hub.updateWith h false (Session.enqueue · message) with
    | (true, hub) => (.returned, hub)
    | (false, hub) => (.refused, hub)
  | .refused => (.returned, hub.update h Session.countDown)
  | .returned => (.returned, hub)

/-- Some steps of a call that sends a message, with nothing in between. -/
def Sending.after (h : Handle) : Nat → Sending × Hub → Sending × Hub
  | 0, s => s
  | n + 1, (call, hub) => after h n (call.next h hub)

/-- With nothing in between, the steps are a whole call. -/
theorem Sending.after_called (h : Handle) (hub : Hub) (message : String)
    (made : h < hub.sessions.size) :
    Sending.after h 4 (.called message, hub) = (.returned, hub.send h message) := by
  have found : hub.sessions[h]? = some hub.sessions[h] := by simp
  have there {s : Session} (e : hub.sessions[h]? = some s) : s = hub.sessions[h] :=
    Option.some.inj (e.symm.trans found)
  cases closing : hub.isClosingAt h <;> cases receiving : hub.sessions[h].receiving <;>
    simp [Sending.after, Sending.next, Hub.send, closing, Hub.updateWith, Session.enqueue,
      Session.countUp, receiving, found, Hub.update_update]
  all_goals
    refine Hub.update_congr hub h fun s e => ?_
    simp [there e, Hub.accept, Session.countUp, Session.enqueue, Session.countDown, receiving]

/-- Is the call somewhere between its beginning and its end? -/
def Sending.isUnderWay : Sending → Bool
  | .admitted _ | .counted _ | .refused => true
  | .called _ | .returned => false

end Interleaving

end Lifecast
