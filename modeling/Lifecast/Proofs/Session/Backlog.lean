/-
What the backlog of a session shows.

A send counts its message up before it puts it into the queue, and counts it down again if the
queue refuses it.  The task counts a message down after it has taken it out.  So the backlog is
what waits in the queue and what somebody has in hand, its `load`, as long as the session is not
finished.

To finish sets the backlog to nothing, whatever is still on its way, and the queue goes away
with what waits in it.  From then on the backlog is off by the messages that were on their way
at the finish, the other way by those that were put into the queue between the finish and its
end, and nobody ever makes up for it (`Advances`, `backlog_of_play`).  A send that was counted
before the finish and is refused after it takes the backlog below nothing, and one that is
counted after the finish and still gets its message into the queue leaves it counted for good
(`backlog_astray`).
-/
import Lifecast.Proofs.Session.Phases

namespace Lifecast

namespace Session

/-- Nothing that has to do with messages differs. -/
structure Still (s t : Session) : Prop where
  pending : t.pending = s.pending
  queue : t.queue = s.queue
  receiving : t.receiving = s.receiving

theorem Still.refl (s : Session) : Still s s :=
  ⟨rfl, rfl, rfl⟩

end Session

namespace Interleaving

/-- What a step of a send does to the session. -/
inductive Sends (x : Session) : Sending → Sending → Session → Prop where
  | dropped (message : String) : Sends x (.called message) .returned x
  | admitted (message : String) (unlatched : x.latched = false) :
      Sends x (.called message) (.admitted message) x
  | counted (message : String) : Sends x (.admitted message) (.counted message) x.countUp
  | queued (message : String) (receiving : x.receiving = true) :
      Sends x (.counted message) .returned { x with queue := x.queue.push message }
  | refused (message : String) (gone : x.receiving = false) :
      Sends x (.counted message) .refused x
  | countedDown : Sends x .refused .returned x.countDown

/-- No other steps are made. -/
theorem sends_next {hub : Hub} {h : Handle} {x : Session} {call : Sending}
    (hfound : hub.sessions[h]? = some x) (hcall : call ≠ .returned) :
    ∃ y, (call.next h hub).2.sessions[h]? = some y ∧ Sends x call (call.next h hub).1 y := by
  cases call with
  | called message =>
      refine ⟨x, hfound, ?_⟩
      cases hclosing : hub.isClosingAt h with
      | true =>
          rw [show (Sending.called message).next h hub = (.returned, hub) by
            simp [Sending.next, hclosing]]
          exact .dropped message
      | false =>
          rw [show (Sending.called message).next h hub = (.admitted message, hub) by
            simp [Sending.next, hclosing]]
          rw [Hub.isClosingAt, hfound, Option.any_some, Hub.isClosing, Bool.or_eq_false_iff]
            at hclosing
          exact .admitted message hclosing.1
  | admitted message => exact ⟨x.countUp, by simp [Sending.next, hfound], .counted message⟩
  | counted message =>
      cases hreceiving : x.receiving with
      | true =>
          have hnext : ((Sending.counted message).next h hub).1 = .returned := by
            simp [Sending.next, Hub.updateWith, Session.enqueue, hfound, hreceiving]
          refine ⟨{ x with queue := x.queue.push message }, ?_, ?_⟩
          · simp [Sending.next, Hub.updateWith, Session.enqueue, hfound, hreceiving]
          · rw [hnext]
            exact .queued message hreceiving
      | false =>
          have hnext : ((Sending.counted message).next h hub).1 = .refused := by
            simp [Sending.next, Hub.updateWith, Session.enqueue, hfound, hreceiving]
          refine ⟨x, ?_, ?_⟩
          · simp [Sending.next, Hub.updateWith, Session.enqueue, hfound, hreceiving]
          · rw [hnext]
            exact .refused message hreceiving
  | refused => exact ⟨x.countDown, by simp [Sending.next, hfound], .countedDown⟩
  | returned => exact absurd rfl hcall

/-- Has the call counted its message and neither queued it nor counted it down? -/
def Sending.hasCounted : Sending → Bool
  | counted _ | refused => true
  | called _ | admitted _ | returned => false

/-- Has the task a message in hand? -/
def Task.hasTaken : Task → Bool
  | taken => true
  | _ => false

/-- Has the task no message in hand, and has it yet to finish the session? -/
def Task.isPlain : Task → Bool
  | accepted | registered | opened | closing _ => true
  | taken | finished | ended => false

theorem Task.isPlain_eq {task : Task} (hplain : task.isPlain = true) :
    task.hasTaken = false ∧ task.isDone = false := by
  cases task with
  | accepted | registered | opened | closing call => exact ⟨rfl, rfl⟩
  | taken | finished | ended => cases hplain

namespace OneSession

/-- What the backlog shows. -/
def backlog (s : OneSession) : UInt64 :=
  (s.session?.map (·.pending)).getD 0

/-- The messages that wait in the queue or that somebody has in hand. -/
def load (s : OneSession) : Nat :=
  s.waiting + s.senders.countP Sending.hasCounted + s.task.hasTaken.toNat

/-- How far the backlog is off. -/
def drift (s : OneSession) : UInt64 :=
  s.backlog - .ofNat s.load

/-! ### What a move does to the messages -/

variable {s t : OneSession} {x y : Session} {hub : Hub} {h : Handle} {m : SessionMove}

/-- What a move does to the messages of the session, which it finds as `x` and leaves as `y`. -/
inductive Handles (s t : OneSession) (x y : Session) : SessionMove → Prop where
  | leaves {m : SessionMove} (still : x.Still y) (senders : t.senders = s.senders)
      (task : t.task = s.task ∨ s.task.isPlain = true ∧ t.task.isPlain = true)
      (short : m = .goOn → s.task ≠ .closing .returned) : Handles s t x y m
  | takes (before : s.task = .opened) (after : t.task = .taken) (waiting : 0 < x.queue.size)
      (next : y = (x.dequeue 1).2) (senders : t.senders = s.senders) : Handles s t x y .takeMessage
  | writes (before : s.task = .taken) (after : t.task = .opened) (next : y = x.countDown)
      (senders : t.senders = s.senders) : Handles s t x y .goOn
  | finishes (before : s.task = .closing .returned) (after : t.task = .finished)
      (next : y = x.finish) (senders : t.senders = s.senders) : Handles s t x y .goOn
  | drops (before : s.task = .finished) (after : t.task = .ended) (next : y = x.dropQueue)
      (senders : t.senders = s.senders) : Handles s t x y .goOn
  | calls (message : String) (next : y = x) (senders : t.senders = s.senders ++ [.called message])
      (task : t.task = s.task) : Handles s t x y (.callSend message)
  | sends {i : Nat} {call later : Sending} (there : s.senders[i]? = some call)
      (step : Sends x call later y) (senders : t.senders = s.senders.set i later)
      (task : t.task = s.task) : Handles s t x y (.send i)

/-- Closing a session leaves its messages alone. -/
theorem still_closing (hfound : hub.sessions[h]? = some x) (call : Closing) :
    ∃ y, (call.next h hub).2.sessions[h]? = some y ∧ x.Still y := by
  cases call with
  | called =>
      refine ⟨{ x with latched := true }, ?_, rfl, rfl, rfl⟩
      cases hlatched : x.latched <;>
        simp [Closing.next, Hub.updateWith, hfound, Session.latch, hlatched]
  | first =>
      refine ⟨(x.closeFrom .accepting).2, ?_, rfl, rfl, rfl⟩
      by_cases hstate : x.state = .accepting <;>
        simp [Closing.next, Hub.updateWith, hfound, Session.closeFrom, Phase.exchange, hstate]
  | notAccepting =>
      exact ⟨(x.closeFrom .opened).2, by simp [Closing.next, Hub.updateWith, hfound], rfl, rfl, rfl⟩
  | left => exact ⟨x, by simp [Closing.next, Hub.remove, hfound], .refl x⟩
  | removed => exact ⟨x.cancel, by simp [Closing.next, Hub.cancel, hfound], rfl, rfl, rfl⟩
  | returned => exact ⟨x, hfound, .refl x⟩

/-- To register a session is no change in it. -/
theorem sessions_register (hub : Hub) (h : Handle) :
    (hub.register h).2.sessions = hub.sessions := by
  unfold Hub.register
  split
  · rfl
  · split <;> rfl

/-- The task goes on. -/
theorem handles_goOn (hx : s.session? = some x) (moved : s.goOn? = some t) :
    ∃ y, t.session? = some y ∧ Handles s t x y .goOn := by
  have hfound : s.hub.sessions[s.handle]? = some x := hx
  unfold goOn? at moved
  cases htask : s.task with
  | accepted =>
      simp only [htask, Option.some.injEq] at moved
      subst moved
      refine ⟨x, ?_, .leaves (.refl x) rfl (.inr ⟨by rw [htask]; rfl, ?_⟩) (by simp [htask])⟩
      · rw [session?, sessions_register, hfound]
      · show Task.isPlain (if _ then _ else _) = _
        split <;> rfl
  | registered =>
      simp only [htask, Option.some.injEq] at moved
      subst moved
      refine ⟨x.openUp.2, ?_, .leaves ⟨rfl, rfl, rfl⟩ rfl (.inr ⟨by rw [htask]; rfl, ?_⟩)
        (by simp [htask])⟩
      · simp [session?, Hub.updateWith, hfound]
      · show Task.isPlain (if _ then _ else _) = _
        split <;> rfl
  | opened => simp [htask] at moved
  | taken =>
      simp only [htask, Option.some.injEq] at moved
      subst moved
      exact ⟨x.countDown, by simp [session?, hfound], .writes htask rfl rfl rfl⟩
  | closing call =>
      by_cases hreturned : call = .returned
      · subst hreturned
        simp only [htask, Option.some.injEq] at moved
        subst moved
        exact ⟨x.finish, by simp [session?, hfound], .finishes htask rfl rfl rfl⟩
      · obtain rfl : OneSession.mk (call.next s.handle s.hub).2 s.handle
            (.closing (call.next s.handle s.hub).1) s.closers s.senders = t := by
          rw [htask] at moved
          cases call with
          | returned => exact absurd rfl hreturned
          | called | first | notAccepting | left | removed => exact Option.some.inj moved
        obtain ⟨y, hy, hstill⟩ := still_closing hfound call
        refine ⟨y, hy, .leaves hstill rfl (.inr ⟨by rw [htask]; rfl, rfl⟩) fun _ => ?_⟩
        rw [htask]
        exact fun heq => hreturned (Task.closing.inj heq)
  | finished =>
      simp only [htask, Option.some.injEq] at moved
      subst moved
      exact ⟨x.dropQueue, by simp [session?, Hub.dropQueue, hfound], .drops htask rfl rfl rfl⟩
  | ended => simp [htask] at moved

/-- Nothing else is ever done to them. -/
theorem handles_move (hx : s.session? = some x) (moved : s.move? m = some t) :
    ∃ y, t.session? = some y ∧ Handles s t x y m := by
  have hfound : s.hub.sessions[s.handle]? = some x := hx
  cases m with
  | goOn => exact handles_goOn hx moved
  | takeMessage =>
      simp only [move?] at moved
      split at moved
      · next hready =>
          obtain ⟨hopened, hsome⟩ := Bool.and_eq_true_iff.mp hready
          have hqueue : 0 < x.queue.size := by
            rw [waiting, hx] at hsome
            exact of_decide_eq_true hsome
          obtain rfl := Option.some.inj moved
          refine ⟨(x.dequeue 1).2, ?_, .takes (of_decide_eq_true hopened) rfl hqueue rfl rfl⟩
          simp [session?, Hub.receive, Hub.updateWith, hfound]
      · cases moved
  | seeCancelled =>
      simp only [move?] at moved
      split at moved
      · next hready =>
          have htask : s.task = .opened := of_decide_eq_true (Bool.and_eq_true_iff.mp hready).1
          obtain rfl := Option.some.inj moved
          exact ⟨x, hx, .leaves (.refl x) rfl (.inr ⟨by rw [htask]; rfl, rfl⟩) (by simp)⟩
      · cases moved
  | seeEnd =>
      simp only [move?] at moved
      split at moved
      · next htask =>
          obtain rfl := Option.some.inj moved
          exact ⟨x, hx, .leaves (.refl x) rfl (.inr ⟨by rw [htask]; rfl, rfl⟩) (by simp)⟩
      · cases moved
  | callClose =>
      obtain rfl := Option.some.inj moved
      exact ⟨x, hx, .leaves (.refl x) rfl (.inl rfl) (by simp)⟩
  | close i =>
      simp only [move?] at moved
      split at moved
      · cases moved
      · cases moved
      · next call _ _ =>
          obtain rfl := Option.some.inj moved
          obtain ⟨y, hy, hstill⟩ := still_closing hfound call
          exact ⟨y, hy, .leaves hstill rfl (.inl rfl) (by simp)⟩
  | callSend message =>
      obtain rfl := Option.some.inj moved
      exact ⟨x, hx, .calls message rfl rfl rfl⟩
  | send i =>
      simp only [move?] at moved
      split at moved
      · cases moved
      · cases moved
      · next call hcall hthere =>
          obtain rfl := Option.some.inj moved
          obtain ⟨y, hy, hstep⟩ := sends_next hfound hcall
          exact ⟨y, hy, .sends hthere hstep rfl rfl⟩
  | cancel =>
      obtain rfl := Option.some.inj moved
      refine ⟨x.cancel, ?_, .leaves ⟨rfl, rfl, rfl⟩ rfl (.inl rfl) (by simp)⟩
      simp [session?, Hub.cancel, hfound]

/-! ### How far the backlog is off -/

theorem backlog_of_found (hfound : s.session? = some x) : s.backlog = x.pending := by
  rw [backlog, hfound]
  rfl

theorem load_of_found (hfound : s.session? = some x) :
    s.load = x.queue.size + s.senders.countP Sending.hasCounted + s.task.hasTaken.toNat := by
  rw [load, waiting, hfound]

/-- Neither the backlog nor the load changes. -/
theorem drift_of_same (hx : s.session? = some x) (hy : t.session? = some y)
    (hpending : y.pending = x.pending) (hload : t.load = s.load) : t.drift = s.drift := by
  rw [drift, drift, backlog_of_found hx, backlog_of_found hy, hpending, hload]

/-- Both go up. -/
theorem drift_of_up (hx : s.session? = some x) (hy : t.session? = some y)
    (hpending : y.pending = x.pending + 1) (hload : t.load = s.load + 1) :
    t.drift = s.drift := by
  rw [drift, drift, backlog_of_found hx, backlog_of_found hy, hpending, hload, UInt64.ofNat_add]
  grind

/-- Both go down. -/
theorem drift_of_down (hx : s.session? = some x) (hy : t.session? = some y)
    (hpending : y.pending = x.pending - 1) (hload : t.load + 1 = s.load) :
    t.drift = s.drift := by
  rw [drift, drift, backlog_of_found hx, backlog_of_found hy, hpending, ← hload, UInt64.ofNat_add]
  grind

/-- Whatever a send does to the backlog it does to the load. -/
theorem drift_sends {i : Nat} {call later : Sending} (hx : s.session? = some x)
    (hy : t.session? = some y) (hthere : s.senders[i]? = some call) (hstep : Sends x call later y)
    (hsenders : t.senders = s.senders.set i later) (htask : t.task = s.task) :
    t.drift = s.drift := by
  have hcount := (OneMoved.of_set hthere later).countP Sending.hasCounted
  rw [← hsenders] at hcount
  have hs := load_of_found hx
  have ht := load_of_found hy
  rw [htask] at ht
  cases hstep with
  | dropped message | admitted message =>
      refine drift_of_same hx hy rfl ?_
      simp only [Sending.hasCounted] at hcount
      omega
  | counted message =>
      refine drift_of_up hx hy rfl ?_
      simp only [Sending.hasCounted, Bool.toNat_true, Bool.toNat_false] at hcount
      rw [show x.countUp.queue = x.queue from rfl] at ht
      omega
  | queued message =>
      refine drift_of_same hx hy rfl ?_
      simp only [Sending.hasCounted, Bool.toNat_true, Bool.toNat_false] at hcount
      rw [Array.size_push] at ht
      omega
  | refused message =>
      refine drift_of_same hx hy rfl ?_
      simp only [Sending.hasCounted] at hcount
      omega
  | countedDown =>
      refine drift_of_down hx hy rfl ?_
      simp only [Sending.hasCounted, Bool.toNat_true, Bool.toNat_false] at hcount
      rw [show x.countDown.queue = x.queue from rfl] at ht
      omega

/-- What a move comes to.  The backlog drifts when the session is finished and when its queue
goes away, and at no other time. -/
inductive Advances (s t : OneSession) : SessionMove → Prop where
  | level {m : SessionMove} (drift : t.drift = s.drift)
      (task : t.task = s.task ∨ s.task.isDone = false ∧ t.task.isDone = false) : Advances s t m
  | finishes (before : s.task = .closing .returned) (after : t.task = .finished)
      (drift : t.drift + .ofNat s.load = 0) : Advances s t .goOn
  | drops (before : s.task = .finished) (after : t.task = .ended)
      (drift : t.drift = s.drift + .ofNat s.waiting) : Advances s t .goOn

theorem Handles.advances (hx : s.session? = some x) (hy : t.session? = some y)
    (hhandles : Handles s t x y m) : Advances s t m := by
  have hs := load_of_found hx
  have ht := load_of_found hy
  cases hhandles with
  | leaves hstill hsenders htask =>
      have hsame : t.task.hasTaken = s.task.hasTaken := by
        rcases htask with htask | ⟨hplain, hlater⟩
        · rw [htask]
        · rw [(Task.isPlain_eq hplain).1, (Task.isPlain_eq hlater).1]
      refine .level (drift_of_same hx hy hstill.pending ?_) (htask.imp_right ?_)
      · rw [hs, ht, hsenders, hstill.queue, hsame]
      · exact fun ⟨hplain, hlater⟩ => ⟨(Task.isPlain_eq hplain).2, (Task.isPlain_eq hlater).2⟩
  | takes hbefore hafter hwaiting hnext hsenders =>
      subst hnext
      refine .level (drift_of_same hx hy rfl ?_) (.inr ⟨by rw [hbefore]; rfl, by rw [hafter]; rfl⟩)
      rw [hs, ht, hsenders, hbefore, hafter]
      simp only [Session.dequeue, Array.size_extract, Task.hasTaken, Bool.toNat_true,
        Bool.toNat_false]
      omega
  | writes hbefore hafter hnext hsenders =>
      subst hnext
      refine .level (drift_of_down hx hy rfl ?_) (.inr ⟨by rw [hbefore]; rfl, by rw [hafter]; rfl⟩)
      rw [hs, ht, hsenders, hbefore, hafter]
      rfl
  | finishes hbefore hafter hnext hsenders =>
      subst hnext
      refine .finishes hbefore hafter ?_
      have hload : t.load = s.load := by
        rw [hs, ht, hsenders, hbefore, hafter]
        rfl
      rw [drift, hload, backlog_of_found hy]
      show 0 - UInt64.ofNat s.load + UInt64.ofNat s.load = 0
      grind
  | drops hbefore hafter hnext hsenders =>
      subst hnext
      refine .drops hbefore hafter ?_
      have hload : s.load = s.waiting + t.load := by
        rw [ht, hsenders, hafter, load, hbefore]
        simp [Session.dropQueue, Task.hasTaken]
      rw [drift, drift, hload, UInt64.ofNat_add, backlog_of_found hx, backlog_of_found hy]
      show x.pending - _ = x.pending - _ + _
      grind
  | calls message hnext hsenders htask =>
      subst hnext
      refine .level (drift_of_same hx hy rfl ?_) (.inl htask)
      rw [hs, ht, hsenders, htask, List.countP_append]
      rfl
  | sends hthere hstep hsenders htask =>
      exact .level (drift_sends hx hy hthere hstep hsenders htask) (.inl htask)

/-! ### After the end -/

/-- Nobody is on the way to queue a message. -/
def Idle (s : OneSession) : Prop :=
  ∀ call ∈ s.senders, call.isUnderWay = false

/-- A session is over, nothing is counted, and nobody is on the way. -/
structure Quiet (s : OneSession) (x : Session) : Prop where
  done : s.task.isDone = true
  pending : x.pending = 0
  idle : s.Idle

/-- It stays so: whoever calls then finds the latch set. -/
theorem Quiet.handles (hq : s.Quiet x) (hlatched : x.latched = true)
    (hhandles : Handles s t x y m) : t.Quiet y := by
  have hdone := hq.done
  cases hhandles with
  | leaves hstill hsenders htask =>
      rcases htask with htask | ⟨hplain, -⟩
      · refine ⟨by rw [htask, hdone], by rw [hstill.pending, hq.pending], ?_⟩
        rw [Idle, hsenders]
        exact hq.idle
      · rw [(Task.isPlain_eq hplain).2] at hdone
        cases hdone
  | takes hbefore | writes hbefore | finishes hbefore =>
      rw [hbefore] at hdone
      cases hdone
  | drops hbefore hafter hnext hsenders =>
      refine ⟨by rw [hafter]; rfl, by rw [hnext]; exact hq.pending, ?_⟩
      rw [Idle, hsenders]
      exact hq.idle
  | calls message hnext hsenders htask =>
      refine ⟨by rw [htask, hdone], by rw [hnext, hq.pending], ?_⟩
      intro call hcall
      rw [hsenders, List.mem_append, List.mem_singleton] at hcall
      rcases hcall with hold | rfl
      · exact hq.idle call hold
      · rfl
  | sends hthere hstep hsenders htask =>
      have hidle := hq.idle _ (List.mem_of_getElem? hthere)
      cases hstep with
      | admitted message hunlatched =>
          rw [hlatched] at hunlatched
          cases hunlatched
      | counted | queued | refused | countedDown => cases hidle
      | dropped message =>
          refine ⟨by rw [htask, hdone], hq.pending, ?_⟩
          intro call hcall
          rw [hsenders] at hcall
          rcases List.mem_or_eq_of_mem_set hcall with hold | rfl
          · exact hq.idle call hold
          · rfl

/-- The queue is gone with the task. -/
def Emptied (s : OneSession) (x : Session) : Prop :=
  s.task = .ended → x.queue = #[] ∧ x.receiving = false

/-- Nothing comes into it any more. -/
theorem Emptied.handles (hs : s.Emptied x) (hhandles : Handles s t x y m) : t.Emptied y := by
  intro hended
  cases hhandles with
  | leaves hstill _ htask =>
      rw [hstill.queue, hstill.receiving]
      rcases htask with htask | ⟨-, hlater⟩
      · exact hs (htask ▸ hended)
      · rw [hended] at hlater
        cases hlater
  | takes _ hafter | writes _ hafter | finishes _ hafter =>
      rw [hended] at hafter
      cases hafter
  | drops _ _ hnext => exact hnext ▸ ⟨rfl, rfl⟩
  | calls message hnext _ htask => exact hnext ▸ hs (htask ▸ hended)
  | sends _ hstep _ htask =>
      obtain ⟨hqueue, hgone⟩ := hs (htask ▸ hended)
      cases hstep with
      | queued message hreceiving =>
          rw [hgone] at hreceiving
          cases hreceiving
      | dropped | admitted | counted | refused | countedDown => exact ⟨hqueue, hgone⟩

/-! ### Whole plays -/

/-- In these moves the task has gone on from a place, and that was the state it went on from. -/
def WentOn (remote : SocketAddress) (moves : List SessionMove) (task : Task) (s : OneSession) :
    Prop :=
  ∃ before after, moves = before ++ .goOn :: after ∧
    play move? (start remote) before = some s ∧ s.task = task

variable {remote : SocketAddress} {moves : List SessionMove} {task : Task} {u : OneSession}

theorem WentOn.concat (hwent : WentOn remote moves task u) (m : SessionMove) :
    WentOn remote (moves ++ [m]) task u := by
  obtain ⟨before, after, rfl, hthere⟩ := hwent
  exact ⟨before, after ++ [m], by simp, hthere⟩

/-- The last move may be the one. -/
theorem WentOn.of_concat (hwent : WentOn remote (moves ++ [m]) task u) :
    WentOn remote moves task u ∨
      m = .goOn ∧ play move? (start remote) moves = some u ∧ u.task = task := by
  obtain ⟨before, after, hmoves, hreached, htask⟩ := hwent
  rcases List.eq_nil_or_concat after with rfl | ⟨rest, last, rfl⟩
  · obtain ⟨rfl, heq⟩ := List.append_inj' hmoves rfl
    exact Or.inr ⟨(List.cons.inj heq).1, hreached, htask⟩
  · rw [List.concat_eq_append, ← List.cons_append, ← List.append_assoc] at hmoves
    obtain ⟨rfl, -⟩ := List.append_inj' hmoves rfl
    exact Or.inl ⟨before, rest, rfl, hreached, htask⟩

/-- What is known of the backlog after some moves. -/
structure Books (remote : SocketAddress) (moves : List SessionMove) (t : OneSession)
    (x : Session) : Prop where
  running : t.task.isDone = false → t.drift = 0
  finished : t.task = .finished → ∃ s, WentOn remote moves (.closing .returned) s ∧
    t.drift + .ofNat s.load = 0
  ended : t.task = .ended → ∃ s g, WentOn remote moves (.closing .returned) s ∧
    WentOn remote moves .finished g ∧ t.drift + .ofNat s.load = .ofNat g.waiting
  quiet : ∀ s, WentOn remote moves (.closing .returned) s → s.Idle → t.Quiet x
  emptied : t.Emptied x

/-- One more move is entered in the books. -/
theorem Books.move (hs : Books remote moves s x) (hstands : s.Stands x)
    (reached : play move? (start remote) moves = some s) (hy : t.session? = some y)
    (hhandles : Handles s t x y m) : Books remote (moves ++ [m]) t y := by
  have hx : s.session? = some x := hstands.orderly.found
  have hquiet : ∀ u, WentOn remote (moves ++ [m]) (.closing .returned) u → u.Idle → t.Quiet y := by
    intro u hwent hidle
    rcases hwent.of_concat with hold | ⟨rfl, hlast, htask⟩
    · have hu := hs.quiet u hold hidle
      exact hu.handles (hstands.done hu.done).2 hhandles
    · obtain rfl : s = u := Option.some.inj (reached.symm.trans hlast)
      cases hhandles with
      | leaves _ _ _ hshort => exact absurd htask (hshort rfl)
      | writes hbefore | drops hbefore =>
          rw [htask] at hbefore
          cases hbefore
      | finishes _ hafter hnext hsenders =>
          refine ⟨by rw [hafter]; rfl, by rw [hnext]; rfl, ?_⟩
          rw [Idle, hsenders]
          exact hidle
  have hemptied : t.Emptied y := hs.emptied.handles hhandles
  cases hhandles.advances hx hy with
  | level hdrift htask =>
      rcases htask with htask | ⟨hbusy, hlater⟩
      · refine ⟨?_, ?_, ?_, hquiet, hemptied⟩
        · rw [htask, hdrift]
          exact hs.running
        · rw [htask, hdrift]
          intro hfinished
          obtain ⟨u, hwent, hoff⟩ := hs.finished hfinished
          exact ⟨u, hwent.concat m, hoff⟩
        · rw [htask, hdrift]
          intro hended
          obtain ⟨u, g, hwent, hgone, hoff⟩ := hs.ended hended
          exact ⟨u, g, hwent.concat m, hgone.concat m, hoff⟩
      · refine ⟨fun _ => hdrift.trans (hs.running hbusy), ?_, ?_, hquiet, hemptied⟩ <;>
          · intro htask
            rw [htask] at hlater
            cases hlater
  | finishes hbefore hafter hoff =>
      refine ⟨?_, fun _ => ?_, ?_, hquiet, hemptied⟩
      · rw [hafter]
        nofun
      · exact ⟨s, ⟨moves, [], rfl, reached, hbefore⟩, hoff⟩
      · rw [hafter]
        nofun
  | drops hbefore hafter hdrift =>
      obtain ⟨u, hwent, hoff⟩ := hs.finished hbefore
      refine ⟨?_, ?_, fun _ => ?_, hquiet, hemptied⟩
      · rw [hafter]
        nofun
      · rw [hafter]
        nofun
      · refine ⟨u, s, hwent.concat .goOn, ⟨moves, [], rfl, reached, hbefore⟩, ?_⟩
        rw [hdrift]
        grind

/-- The books are right after every play. -/
theorem books_play (reached : play move? (start remote) moves = some t) :
    ∃ x, t.session? = some x ∧ Books remote moves t x := by
  refine play_concat_induction
    (P := fun moves t => ∃ x, t.session? = some x ∧ Books remote moves t x) ?_ ?_ moves reached
  · have hfound : (start remote).session? = some { id := 1, remote, run := 0 } :=
      (stands_start remote).orderly.found
    refine ⟨_, hfound, ?_, nofun, nofun, ?_, nofun⟩
    · intro _
      have hload : (start remote).load = 0 := by
        rw [load_of_found hfound]
        rfl
      rw [drift, backlog_of_found hfound, hload]
      show (0 : UInt64) - .ofNat 0 = 0
      decide
    · rintro s ⟨before, after, hmoves, -⟩
      simp at hmoves
  · rintro before s m t hreached ⟨x, hx, hs⟩ moved
    obtain ⟨y, -, hstands, -⟩ := stands_play before (stands_start remote) hreached
    obtain rfl : x = y := Option.some.inj (hx.symm.trans hstands.orderly.found)
    obtain ⟨y, hy, hhandles⟩ := handles_move hx moved
    exact ⟨y, hy, hs.move hstands hreached hy hhandles⟩

/-- **What the backlog shows.**  Until the task finishes the session, the backlog is what waits
in the queue and what somebody has in hand.  Afterwards the load of the session at the finish is
missing from it and, once the queue is gone, what waited in the queue at that time stays in it,
all of this as machine words count.  If nobody was on the way to queue a message at the finish, it
is nothing from then on. -/
theorem backlog_of_play {remote : SocketAddress} {moves : List SessionMove} {t : OneSession}
    (reached : play move? (start remote) moves = some t) :
    (t.task.isDone = false → t.load < 2 ^ 64 → t.backlog.toNat = t.load) ∧
    (t.task = .finished → ∃ s, WentOn remote moves (.closing .returned) s ∧
      t.backlog + .ofNat s.load = .ofNat t.load) ∧
    (t.task = .ended → t.waiting = 0 ∧ ∃ s g, WentOn remote moves (.closing .returned) s ∧
      WentOn remote moves .finished g ∧ t.backlog + .ofNat s.load = .ofNat (g.waiting + t.load)) ∧
    (∀ s, WentOn remote moves (.closing .returned) s → s.Idle → t.backlog = 0) := by
  obtain ⟨x, hx, ht⟩ := books_play reached
  refine ⟨?_, ?_, ?_, ?_⟩
  · intro hrunning hbound
    have hlevel : t.backlog = .ofNat t.load := by
      have hdrift := ht.running hrunning
      rw [drift] at hdrift
      grind
    rw [hlevel, UInt64.toNat_ofNat_of_lt' hbound]
  · intro hfinished
    obtain ⟨s, hwent, hoff⟩ := ht.finished hfinished
    refine ⟨s, hwent, ?_⟩
    rw [drift] at hoff
    grind
  · intro hended
    refine ⟨?_, ?_⟩
    · rw [waiting, hx]
      exact congrArg Array.size (ht.emptied hended).1
    · obtain ⟨s, g, hwent, hgone, hoff⟩ := ht.ended hended
      refine ⟨s, g, hwent, hgone, ?_⟩
      rw [drift] at hoff
      rw [UInt64.ofNat_add]
      grind
  · intro s hwent hidle
    rw [backlog_of_found hx, (ht.quiet s hwent hidle).pending]

/-- A message is counted and queued, and then the connection is over before it is written. -/
def unwritten : List SessionMove :=
  [.goOn, .goOn, .callSend "a", .send 0, .send 0, .send 0, .seeEnd] ++ .replicate 5 .goOn

/-- Where some moves of a server's first session lead. -/
def reach (moves : List SessionMove) : OneSession :=
  (play move? (start (.v4 .unspecified 0)) moves).getD (start (.v4 .unspecified 0))

/-- What is left in the queue counts for nothing in the end. -/
theorem backlog_of_play_unwritten :
    (reach unwritten).waiting = 1 ∧ (reach unwritten).backlog.toNat = 1 ∧
      (reach (unwritten ++ [.goOn, .goOn])).isOver = true ∧
      (reach (unwritten ++ [.goOn, .goOn])).backlog = 0 := by
  have hbefore : play move? (start (.v4 .unspecified 0)) unwritten = some (reach unwritten) := by
    cbv
  have hafter : play move? (start (.v4 .unspecified 0)) (unwritten ++ [.goOn, .goOn])
      = some (reach (unwritten ++ [.goOn, .goOn])) := by
    cbv
  have hidle : (reach unwritten).Idle := by
    have hsenders : (reach unwritten).senders = [.returned] := by cbv
    rw [Idle, hsenders]
    simp [Sending.isUnderWay]
  have hload : (reach unwritten).load = 1 := by cbv
  refine ⟨by cbv, ?_, by cbv, ?_⟩
  · have hlevel := (backlog_of_play hbefore).1 (by cbv)
    rw [hload] at hlevel
    exact hlevel (by decide)
  · exact (backlog_of_play hafter).2.2.2 _ ⟨unwritten, [.goOn], rfl, hbefore, by cbv⟩ hidle

/-- A message is counted before the session is finished, and the queue does not take it. -/
def countedBefore : List SessionMove :=
  [.goOn, .goOn, .callSend "a", .send 0, .send 0, .seeEnd] ++ .replicate 7 .goOn ++
    [.send 0, .send 0]

/-- A message is counted after the session has been finished, and the queue still takes it. -/
def countedAfter : List SessionMove :=
  [.goOn, .goOn, .callSend "a", .send 0, .seeEnd] ++ .replicate 6 .goOn ++
    [.send 0, .send 0, .goOn]

/-- With everybody done and nothing on its way, the backlog is below nothing for the one and does
not go away for the other. -/
theorem backlog_astray :
    (∃ s x, play move? (start (.v4 .unspecified 0)) countedBefore = some s ∧ s.isOver = true ∧
      s.load = 0 ∧ s.session? = some x ∧ x.state = .closed ∧ x.pending.toNat = 2 ^ 64 - 1) ∧
    (∃ s x, play move? (start (.v4 .unspecified 0)) countedAfter = some s ∧ s.isOver = true ∧
      s.load = 0 ∧ s.session? = some x ∧ x.state = .closed ∧ x.pending = 1) := by
  constructor
  · refine ⟨reach countedBefore, _, by cbv, by cbv, by cbv, rfl, by cbv, by cbv⟩
  · refine ⟨reach countedAfter, _, by cbv, by cbv, by cbv, rfl, by cbv, by cbv⟩

end OneSession

end Interleaving

end Lifecast
