/-
What was sent to a session is what comes out of it.

A run is looked at from one session.  Each of its calls is written down with the hub that
it found and the answer that it gave (`history`), and from such a record three lists are
read off: what the call took out of the queue, what it threw away with the queue, and what
the session was due from it.  The last is said without the queue: a message sent to the
session, or to all members while it was one, while it was not closing and still received
from.

One call balances (`balance_record`): what it takes out and what is left is what was there
and what was due.  Over a run the lists of the calls only have to be put together, but in
the right order: what is thrown away must come after all that was taken.  It does, because
a queue is thrown away whole and nothing gets in or out after that (`Settled`).
-/
import Mathlib
import Lifecast.Proofs.Session.Members

namespace Lifecast

namespace Hub

/-! ### One session seen from outside -/

/-- The messages that wait in the queue of a session. -/
def queueOf (hub : Hub) (h : Handle) : List String :=
  match hub.sessions[h]? with
  | none => []
  | some s => s.queue.toList

/-- Does a session take messages?  It is not closing, and its receiving end exists. -/
def takes (hub : Hub) (h : Handle) : Bool :=
  hub.sessions[h]?.any fun s => !hub.isClosing s && s.receiving

/-- Has the receiving end of a session been dropped? -/
def dropped (hub : Hub) (h : Handle) : Bool :=
  hub.sessions[h]?.any fun s => !s.receiving

/-! ### Runs, call by call -/

/-- A call of a run: the hub that it found, and what it answered. -/
structure Step where
  before : Hub
  call : Call
  answer : Answer

/-- A call as it is made now. -/
def record (hub : Hub) (call : Call) : Step :=
  { before := hub, call, answer := (hub.perform call).1 }

namespace Step

/-- The hub that the call left behind. -/
def after (step : Step) : Hub :=
  (step.before.perform step.call).2

/-- The messages that the call took out of the queue of a session. -/
def taken (h : Handle) (step : Step) : List String :=
  match step.call, step.answer with
  | .receive i _, .messages ms => if i = h then ms else []
  | _, _ => []

/-- The messages that the call threw away with the queue of a session. -/
def discarded (h : Handle) (step : Step) : List String :=
  if step.call = .dropQueue h then step.before.queueOf h else []

/-- The messages that the call should put into the queue of a session. -/
def due (h : Handle) (step : Step) : List String :=
  if step.before.takes h then
    match step.call with
    | .send i message => if i = h then [message] else []
    | .broadcast message => if step.before.isMember h then [message] else []
    | _ => []
  else []

/-- Is the queue of a session any business of the call? -/
def concerns (h : Handle) (step : Step) : Bool :=
  match step.call with
  | .send i _ | .receive i _ | .dropQueue i => i = h
  | .broadcast _ => step.before.isMember h
  | _ => false

end Step

/-- The calls of a run. -/
def history (hub : Hub) : List Call → List Step
  | [] => []
  | call :: rest => hub.record call :: history (hub.record call).after rest

theorem history_concat (hub : Hub) (calls : List Call) (call : Call) :
    hub.history (calls ++ [call])
      = hub.history calls ++ [(hub.performAll calls).record call] := by
  induction calls generalizing hub with
  | nil => rfl
  | cons first rest ih =>
      rw [List.cons_append, history, ih]
      rfl

/-! ### One call -/

theorem queueOf_of_some {hub : Hub} {h : Handle} {s : Session} (hs : hub.sessions[h]? = some s) :
    hub.queueOf h = s.queue.toList := by
  simp [queueOf, hs]

theorem takes_of_some {hub : Hub} {h : Handle} {s : Session} (hs : hub.sessions[h]? = some s) :
    hub.takes h = (!hub.isClosing s && s.receiving) := by
  simp [takes, hs]

/-- A message that is taken comes behind all others. -/
theorem queue_offered (hub : Hub) (message : String) (s : Session) :
    (hub.offered message s).queue.toList
      = s.queue.toList ++ if !hub.isClosing s && s.receiving then [message] else [] := by
  rw [offered_eq]
  split
  · exact Array.toList_push
  · exact (List.append_nil _).symm

/-- What is not there holds nothing, and what is made begins with nothing. -/
theorem queueOf_after_of_none {hub : Hub} (hreg : hub.Registered) (call : Call) {h : Handle}
    (hs : hub.sessions[h]? = none) : (hub.record call).after.queueOf h = [] := by
  have hborn : (hub.record call).after.sessions[h]? = hub.born call h := by
    show (hub.perform call).2.sessions[h]? = _
    rw [getElem?_perform hreg.handles_nodup, hs]
    rfl
  unfold queueOf
  rw [hborn]
  cases call with
  | make id remote =>
      by_cases hlast : h = hub.sessions.size
      · rw [born, if_pos hlast]
      · rw [born, if_neg hlast]
  | _ => rfl

theorem queueOf_after_of_some {hub : Hub} (hreg : hub.Registered) (call : Call) {h : Handle}
    {s : Session} (hs : hub.sessions[h]? = some s) :
    (hub.record call).after.queueOf h = (hub.effect call h s).queue.toList := by
  apply queueOf_of_some
  show (hub.perform call).2.sessions[h]? = _
  rw [getElem?_perform hreg.handles_nodup, hs]
  rfl

/-- A call that is no business of a session takes nothing out, throws nothing away and
brings nothing. -/
theorem Step.nothing_of_not_concerns {step : Step} {h : Handle} (hnot : step.concerns h = false) :
    step.taken h = [] ∧ step.discarded h = [] ∧ step.due h = [] := by
  obtain ⟨hub, call, answer⟩ := step
  refine ⟨?_, ?_, ?_⟩
  · unfold taken
    split
    · next i most ms hcall _ =>
        obtain rfl : call = .receive i most := hcall
        exact if_neg (of_decide_eq_false hnot)
    · rfl
  · refine if_neg ?_
    intro hcall
    obtain rfl : call = .dropQueue h := hcall
    exact of_decide_eq_false hnot rfl
  · unfold due
    split
    · cases call with
      | send i message => exact if_neg (of_decide_eq_false hnot)
      | broadcast message => exact if_neg (Bool.eq_false_iff.mp hnot)
      | _ => rfl
    · rfl

/-- Nor does it change what waits: closing and cancelling touch no queue. -/
theorem queue_effect_of_not_concerns {hub : Hub} {call : Call} {h : Handle}
    (hnot : (hub.record call).concerns h = false) (s : Session) :
    (hub.effect call h s).queue = s.queue := by
  cases call with
  | nextId | make | register | remove | snapshot | cancelRun | isCancelled | dropRegistry => rfl
  | send i message | receive i most | dropQueue i =>
      have hne : ¬ i = h := of_decide_eq_false hnot
      rw [effect, if_neg hne]
  | broadcast message =>
      have hout : ¬ hub.isMember h = true := Bool.eq_false_iff.mp hnot
      rw [effect, if_neg hout]
  | close i | closeAll =>
      rw [effect]
      split
      · exact s.closed_keeps.2.1
      · rfl
  | cancel i =>
      rw [effect]
      split
      · rfl
      · rfl

/-- What a call answers to whoever receives. -/
theorem taken_receive (hub : Hub) (h : Handle) (most : Option Nat) :
    (hub.record (.receive h most)).taken h
      = match hub.sessions[h]? with
        | none => []
        | some s => (s.dequeue (most.getD s.queue.size)).1 := by
  have hanswer : (hub.record (.receive h most)).taken h
      = (hub.receive h (most.getD (hub.waiting h))).1 := if_pos rfl
  rw [hanswer]
  cases hs : hub.sessions[h]? with
  | none => simp [receive, updateWith, hs]
  | some s => simp [receive, updateWith, waiting, hs]

/-- Oldest first: what is taken out stood before what is left. -/
theorem dequeue_append (s : Session) (most : Nat) :
    (s.dequeue most).1 ++ (s.dequeue most).2.queue.toList = s.queue.toList := by
  have hrest : (s.queue.toList.drop most).length ≤ s.queue.size - most := by
    simp
  simp [Session.dequeue, List.take_of_length_le hrest]

/-- A handle that no session has holds nothing, and a call finds nothing to do with it. -/
theorem balance_of_none {hub : Hub} (hreg : hub.Registered) (call : Call) {h : Handle}
    (hs : hub.sessions[h]? = none) :
    (hub.record call).taken h ++ (hub.record call).discarded h
        ++ (hub.record call).after.queueOf h
      = hub.queueOf h ++ (hub.record call).due h := by
  have hqueue : hub.queueOf h = [] := by
    simp [queueOf, hs]
  have htaken : (hub.record call).taken h = [] := by
    cases call with
    | receive i most =>
        by_cases heq : i = h
        · rw [heq, taken_receive, hs]
        · exact if_neg heq
    | _ => rfl
  have hdiscarded : (hub.record call).discarded h = [] := by
    unfold Step.discarded
    split
    · exact hqueue
    · rfl
  have hdue : (hub.record call).due h = [] := by
    have htakes : hub.takes h = false := by
      simp [takes, hs]
    exact if_neg (by simp [record, htakes])
  rw [queueOf_after_of_none hreg call hs, hqueue, htaken, hdiscarded, hdue]
  rfl

/-- A call that is no business of a session leaves its queue alone. -/
theorem balance_of_not_concerns {hub : Hub} (hreg : hub.Registered) {call : Call} {h : Handle}
    {s : Session} (hs : hub.sessions[h]? = some s)
    (hnot : (hub.record call).concerns h = false) :
    (hub.record call).taken h ++ (hub.record call).discarded h
        ++ (hub.record call).after.queueOf h
      = hub.queueOf h ++ (hub.record call).due h := by
  obtain ⟨htaken, hdiscarded, hdue⟩ := Step.nothing_of_not_concerns hnot
  rw [htaken, hdiscarded, hdue, queueOf_after_of_some hreg call hs,
    queue_effect_of_not_concerns hnot, queueOf_of_some hs]
  exact (List.append_nil _).symm

/-- Of the calls that are its business, two bring a message, one takes some out and one
throws all away. -/
theorem balance_of_concerns {hub : Hub} (hreg : hub.Registered) {call : Call} {h : Handle}
    {s : Session} (hs : hub.sessions[h]? = some s)
    (hconcerns : (hub.record call).concerns h = true) :
    (hub.record call).taken h ++ (hub.record call).discarded h
        ++ (hub.record call).after.queueOf h
      = hub.queueOf h ++ (hub.record call).due h := by
  rw [queueOf_after_of_some hreg call hs, queueOf_of_some hs]
  cases call with
  | nextId | make | register | remove | snapshot | cancelRun | isCancelled | dropRegistry
  | close | cancel | closeAll => cases hconcerns
  | send i message =>
      obtain rfl : i = h := of_decide_eq_true hconcerns
      have hdue : (hub.record (.send i message)).due i
          = if !hub.isClosing s && s.receiving then [message] else [] := by
        rw [← takes_of_some hs]
        simp [Step.due, record]
      rw [effect, if_pos rfl, queue_offered, hdue]
      rfl
  | broadcast message =>
      have hmember : hub.isMember h = true := hconcerns
      have hdue : (hub.record (.broadcast message)).due h
          = if !hub.isClosing s && s.receiving then [message] else [] := by
        rw [← takes_of_some hs]
        simp [Step.due, record, hmember]
      rw [effect, if_pos hmember, queue_offered, hdue]
      rfl
  | receive i most =>
      obtain rfl : i = h := of_decide_eq_true hconcerns
      have hdue : (hub.record (.receive i most)).due i = [] := ite_self []
      have hboth := dequeue_append s (most.getD s.queue.size)
      rw [taken_receive, hs, effect, if_pos rfl, hdue]
      simpa [Step.discarded, record] using hboth
  | dropQueue i =>
      obtain rfl : i = h := of_decide_eq_true hconcerns
      have hdiscarded : (hub.record (.dropQueue i)).discarded i = hub.queueOf i := if_pos rfl
      have hdue : (hub.record (.dropQueue i)).due i = [] := ite_self []
      have htaken : (hub.record (.dropQueue i)).taken i = [] := rfl
      rw [htaken, hdiscarded, effect, if_pos rfl, hdue, queueOf_of_some hs]
      rfl

/-- **A call balances.**  What it takes out, what it throws away and what is left is what
was there and what was due. -/
theorem balance_record {hub : Hub} (hreg : hub.Registered) (call : Call) (h : Handle) :
    (hub.record call).taken h ++ (hub.record call).discarded h
        ++ (hub.record call).after.queueOf h
      = hub.queueOf h ++ (hub.record call).due h := by
  cases hs : hub.sessions[h]? with
  | none => exact balance_of_none hreg call hs
  | some s =>
      cases hconcerns : (hub.record call).concerns h with
      | false => exact balance_of_not_concerns hreg hs hconcerns
      | true => exact balance_of_concerns hreg hs hconcerns

/-! ### The receiving end -/

/-- Only dropping the queue drops the receiving end, and nothing brings it back. -/
theorem receiving_effect (hub : Hub) (call : Call) (h : Handle) (s : Session) :
    (hub.effect call h s).receiving = (s.receiving && !(call == .dropQueue h)) := by
  have hkept : ∀ (c : Prop) [Decidable c] (t : Session), t.receiving = s.receiving →
      (if c then t else s).receiving = (s.receiving && true) := by
    intro c _ t ht
    rw [Bool.and_true]
    split
    · exact ht
    · rfl
  cases call with
  | nextId | make | register | remove | snapshot | cancelRun | isCancelled | dropRegistry =>
      exact (Bool.and_true _).symm
  | send i message | broadcast message => exact hkept _ _ (hub.offered_keeps message s).2
  | receive i most => exact hkept _ _ rfl
  | close i | closeAll => exact hkept _ _ s.closed_keeps.2.2
  | cancel i => exact hkept _ _ rfl
  | dropQueue i =>
      rw [effect]
      by_cases heq : i = h
      · simp [heq, Session.dropQueue]
      · simp [heq]

theorem dropped_record {hub : Hub} (hreg : hub.Registered) (call : Call) (h : Handle) :
    (hub.record call).after.dropped h
      = (hub.dropped h || (call == .dropQueue h && hub.sessions[h]?.isSome)) := by
  have hafter : (hub.record call).after.sessions[h]?
      = (hub.sessions[h]?.map (hub.effect call h)).or (hub.born call h) :=
    getElem?_perform hreg.handles_nodup call h
  unfold dropped
  rw [hafter]
  cases hs : hub.sessions[h]? with
  | none =>
      -- A session that is made is received from.
      cases call with
      | make id remote =>
          by_cases hlast : h = hub.sessions.size
          · simp [born, hlast]
          · simp [born, hlast]
      | _ => simp [born]
  | some s =>
      have hsome := hub.receiving_effect call h s
      simp [hsome]

/-! ### Every broadcast -/

/-- A broadcast answers how many sessions are members. -/
theorem answer_broadcast {hub : Hub} (hreg : hub.Registered) (message : String) :
    (hub.record (.broadcast message)).answer
      = .number ((List.range hub.sessions.size).countP hub.isMember) :=
  congrArg Answer.number hreg.length_snapshot

/-! ### Runs -/

/-- What a run has kept in order for a session: nothing is thrown away while the session
is received from, nothing waits when it no longer is, and all of it is what was due. -/
structure Settled (hub : Hub) (steps : List Step) (h : Handle) : Prop where
  balanced : steps.flatMap (·.taken h) ++ steps.flatMap (·.discarded h) ++ hub.queueOf h
    = steps.flatMap (·.due h)
  nothing_discarded : hub.dropped h = false → steps.flatMap (·.discarded h) = []
  nothing_waits : hub.dropped h = true → hub.queueOf h = []

/-- Who is no longer received from gets nothing. -/
theorem due_of_dropped {hub : Hub} {h : Handle} (hdropped : hub.dropped h = true) (call : Call) :
    (hub.record call).due h = [] := by
  have htakes : hub.takes h = false := by
    cases hs : hub.sessions[h]? with
    | none => simp [takes, hs]
    | some s =>
        have hreceiving : s.receiving = false := by
          simpa [dropped, hs] using hdropped
        rw [takes_of_some hs, hreceiving, Bool.and_false]
  exact if_neg (by simp [record, htakes])

/-- While the session is received from, nothing has been thrown away. -/
theorem discarded_of_not_dropped {hub : Hub} (hreg : hub.Registered) {call : Call} {h : Handle}
    (hdropped : (hub.record call).after.dropped h = false) :
    hub.dropped h = false ∧ (hub.record call).discarded h = [] := by
  rw [dropped_record hreg, Bool.or_eq_false_iff] at hdropped
  refine ⟨hdropped.1, ?_⟩
  by_cases hcall : call = .dropQueue h
  · have hnone : hub.sessions[h]? = none := by
      simpa [hcall] using hdropped.2
    have hqueue : hub.queueOf h = [] := by
      simp [queueOf, hnone]
    exact (if_pos hcall).trans hqueue
  · exact if_neg hcall

/-- A queue is thrown away whole. -/
theorem queueOf_after_dropQueue {hub : Hub} (hreg : hub.Registered) (h : Handle) :
    (hub.record (.dropQueue h)).after.queueOf h = [] := by
  cases hs : hub.sessions[h]? with
  | none => exact queueOf_after_of_none hreg _ hs
  | some s =>
      rw [queueOf_after_of_some hreg _ hs, effect, if_pos rfl]
      rfl

theorem Settled.concat {hub : Hub} {steps : List Step} {h : Handle} (hreg : hub.Registered)
    (hsettled : hub.Settled steps h) (call : Call) :
    (hub.record call).after.Settled (steps ++ [hub.record call]) h := by
  have hcall := balance_record hreg call h
  cases hdropped : hub.dropped h with
  | true =>
      -- Nothing was there and nothing was due, so nothing is taken, thrown away or left.
      rw [hsettled.nothing_waits hdropped, due_of_dropped hdropped call, List.append_nil,
        List.append_eq_nil_iff, List.append_eq_nil_iff] at hcall
      obtain ⟨⟨htaken, hdiscarded⟩, hafter⟩ := hcall
      have hbalanced := hsettled.balanced
      rw [hsettled.nothing_waits hdropped] at hbalanced
      refine ⟨?_, ?_, fun _ => hafter⟩
      · simpa [htaken, hdiscarded, hafter, due_of_dropped hdropped call] using hbalanced
      · intro hreceiving
        rw [(discarded_of_not_dropped hreg hreceiving).1] at hdropped
        cases hdropped
  | false =>
      have hnothing := hsettled.nothing_discarded hdropped
      have hbalanced := hsettled.balanced
      rw [hnothing, List.append_nil] at hbalanced
      refine ⟨?_, ?_, ?_⟩
      · have hjoined := congrArg (steps.flatMap (·.taken h) ++ ·) hcall
        simpa [hnothing, ← hbalanced] using hjoined
      · intro hreceiving
        simp [hnothing, (discarded_of_not_dropped hreg hreceiving).2]
      · intro hgone
        have hcall : call = .dropQueue h := by
          rw [dropped_record hreg, hdropped, Bool.false_or, Bool.and_eq_true] at hgone
          exact eq_of_beq hgone.1
        rw [hcall]
        exact queueOf_after_dropQueue hreg h

theorem settled_performAll (calls : List Call) (h : Handle) :
    (performAll {} calls).Settled (history {} calls) h := by
  induction calls using List.reverseRecOn with
  | nil => exact ⟨rfl, fun _ => rfl, fun _ => rfl⟩
  | append_singleton calls call ih =>
      rw [performAll_concat, history_concat]
      exact ih.concat (registered_performAll calls) call

/-- Each step of a run is a call made at a hub with its members in order. -/
theorem registered_of_mem_history {hub : Hub} (hreg : hub.Registered) {calls : List Call}
    {step : Step} (hstep : step ∈ hub.history calls) :
    step.before.Registered ∧ step = step.before.record step.call := by
  induction calls generalizing hub with
  | nil => cases hstep
  | cons call rest ih =>
      rcases List.mem_cons.mp hstep with rfl | hlater
      · exact ⟨hreg, rfl⟩
      · exact ih (registered_perform hreg call) hlater

/-- **Every message that was due to a session comes out of its queue once and in order,
and no call touches a queue that is not its business.** -/
theorem delivered_eq_due (calls : List Call) :
    (∀ h, (history {} calls).flatMap (·.taken h)
        ++ (if (performAll {} calls).dropped h then (history {} calls).flatMap (·.discarded h)
            else (performAll {} calls).queueOf h)
      = (history {} calls).flatMap (·.due h)) ∧
    ∀ step ∈ history {} calls,
      (∀ message, step.call = .broadcast message →
        step.answer
          = .number ((List.range step.before.sessions.size).countP step.before.isMember)) ∧
      ∀ h, step.concerns h = false → step.after.queueOf h = step.before.queueOf h := by
  constructor
  · intro h
    have hsettled := settled_performAll calls h
    have hbalanced := hsettled.balanced
    cases hdropped : (performAll {} calls).dropped h with
    | true =>
        rw [hsettled.nothing_waits hdropped, List.append_nil] at hbalanced
        exact hbalanced
    | false =>
        rw [hsettled.nothing_discarded hdropped, List.append_nil] at hbalanced
        exact hbalanced
  · intro step hstep
    obtain ⟨hreg, hrecord⟩ := registered_of_mem_history registered_empty hstep
    constructor
    · intro message hcall
      rw [hrecord, hcall]
      exact answer_broadcast hreg message
    · intro h hnot
      have hbalance := balance_record hreg step.call h
      rw [← hrecord] at hbalance
      obtain ⟨htaken, hdiscarded, hdue⟩ := Step.nothing_of_not_concerns hnot
      simpa [htaken, hdiscarded, hdue] using hbalance

/-- Two members get a message; then one is closed with a message in its queue, and the queue
of the other is dropped. -/
def closedAndDropped : List Call :=
  let here := SocketAddress.v4 .unspecified 0
  [.make none here, .make none here, .register 0, .register 1, .broadcast "a",
    .receive 0 (some 1), .send 0 "b", .close 0, .dropQueue 1]

theorem delivered_eq_due_closedAndDropped :
    (history {} closedAndDropped).flatMap (·.taken 0)
        ++ (performAll {} closedAndDropped).queueOf 0 = ["a", "b"] ∧
    (history {} closedAndDropped).flatMap (·.taken 1)
        ++ (history {} closedAndDropped).flatMap (·.discarded 1) = ["a"] ∧
    ((performAll {} closedAndDropped).record (.broadcast "c")).answer = .number 1 ∧
    ((performAll {} closedAndDropped).record (.broadcast "c")).concerns 0 = false ∧
    ((performAll {} closedAndDropped).record (.broadcast "c")).after.queueOf 0 = ["b"] := by
  have hdue : (history {} closedAndDropped).flatMap (·.due 0) = ["a", "b"] ∧
      (history {} closedAndDropped).flatMap (·.due 1) = ["a"] := by cbv
  have hdropped : (performAll {} closedAndDropped).dropped 0 = false ∧
      (performAll {} closedAndDropped).dropped 1 = true := by cbv
  have hlast : (performAll {} closedAndDropped).record (.broadcast "c")
      ∈ history {} (closedAndDropped ++ [.broadcast "c"]) := by
    rw [history_concat]
    exact List.mem_append_right _ (List.mem_singleton_self _)
  have hleft : (performAll {} closedAndDropped).queueOf 0 = ["b"] ∧
      (performAll {} closedAndDropped).isMember 0 = false := by cbv
  have hmembers : (List.range (performAll {} closedAndDropped).sessions.size).countP
      (performAll {} closedAndDropped).isMember = 1 := by cbv
  have hqueues := (delivered_eq_due closedAndDropped).1
  obtain ⟨hanswer, hframe⟩ := (delivered_eq_due (closedAndDropped ++ [.broadcast "c"])).2 _ hlast
  refine ⟨?_, ?_, ?_, hleft.2, ?_⟩
  · have hfirst := hqueues 0
    rw [hdropped.1, hdue.1] at hfirst
    exact hfirst
  · have hsecond := hqueues 1
    rw [hdropped.2, hdue.2] at hsecond
    exact hsecond
  · rw [hanswer "c" rfl]
    exact congrArg Answer.number hmembers
  · exact (hframe 0 hleft.2).trans hleft.1

end Hub

end Lifecast
