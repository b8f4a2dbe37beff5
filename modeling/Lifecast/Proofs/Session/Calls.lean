/-
What a call on a hub does, said once for all calls.

A call makes at most one new session (`born`), changes each session that is there by a
step of its own (`effect`), and changes the list of members.  `getElem?_perform` and
`members_perform` say so of every call, and no proof about runs opens a call again.

Whatever closes a session does the same to it (`Session.closed`): the first call leaves
the open phases, latches and cancels, and any further call finds the latch and does
nothing.  That is why closing several sessions needs no care about which come twice,
while sending to several needs them to be different.
-/
import Mathlib.Data.List.Nodup
import Lifecast.Session.Call

namespace Lifecast

namespace Session

/-! ### Closing one session -/

/-- The session after a whole call that closes it. -/
def closed (s : Session) : Session :=
  if s.latched then s else s.latch.2.leaveOpen.cancel

/-- Leaving the open phases changes nothing but the phase. -/
theorem leaveOpen_eq (s : Session) : s.leaveOpen = { s with state := s.leaveOpen.state } := by
  cases h : s.state <;> simp [leaveOpen, closeFrom, Phase.exchange, h]

theorem closed_of_latched {s : Session} (h : s.latched = true) : s.closed = s := by
  rw [closed, if_pos h]

/-- Closing sets the latch, cancels and moves the phase. -/
theorem closed_of_not_latched {s : Session} (h : s.latched = false) :
    s.closed
      = { s with state := s.latch.2.leaveOpen.state, latched := true, cancelled := true } := by
  rw [closed, if_neg (by simp [h]), leaveOpen_eq]
  rfl

@[simp] theorem latched_closed (s : Session) : s.closed.latched = true := by
  cases h : s.latched with
  | true => rw [closed_of_latched h, h]
  | false => rw [closed_of_not_latched h]

@[simp] theorem closed_closed (s : Session) : s.closed.closed = s.closed :=
  closed_of_latched s.latched_closed

/-- Closing keeps what a session is and what it holds. -/
theorem closed_keeps (s : Session) :
    s.closed.id = s.id ∧ s.closed.queue = s.queue ∧ s.closed.receiving = s.receiving := by
  cases h : s.latched with
  | true =>
      rw [closed_of_latched h]
      exact ⟨rfl, rfl, rfl⟩
  | false =>
      rw [closed_of_not_latched h]
      exact ⟨rfl, rfl, rfl⟩

end Session

namespace Hub

theorem update_eq_self {hub : Hub} {h : Handle} {step : Session → Session}
    (hvain : ∀ s, hub.sessions[h]? = some s → step s = s) : hub.update h step = hub := by
  have hsame : hub.sessions.modify h step = hub.sessions := by
    apply Array.ext_getElem?
    intro i
    rw [Array.getElem?_modify]
    split
    · next heq =>
        subst heq
        cases hs : hub.sessions[h]? with
        | none => rfl
        | some s => exact congrArg some (hvain s hs)
    · rfl
  unfold update
  rw [hsame]

/-- Nothing changes where there is no session. -/
theorem update_of_none {hub : Hub} {h : Handle} (hs : hub.sessions[h]? = none)
    (step : Session → Session) : hub.update h step = hub :=
  update_eq_self (by simp [hs])

theorem close_of_none {hub : Hub} {h : Handle} (hs : hub.sessions[h]? = none) :
    hub.close h = hub := by
  have hlatch : hub.updateWith h true Session.latch = (true, hub) := by
    simp [updateWith, hs, update_of_none hs]
  unfold close
  rw [hlatch]

/-- The first call to close a session takes its id out of the registry. -/
theorem close_of_some {hub : Hub} {h : Handle} {s : Session} (hs : hub.sessions[h]? = some s) :
    hub.close h
      = { hub.update h Session.closed with
          members := if s.latched then hub.members else without hub.members s.id } := by
  have hlatch : hub.updateWith h true Session.latch
      = (s.latched, hub.update h fun s => s.latch.2) := by
    simp [updateWith, hs, Session.latch]
  unfold close
  rw [hlatch]
  cases hl : s.latched with
  | true =>
      have hsame : hub.update h (fun s => s.latch.2) = hub.update h Session.closed := by
        apply update_congr
        intro t ht
        obtain rfl : s = t := Option.some.inj (hs.symm.trans ht)
        show { s with latched := true } = s.closed
        rw [Session.closed_of_latched hl, ← hl]
      show hub.update h (fun s => s.latch.2) = _
      rw [hsame]
      rfl
  | false =>
      have hfound : ((hub.update h fun s => s.latch.2).update h Session.leaveOpen).sessions[h]?
          = some s.latch.2.leaveOpen := by
        simp [hs]
      have hid : s.latch.2.leaveOpen.id = s.id := s.latch.2.id_leaveOpen
      have hsame : hub.update h (fun s => s.latch.2.leaveOpen.cancel)
          = hub.update h Session.closed := by
        apply update_congr
        intro t ht
        obtain rfl : s = t := Option.some.inj (hs.symm.trans ht)
        rw [Session.closed, if_neg (by simp [hl])]
      simp only [hfound, hid]
      -- The registry and the sessions are changed independently of each other.
      show ((((hub.update h fun s => s.latch.2).update h Session.leaveOpen).update h
        Session.cancel).remove s.id).2 = _
      rw [update_update, update_update, hsame]
      rfl

theorem getElem?_close (hub : Hub) (h i : Handle) :
    (hub.close h).sessions[i]?
      = if h = i then hub.sessions[i]?.map Session.closed else hub.sessions[i]? := by
  cases hs : hub.sessions[h]? with
  | none =>
      rw [close_of_none hs]
      split
      · next heq =>
          subst heq
          rw [hs]
          rfl
      · rfl
  | some s =>
      rw [close_of_some hs]
      exact getElem?_update hub h i Session.closed

theorem members_close (hub : Hub) (h : Handle) :
    (hub.close h).members
      = match hub.sessions[h]? with
        | none => hub.members
        | some s => if s.latched then hub.members else without hub.members s.id := by
  cases hs : hub.sessions[h]? with
  | none => rw [close_of_none hs]
  | some s => rw [close_of_some hs]

theorem members_close_sublist (hub : Hub) (h : Handle) :
    (hub.close h).members.Sublist hub.members := by
  rw [members_close]
  split
  · exact List.Sublist.refl _
  · split
    · exact List.Sublist.refl _
    · exact List.filter_sublist

/-! ### Closing several sessions -/

theorem getElem?_closeEach (hub : Hub) (hs : List Handle) (i : Handle) :
    (hub.closeEach hs).sessions[i]?
      = if i ∈ hs then hub.sessions[i]?.map Session.closed else hub.sessions[i]? := by
  induction hs generalizing hub with
  | nil => simp [closeEach]
  | cons h rest ih =>
      show ((hub.close h).closeEach rest).sessions[i]? = _
      rw [ih, getElem?_close]
      by_cases hhead : h = i
      · subst hhead
        by_cases hrest : h ∈ rest
        · simp [hrest, Function.comp_def]
        · simp [hrest]
      · have hne : i ≠ h := fun heq => hhead heq.symm
        simp [hhead, hne]

theorem members_closeEach_sublist (hub : Hub) (hs : List Handle) :
    (hub.closeEach hs).members.Sublist hub.members := by
  induction hs generalizing hub with
  | nil => exact List.Sublist.refl _
  | cons h rest ih => exact (ih (hub.close h)).trans (hub.members_close_sublist h)

/-! ### Sending -/

/-- A session that takes a message only changes its backlog and its queue. -/
theorem accept_of_receiving {s : Session} (h : s.receiving = true) (message : String) :
    accept message s = { s with pending := s.pending + 1, queue := s.queue.push message } := by
  simp [accept, Session.enqueue, Session.countUp, h]

/-- A session whose receiving end is gone is as before: counted up and down again. -/
theorem accept_of_not_receiving {s : Session} (h : s.receiving = false) (message : String) :
    accept message s = s := by
  have hrefused : s.countUp.enqueue message = (false, s.countUp) := by
    simp [Session.enqueue, Session.countUp, h]
  unfold accept
  rw [hrefused]
  show { s with pending := s.pending + 1 - 1 } = s
  rw [UInt64.add_sub_cancel]

/-- What sending a message does to the session that it is sent to. -/
def offered (hub : Hub) (message : String) (s : Session) : Session :=
  if hub.isClosing s then s else accept message s

/-- A message is taken by a session that is not closing and still received from; any
other is as before. -/
theorem offered_eq (hub : Hub) (message : String) (s : Session) :
    hub.offered message s
      = if !hub.isClosing s && s.receiving then
          { s with pending := s.pending + 1, queue := s.queue.push message }
        else s := by
  unfold offered
  by_cases hclosing : hub.isClosing s = true
  · rw [if_pos hclosing, if_neg (by simp [hclosing])]
  · rw [if_neg hclosing]
    by_cases hreceiving : s.receiving = true
    · rw [if_pos (by simp [hclosing, hreceiving]), accept_of_receiving hreceiving]
    · rw [if_neg (by simp [hreceiving]), accept_of_not_receiving (by simpa using hreceiving)]

theorem offered_keeps (hub : Hub) (message : String) (s : Session) :
    (hub.offered message s).id = s.id ∧ (hub.offered message s).receiving = s.receiving := by
  rw [offered_eq]
  split
  · exact ⟨rfl, rfl⟩
  · exact ⟨rfl, rfl⟩

/-- Sending changes the session that it is sent to and nothing else. -/
theorem send_eq_update (hub : Hub) (h : Handle) (message : String) :
    hub.send h message = hub.update h (hub.offered message) := by
  unfold send
  split
  · next hclosing =>
      refine (update_eq_self ?_).symm
      intro s hs
      exact if_pos (by simpa [isClosingAt, hs] using hclosing)
  · next hopen =>
      apply update_congr
      intro s hs
      exact (if_neg (by simpa [isClosingAt, hs] using hopen)).symm

theorem getElem?_send (hub : Hub) (h i : Handle) (message : String) :
    (hub.send h message).sessions[i]?
      = if h = i then hub.sessions[i]?.map (hub.offered message) else hub.sessions[i]? := by
  rw [send_eq_update, getElem?_update]

theorem members_send (hub : Hub) (h : Handle) (message : String) :
    (hub.send h message).members = hub.members ∧
      (hub.send h message).cancelledRuns = hub.cancelledRuns := by
  unfold send
  split
  · exact ⟨rfl, rfl⟩
  · exact ⟨rfl, rfl⟩

theorem members_sendAll (hub : Hub) (hs : List Handle) (message : String) :
    (hub.sendAll hs message).members = hub.members := by
  induction hs generalizing hub with
  | nil => rfl
  | cons h rest ih => exact (ih (hub.send h message)).trans (hub.members_send h message).1

/-- Of several different sessions, each is offered the message once. -/
theorem getElem?_sendAll (hub : Hub) {hs : List Handle} (hnodup : hs.Nodup) (i : Handle)
    (message : String) :
    (hub.sendAll hs message).sessions[i]?
      = if i ∈ hs then hub.sessions[i]?.map (hub.offered message) else hub.sessions[i]? := by
  induction hs generalizing hub with
  | nil => simp [sendAll]
  | cons h rest ih =>
      obtain ⟨hnotin, hrest⟩ := List.nodup_cons.mp hnodup
      have hsame : (hub.send h message).offered message = hub.offered message := by
        funext s
        unfold offered isClosing isCancelled
        rw [(hub.members_send h message).2]
      show ((hub.send h message).sendAll rest message).sessions[i]? = _
      rw [ih (hub.send h message) hrest, hsame, getElem?_send]
      by_cases hhead : h = i
      · subst hhead
        simp [hnotin]
      · have hne : i ≠ h := fun heq => hhead heq.symm
        simp [hhead, hne]

/-! ### Every call -/

/-- Is the session with a handle a member? -/
def isMember (hub : Hub) (h : Handle) : Bool :=
  hub.members.any (·.2 = h)

theorem mem_snapshot (hub : Hub) (h : Handle) : h ∈ hub.snapshot ↔ hub.isMember h = true := by
  unfold snapshot isMember
  rw [List.mem_mergeSort, List.mem_map, List.any_eq_true]
  simp

/-- The session that a call makes, by the handle it gets. -/
def born (hub : Hub) (call : Call) (h : Handle) : Option Session :=
  match call with
  | .make id remote =>
    if h = hub.sessions.size then some { id := id.getD (hub.lastId + 1), remote, run := 0 }
    else none
  | _ => none

/-- What a call does to a session that is there. -/
def effect (hub : Hub) (call : Call) (h : Handle) (s : Session) : Session :=
  match call with
  | .send i message => if i = h then hub.offered message s else s
  | .broadcast message => if hub.isMember h then hub.offered message s else s
  | .receive i most => if i = h then (s.dequeue (most.getD s.queue.size)).2 else s
  | .dropQueue i => if i = h then s.dropQueue else s
  | .close i => if i = h then s.closed else s
  | .cancel i => if i = h then s.cancel else s
  | .closeAll => if hub.isMember h then s.closed else s
  | _ => s

/-- What every one of these steps does to a session, a call does to it. -/
theorem effect_cases {P : Session → Prop} {s : Session} (hub : Hub) (call : Call) (h : Handle)
    (same : P s) (offered : ∀ message, P (hub.offered message s))
    (dequeue : ∀ most, P (s.dequeue most).2) (dropQueue : P s.dropQueue) (closed : P s.closed)
    (cancel : P s.cancel) : P (hub.effect call h s) := by
  have hif : ∀ (c : Prop) [Decidable c] (t : Session), P t → P (if c then t else s) := by
    intro c _ t ht
    split
    · exact ht
    · exact same
  cases call with
  | nextId | make | register | remove | snapshot | cancelRun | isCancelled | dropRegistry =>
      exact same
  | send i message | broadcast message => exact hif _ _ (offered message)
  | receive i most => exact hif _ _ (dequeue _)
  | dropQueue i => exact hif _ _ dropQueue
  | close i | closeAll => exact hif _ _ closed
  | cancel i => exact hif _ _ cancel

/-- A new session comes behind all others. -/
theorem getElem?_make (hub : Hub) (id : Nat) (remote : SocketAddress) (h : Handle) :
    (hub.make id remote 0).2.sessions[h]?
      = hub.sessions[h]?.or
          (if h = hub.sessions.size then some { id, remote, run := 0 } else none) := by
  show (hub.sessions.push { id, remote, run := 0 })[h]? = _
  rw [Array.getElem?_push]
  split
  · next heq =>
      rw [heq, Array.getElem?_eq_none (Nat.le_refl _)]
      rfl
  · rw [Option.or_none]

/-- **Every session after a call is one that was there, changed by the call, or one that
the call made.** -/
theorem getElem?_perform {hub : Hub} (hnodup : (hub.members.map (·.2)).Nodup) (call : Call)
    (h : Handle) :
    (hub.perform call).2.sessions[h]?
      = (hub.sessions[h]?.map (hub.effect call h)).or (hub.born call h) := by
  -- Where no session is made, what is left to see is the change of the sessions.
  have hsame : hub.sessions[h]? = (hub.sessions[h]?.map id).or none := by simp
  have hone : ∀ (i : Handle) (step : Session → Session),
      (if i = h then hub.sessions[h]?.map step else hub.sessions[h]?)
        = (hub.sessions[h]?.map fun s => if i = h then step s else s).or none := by
    intro i step
    by_cases heq : i = h
    · simp [heq]
    · simp [heq]
  have hmembers : ∀ step : Session → Session,
      (if h ∈ hub.snapshot then hub.sessions[h]?.map step else hub.sessions[h]?)
        = (hub.sessions[h]?.map fun s => if hub.isMember h then step s else s).or none := by
    intro step
    by_cases hmem : hub.isMember h = true
    · simp [mem_snapshot, hmem]
    · simp [mem_snapshot, hmem]
  cases call with
  | nextId | remove | snapshot | cancelRun | isCancelled | dropRegistry => exact hsame
  | make id remote =>
      have hkept : hub.sessions[h]?.map (hub.effect (.make id remote) h) = hub.sessions[h]? := by
        cases hub.sessions[h]? <;> rfl
      rw [hkept]
      cases id with
      | none => exact getElem?_make { hub with lastId := hub.lastId + 1 } _ remote h
      | some id => exact getElem?_make hub id remote h
  | register i =>
      have hkept : (hub.register i).2.sessions = hub.sessions := by
        unfold register
        split
        · rfl
        · split
          · rfl
          · rfl
      show (hub.register i).2.sessions[h]? = _
      rw [hkept]
      exact hsame
  | send i message => exact (getElem?_send hub i h message).trans (hone i _)
  | broadcast message =>
      have hsnapshot : hub.snapshot.Nodup :=
        (List.mergeSort_perm _ _).nodup_iff.mpr hnodup
      exact (getElem?_sendAll hub hsnapshot h message).trans (hmembers _)
  | receive i most =>
      refine Eq.trans ?_ (hone i fun s => (s.dequeue (most.getD s.queue.size)).2)
      show (hub.update i _).sessions[h]? = _
      rw [getElem?_update]
      by_cases heq : i = h
      · subst heq
        cases hs : hub.sessions[i]? with
        | none => rfl
        | some s => simp [waiting, hs]
      · simp [heq]
  | dropQueue i => exact (getElem?_update hub i h _).trans (hone i _)
  | close i => exact (getElem?_close hub i h).trans (hone i _)
  | cancel i => exact (getElem?_update hub i h _).trans (hone i _)
  | closeAll => exact (getElem?_closeEach _ hub.snapshot h).trans (hmembers _)

theorem members_register (hub : Hub) (h : Handle) :
    (hub.register h).2.members
      = match hub.sessions[h]? with
        | none => hub.members
        | some s =>
          if hub.isClosing s then hub.members else (s.id, h) :: without hub.members s.id := by
  unfold register
  cases hub.sessions[h]? with
  | none => rfl
  | some s =>
      cases hclosing : hub.isClosing s with
      | true => simp [hclosing]
      | false => simp [hclosing]

/-- The members after a call.  Only registering lets anybody in, and only a session that
is not closing. -/
def membersAfter (hub : Hub) (call : Call) : List (Nat × Handle) :=
  match call with
  | .register h =>
    match hub.sessions[h]? with
    | none => hub.members
    | some s => if hub.isClosing s then hub.members else (s.id, h) :: without hub.members s.id
  | .remove id => without hub.members id
  | .close h =>
    match hub.sessions[h]? with
    | none => hub.members
    | some s => if s.latched then hub.members else without hub.members s.id
  | .closeAll | .dropRegistry => []
  | _ => hub.members

theorem members_perform (hub : Hub) (call : Call) :
    (hub.perform call).2.members = hub.membersAfter call := by
  cases call with
  | nextId | remove | snapshot | receive | dropQueue | cancel | cancelRun | isCancelled
  | dropRegistry => rfl
  | make id remote =>
      cases id with
      | none => rfl
      | some id => rfl
  | register h => exact hub.members_register h
  | send h message => exact (hub.members_send h message).1
  | broadcast message => exact hub.members_sendAll hub.snapshot message
  | close h => exact hub.members_close h
  | closeAll =>
      have hempty := members_closeEach_sublist { hub with members := [] } hub.snapshot
      exact List.sublist_nil.mp hempty

end Hub

end Lifecast
