/-
Closing is for good.

Three marks make a session a closing one: its latch, its own cancellation and that of its
run.  No step takes any of them away (`Session.Onward` for what a session keeps itself,
`frame_perform` for what the hub keeps), so a session that is closing once is closing ever
after (`isClosingAt_performAll`).

The latch says more.  It is set by the call that closes the session, which also takes its id
out of the registry, and it is what a later registration is refused for.  So a latched
session is not a member (`Kept`), and closing it again is no change at all
(`close_of_latched`), whoever has its id by then.
-/
import Lifecast.Proofs.Session.Delivery

namespace Lifecast

namespace Session

/-- The second session is the first one later on: of the same run, and none of its marks is
gone. -/
structure Onward (s t : Session) : Prop where
  run : t.run = s.run
  latched : s.latched = true → t.latched = true
  cancelled : s.cancelled = true → t.cancelled = true

theorem Onward.refl (s : Session) : Onward s s :=
  ⟨rfl, fun h => h, fun h => h⟩

theorem onward_closed (s : Session) : Onward s s.closed := by
  cases hl : s.latched with
  | true =>
      rw [closed_of_latched hl]
      exact Onward.refl s
  | false =>
      rw [closed_of_not_latched hl]
      exact ⟨rfl, fun _ => rfl, fun _ => rfl⟩

theorem onward_cancel (s : Session) : Onward s s.cancel :=
  ⟨rfl, fun h => h, fun _ => rfl⟩

end Session

namespace Hub

theorem onward_offered (hub : Hub) (message : String) (s : Session) :
    Session.Onward s (hub.offered message s) := by
  rw [offered_eq]
  split
  · exact ⟨rfl, id, id⟩
  · exact Session.Onward.refl s

theorem onward_effect (hub : Hub) (call : Call) (h : Handle) (s : Session) :
    Session.Onward s (hub.effect call h s) := by
  apply effect_cases (P := Session.Onward s)
  · exact Session.Onward.refl s
  · exact fun message => hub.onward_offered message s
  · exact fun _ => ⟨rfl, id, id⟩
  · exact ⟨rfl, id, id⟩
  · exact s.onward_closed
  · exact s.onward_cancel

/-! ### What a call leaves to the hub -/

theorem frame_close (hub : Hub) (h : Handle) :
    (hub.close h).cancelledRuns = hub.cancelledRuns ∧ (hub.close h).lastId = hub.lastId := by
  cases hs : hub.sessions[h]? with
  | none =>
      rw [close_of_none hs]
      exact ⟨rfl, rfl⟩
  | some s =>
      rw [close_of_some hs]
      exact ⟨rfl, rfl⟩

theorem frame_closeEach (hub : Hub) (hs : List Handle) :
    (hub.closeEach hs).cancelledRuns = hub.cancelledRuns ∧
      (hub.closeEach hs).lastId = hub.lastId := by
  induction hs generalizing hub with
  | nil => exact ⟨rfl, rfl⟩
  | cons h rest ih =>
      obtain ⟨hruns, hlast⟩ := hub.frame_close h
      obtain ⟨hruns', hlast'⟩ := ih (hub.close h)
      exact ⟨hruns'.trans hruns, hlast'.trans hlast⟩

theorem frame_send (hub : Hub) (h : Handle) (message : String) :
    (hub.send h message).cancelledRuns = hub.cancelledRuns ∧
      (hub.send h message).lastId = hub.lastId := by
  unfold send
  split
  · exact ⟨rfl, rfl⟩
  · exact ⟨rfl, rfl⟩

theorem frame_sendAll (hub : Hub) (hs : List Handle) (message : String) :
    (hub.sendAll hs message).cancelledRuns = hub.cancelledRuns ∧
      (hub.sendAll hs message).lastId = hub.lastId := by
  induction hs generalizing hub with
  | nil => exact ⟨rfl, rfl⟩
  | cons h rest ih =>
      obtain ⟨hruns, hlast⟩ := hub.frame_send h message
      obtain ⟨hruns', hlast'⟩ := ih (hub.send h message)
      exact ⟨hruns'.trans hruns, hlast'.trans hlast⟩

theorem frame_register (hub : Hub) (h : Handle) :
    (hub.register h).2.cancelledRuns = hub.cancelledRuns ∧
      (hub.register h).2.lastId = hub.lastId := by
  unfold register
  split
  · exact ⟨rfl, rfl⟩
  · split
    · exact ⟨rfl, rfl⟩
    · exact ⟨rfl, rfl⟩

/-- Does the call give out the next id? -/
def Call.counts : Call → Bool
  | nextId | make none _ => true
  | _ => false

/-- Only cancelling a run cancels one, and only giving out an id moves the counter. -/
theorem frame_perform (hub : Hub) (call : Call) :
    (hub.perform call).2.cancelledRuns
        = (if call = .cancelRun then 0 :: hub.cancelledRuns else hub.cancelledRuns) ∧
      (hub.perform call).2.lastId = (if call.counts then hub.lastId + 1 else hub.lastId) := by
  cases call with
  | nextId | remove | snapshot | receive | dropQueue | cancel | cancelRun | isCancelled
  | dropRegistry => exact ⟨rfl, rfl⟩
  | make id remote =>
      cases id with
      | none => exact ⟨rfl, rfl⟩
      | some id => exact ⟨rfl, rfl⟩
  | register h => exact hub.frame_register h
  | send h message => exact hub.frame_send h message
  | broadcast message => exact hub.frame_sendAll hub.snapshot message
  | close h => exact hub.frame_close h
  | closeAll => exact frame_closeEach { hub with members := [] } hub.snapshot

/-! ### Closing is never undone -/

/-- What marks a session at one time marks it later. -/
theorem isClosing_onward {hub later : Hub} {s t : Session} (honward : Session.Onward s t)
    (hruns : hub.cancelledRuns ⊆ later.cancelledRuns) (hclosing : hub.isClosing s = true) :
    later.isClosing t = true := by
  simp only [isClosing, isCancelled, Bool.or_eq_true, List.contains_iff_mem] at hclosing ⊢
  rcases hclosing with hlatched | hcancelled | hrun
  · exact Or.inl (honward.latched hlatched)
  · exact Or.inr (Or.inl (honward.cancelled hcancelled))
  · rw [honward.run]
    exact Or.inr (Or.inr (hruns hrun))

theorem isClosingAt_perform {hub : Hub} (hreg : hub.Registered) (call : Call) {h : Handle}
    (hclosing : hub.isClosingAt h = true) : (hub.perform call).2.isClosingAt h = true := by
  obtain ⟨s, hs, hmark⟩ := (Option.any_eq_true _ _).mp hclosing
  have hruns : hub.cancelledRuns ⊆ (hub.perform call).2.cancelledRuns := by
    rw [(hub.frame_perform call).1]
    split
    · exact List.subset_cons_self 0 hub.cancelledRuns
    · exact List.Subset.refl _
  refine (Option.any_eq_true _ _).mpr ⟨hub.effect call h s, ?_, ?_⟩
  · rw [getElem?_perform hreg.handles_nodup, hs]
    rfl
  · exact isClosing_onward (hub.onward_effect call h s) hruns hmark

theorem isClosingAt_performAll {hub : Hub} (hreg : hub.Registered) (calls : List Call)
    {h : Handle} (hclosing : hub.isClosingAt h = true) :
    (hub.performAll calls).isClosingAt h = true := by
  induction calls generalizing hub with
  | nil => exact hclosing
  | cons call rest ih =>
      exact ih (registered_perform hreg call) (isClosingAt_perform hreg call hclosing)

/-! ### The latch -/

/-- Has a session with this handle been closed? -/
def latchedAt (hub : Hub) (h : Handle) : Bool :=
  hub.sessions[h]?.any (·.latched)

/-- Does the call close the session, directly or with all other members? -/
def Step.closes (h : Handle) (step : Step) : Bool :=
  match step.call with
  | .close i => i = h && step.before.sessions[h]?.isSome
  | .closeAll => step.before.isMember h
  | _ => false

/-- **Closing a session again changes nothing.** -/
theorem close_of_latched {hub : Hub} {h : Handle} (hlatched : hub.latchedAt h = true) :
    hub.close h = hub := by
  obtain ⟨s, hs, hl⟩ := (Option.any_eq_true _ _).mp hlatched
  have hsame : hub.update h Session.closed = hub := by
    have hid : hub.sessions.modify h id = hub.sessions := by
      apply Array.ext_getElem?
      intro i
      simp [Array.getElem?_modify]
    have hclosed : ∀ t, hub.sessions[h]? = some t → t.closed = id t := by
      intro t ht
      obtain rfl : s = t := Option.some.inj (hs.symm.trans ht)
      exact Session.closed_of_latched hl
    rw [update_congr hub h hclosed, update, hid]
  rw [close_of_some hs, if_pos hl, hsame]

/-- A session that is closed already is refused. -/
theorem register_of_latched {hub : Hub} {h : Handle} (hlatched : hub.latchedAt h = true) :
    hub.register h = (false, hub) := by
  obtain ⟨s, hs, hl⟩ := (Option.any_eq_true _ _).mp hlatched
  have hclosing : hub.isClosing s = true := by
    rw [isClosing, hl, Bool.true_or]
  unfold register
  rw [hs]
  exact if_pos hclosing

/-- What a call does to a latch: only closing sets it. -/
theorem latched_effect (hub : Hub) (call : Call) {h : Handle} {s : Session}
    (hs : hub.sessions[h]? = some s) :
    (hub.effect call h s).latched = (s.latched || (hub.record call).closes h) := by
  have hkept : ∀ (c : Prop) [Decidable c] (t : Session), t.latched = s.latched →
      (if c then t else s).latched = (s.latched || false) := by
    intro c _ t ht
    rw [Bool.or_false]
    split
    · exact ht
    · rfl
  have hset : ∀ (c : Prop) [Decidable c],
      (if c then s.closed else s).latched = (s.latched || decide c) := by
    intro c _
    by_cases hc : c
    · simp [hc]
    · simp [hc]
  cases call with
  | nextId | make | register | remove | snapshot | cancelRun | isCancelled | dropRegistry =>
      exact (Bool.or_false _).symm
  | send i message | broadcast message =>
      apply hkept
      rw [offered_eq]
      split
      · rfl
      · rfl
  | receive i most | dropQueue i | cancel i => exact hkept _ _ rfl
  | close i =>
      have hcloses : (hub.record (.close i)).closes h = decide (i = h) := by
        simp [Step.closes, record, hs]
      rw [hcloses]
      exact hset (i = h)
  | closeAll =>
      have hcloses : (hub.record .closeAll).closes h = decide (hub.isMember h = true) := by
        simp [Step.closes, record]
      rw [hcloses]
      exact hset (hub.isMember h = true)

theorem latchedAt_record {hub : Hub} (hreg : hub.Registered) (call : Call) (h : Handle) :
    (hub.record call).after.latchedAt h = (hub.latchedAt h || (hub.record call).closes h) := by
  have hafter : (hub.record call).after.sessions[h]?
      = (hub.sessions[h]?.map (hub.effect call h)).or (hub.born call h) :=
    getElem?_perform hreg.handles_nodup call h
  unfold latchedAt
  rw [hafter]
  cases hs : hub.sessions[h]? with
  | some s => exact hub.latched_effect call hs
  | none =>
      -- Nobody is made closed, and nobody closes what is not there.
      have hout : hub.isMember h = false := by
        rw [Bool.eq_false_iff]
        intro hmem
        rw [Array.getElem?_eq_getElem (hreg.lt_size hmem)] at hs
        cases hs
      cases call with
      | make id remote =>
          by_cases hlast : h = hub.sessions.size
          · simp [born, hlast, Step.closes, record]
          · simp [born, hlast, Step.closes, record]
      | close i => simp [born, Step.closes, record, hs]
      | closeAll => simp [born, Step.closes, record, hout]
      | _ => rfl

end Hub

end Lifecast
