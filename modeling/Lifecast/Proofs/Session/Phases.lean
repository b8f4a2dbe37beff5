/-
A session never reopens and never lingers.

The task of a session and all who close it take turns.  Of the calls that close it only the
first goes on after the latch: it tries to leave the open phases, from accepting and then from
open, takes the session out of the registry and cancels it.  Meanwhile the task may register
the session, open it and finish it.

A phase never goes back (`Forward`), and that is why the order of the two tries is right: a
session that the first try did not find accepting will never be accepting again, so the second
cannot miss it.  `Orderly` says what each call finds wherever the others have got to.  While the
session is latched and not yet out of its open phases, or still a member, there is a call that
has yet to see to it, and when all calls have returned there is none.
-/
import Lifecast.Interleaving.OneSession
import Lifecast.Proofs.Session.Closing

namespace Lifecast

namespace Session

/-- The second session is the first one later on: it bears the same number, is in no earlier
phase, and is latched if that one was. -/
structure Forward (s t : Session) : Prop where
  id : t.id = s.id
  phase : Lifecycle.number s.state ≤ Lifecycle.number t.state
  latched : s.latched = true → t.latched = true

/-- It is neither accepting nor open. -/
def IsOver (s : Session) : Prop :=
  s.state ≠ .accepting ∧ s.state ≠ .opened

theorem Forward.refl (s : Session) : Forward s s :=
  ⟨rfl, Nat.le_refl _, fun hlatched => hlatched⟩

theorem Forward.trans {s t u : Session} (hfirst : Forward s t) (hsecond : Forward t u) :
    Forward s u :=
  ⟨hsecond.id.trans hfirst.id, Nat.le_trans hfirst.phase hsecond.phase,
    fun hlatched => hsecond.latched (hfirst.latched hlatched)⟩

/-- A session that is over stays over. -/
theorem Forward.isOver {s t : Session} (hforward : Forward s t) (hover : s.IsOver) :
    t.IsOver := by
  have hphase := hforward.phase
  obtain ⟨haccepting, hopened⟩ := hover
  cases hs : s.state with
  | accepting => exact absurd hs haccepting
  | opened => exact absurd hs hopened
  | closing | closed =>
      rw [hs] at hphase
      constructor <;> intro ht <;> rw [ht] at hphase <;> simp [Lifecycle.number] at hphase

/-- Nothing comes behind closed. -/
theorem Forward.closed {s t : Session} (hforward : Forward s t) (hclosed : s.state = .closed) :
    t.state = .closed := by
  have hphase := hforward.phase
  rw [hclosed] at hphase
  cases ht : t.state with
  | closed => rfl
  | accepting | opened | closing =>
      rw [ht] at hphase
      simp [Lifecycle.number] at hphase

theorem state_closeFrom (s : Session) (source : SessionState) :
    (s.closeFrom source).2.state = if s.state = source then .closing else s.state := by
  by_cases hs : s.state = source <;> simp [closeFrom, Phase.exchange, hs]

/-- Trying to leave a phase takes nobody back. -/
theorem forward_closeFrom (s : Session) {source : SessionState} (hsource : source ≠ .closed) :
    Forward s (s.closeFrom source).2 := by
  refine ⟨rfl, ?_, fun hlatched => hlatched⟩
  rw [state_closeFrom]
  split
  · next heq =>
      rw [heq]
      cases source with
      | closed => exact absurd rfl hsource
      | accepting | opened | closing => simp [Lifecycle.number]
  · exact Nat.le_refl _

end Session

namespace Interleaving

namespace Closing

/-- Has the call set the latch and not yet made the exchange that ends the open phases? -/
@[simp] def isLeaving : Closing → Bool
  | first | notAccepting => true
  | _ => false

/-- Has the call set the latch and not yet taken the session out of the registry? -/
@[simp] def isInside : Closing → Bool
  | first | notAccepting | left => true
  | _ => false

/-- Has the call set the latch and made its exchanges?  A call that found the latch set makes
none and returns at once. -/
@[simp] def hasExchanged : Closing → Bool
  | left | removed => true
  | _ => false

theorem isInside_of_isLeaving {c : Closing} (hleaving : c.isLeaving = true) :
    c.isInside = true := by
  cases c with
  | first | notAccepting => rfl
  | called | left | removed | returned => cases hleaving

end Closing

/-- The closing call that the task makes. -/
def Task.calls : Task → List Closing
  | closing call => [call]
  | _ => []

/-- Is the session finished? -/
def Task.isDone : Task → Bool
  | finished | ended => true
  | _ => false

namespace OneSession

/-- All calls that close the session, the task's own among them. -/
def calls (s : OneSession) : List Closing :=
  s.task.calls ++ s.closers

/-! ### What the calls find -/

/-- A session as those who close it find it. -/
structure Orderly (hub : Hub) (h : Handle) (calls : List Closing) (x : Session) : Prop where
  found : hub.sessions[h]? = some x
  own_id : ∀ m ∈ hub.members, m.2 = h → m.1 = x.id
  latched : ∀ c ∈ calls, c ≠ .called → x.latched = true
  tried : .notAccepting ∈ calls → x.state ≠ .accepting
  exchanged : ∀ c ∈ calls, c.hasExchanged = true → x.IsOver
  leaving : x.latched = true → (∃ c ∈ calls, c.isLeaving = true) ∨ x.IsOver
  inside : x.latched = true → (∃ c ∈ calls, c.isInside = true) ∨ hub.isMember h = false

variable {hub later : Hub} {h : Handle} {calls : List Closing} {x y : Session}

/-- Calls that have done nothing may come, and calls that have nothing more to see to may
go. -/
theorem Orderly.with_calls {others : List Closing} (ho : Orderly hub h calls x)
    (hfrom : ∀ c ∈ others, c ≠ .called → c ∈ calls)
    (hto : ∀ c ∈ calls, c.isInside = true → c ∈ others) : Orderly hub h others x := by
  refine ⟨ho.found, ho.own_id, ?_, ?_, ?_, ?_, ?_⟩
  · exact fun c hc hbegun => ho.latched c (hfrom c hc hbegun) hbegun
  · exact fun hc => ho.tried (hfrom _ hc nofun)
  · intro c hc hexchanged
    refine ho.exchanged c (hfrom c hc ?_) hexchanged
    rintro rfl
    cases hexchanged
  · intro hlatched
    rcases ho.leaving hlatched with ⟨c, hc, hleaving⟩ | hover
    · exact Or.inl ⟨c, hto c hc (Closing.isInside_of_isLeaving hleaving), hleaving⟩
    · exact Or.inr hover
  · intro hlatched
    rcases ho.inside hlatched with ⟨c, hc, hinside⟩ | hout
    · exact Or.inl ⟨c, hto c hc hinside, hinside⟩
    · exact Or.inr hout

/-- A further call that has done nothing. -/
theorem Orderly.called (ho : Orderly hub h calls x) : Orderly hub h (.called :: calls) x := by
  refine ho.with_calls ?_ fun c hc _ => List.mem_cons_of_mem _ hc
  exact fun c hc hbegun => (List.mem_cons.mp hc).resolve_left hbegun

/-- A step that leaves phase, latch and registry alone. -/
theorem Orderly.of_mild (ho : Orderly hub h calls x) (hfound : later.sessions[h]? = some y)
    (hmembers : later.members = hub.members) (hid : y.id = x.id) (hstate : y.state = x.state)
    (hlatched : y.latched = x.latched) : Orderly later h calls y := by
  have hover : y.IsOver ↔ x.IsOver := by
    unfold Session.IsOver
    rw [hstate]
  refine ⟨hfound, ?_, ?_, ?_, ?_, ?_, ?_⟩
  · rw [hmembers, hid]
    exact ho.own_id
  · rw [hlatched]
    exact ho.latched
  · rw [hstate]
    exact ho.tried
  · exact fun c hc hexchanged => hover.mpr (ho.exchanged c hc hexchanged)
  · rw [hlatched, hover]
    exact ho.leaving
  · rw [hlatched, Hub.isMember, hmembers]
    exact ho.inside

/-- A step after which the session is over. -/
theorem Orderly.of_over (ho : Orderly hub h calls x) (hfound : later.sessions[h]? = some y)
    (hmembers : later.members = hub.members) (hforward : Session.Forward x y) (hover : y.IsOver)
    (hlatched : y.latched = x.latched) : Orderly later h calls y := by
  refine ⟨hfound, ?_, ?_, fun _ => hover.1, fun _ _ _ => hover, fun _ => Or.inr hover, ?_⟩
  · rw [hmembers, hforward.id]
    exact ho.own_id
  · rw [hlatched]
    exact ho.latched
  · rw [hlatched, Hub.isMember, hmembers]
    exact ho.inside

/-! ### Steps of the calls -/

variable {c next : Closing} {others : List Closing}

/-- A call goes on from one place to another, having done what the one asked for and finding
what the other promises. -/
theorem Orderly.goOn (ho : Orderly hub h calls x) (hmoved : OneMoved c next calls others)
    (hlatched : x.latched = true) (htried : next = .notAccepting → x.state ≠ .accepting)
    (hexchanged : next.hasExchanged = true → x.IsOver)
    (hleaving : c.isLeaving = true → next.isLeaving = true ∨ x.IsOver)
    (hinside : c.isInside = true → next.isInside = true ∨ hub.isMember h = false) :
    Orderly hub h others x := by
  refine ⟨ho.found, ho.own_id, fun _ _ _ => hlatched, ?_, ?_, ?_, ?_⟩
  · intro hd
    rcases hmoved.old _ hd with heq | hold
    · exact htried heq.symm
    · exact ho.tried hold
  · intro d hd hdone
    rcases hmoved.old d hd with rfl | hold
    · exact hexchanged hdone
    · exact ho.exchanged d hold hdone
  · intro _
    rcases ho.leaving hlatched with ⟨d, hd, hdleaving⟩ | hover
    · by_cases heq : d = c
      · rw [heq] at hdleaving
        exact (hleaving hdleaving).imp (fun hnext => ⟨next, hmoved.is, hnext⟩) id
      · exact Or.inl ⟨d, hmoved.kept d hd heq, hdleaving⟩
    · exact Or.inr hover
  · intro _
    rcases ho.inside hlatched with ⟨d, hd, hdinside⟩ | hout
    · by_cases heq : d = c
      · rw [heq] at hdinside
        exact (hinside hdinside).imp (fun hnext => ⟨next, hmoved.is, hnext⟩) id
      · exact Or.inl ⟨d, hmoved.kept d hd heq, hdinside⟩
    · exact Or.inr hout

/-- The first call sets the latch, and all others find it set. -/
theorem Orderly.next_called (ho : Orderly hub h calls x)
    (hmoved : OneMoved .called (Closing.called.next h hub).1 calls others) :
    ∃ y, Session.Forward x y ∧ Orderly (Closing.called.next h hub).2 h others y := by
  have hfound : (hub.update h fun s => s.latch.2).sessions[h]?
      = some { x with latched := true } := by
    simp [ho.found, Session.latch]
  refine ⟨{ x with latched := true }, ⟨rfl, Nat.le_refl _, fun _ => rfl⟩, ?_⟩
  cases hlatched : x.latched with
  | true =>
      have hnext : Closing.called.next h hub = (.returned, hub.update h fun s => s.latch.2) := by
        simp [Closing.next, Hub.updateWith, ho.found, Session.latch, hlatched]
      rw [hnext] at hmoved ⊢
      exact (ho.of_mild hfound rfl rfl rfl hlatched.symm).goOn hmoved rfl
        (by simp) (by simp) (by simp) (by simp)
  | false =>
      have hnext : Closing.called.next h hub = (.first, hub.update h fun s => s.latch.2) := by
        simp [Closing.next, Hub.updateWith, ho.found, Session.latch, hlatched]
      rw [hnext] at hmoved ⊢
      have hold : ∀ d ∈ others, d ≠ .first → d ∈ calls := fun d hd hne =>
        (hmoved.old d hd).resolve_left hne
      refine ⟨hfound, ho.own_id, fun _ _ _ => rfl, ?_, ?_, ?_, ?_⟩
      · exact fun hd => ho.tried (hold _ hd (by simp))
      · intro d hd hexchanged
        exact ho.exchanged d (hold d hd (by rintro rfl; cases hexchanged)) hexchanged
      · exact fun _ => Or.inl ⟨.first, hmoved.is, rfl⟩
      · exact fun _ => Or.inl ⟨.first, hmoved.is, rfl⟩

theorem found_closeFrom (ho : Orderly hub h calls x) (source : SessionState) :
    (hub.update h fun s => (s.closeFrom source).2).sessions[h]? = some (x.closeFrom source).2 := by
  simp [ho.found]

/-- The first try is for a session that is accepting. -/
theorem Orderly.next_first (ho : Orderly hub h calls x)
    (hmoved : OneMoved .first (Closing.first.next h hub).1 calls others) :
    ∃ y, Session.Forward x y ∧ Orderly (Closing.first.next h hub).2 h others y := by
  have hlatched : x.latched = true := ho.latched _ hmoved.was (by simp)
  have hfound := found_closeFrom ho .accepting
  refine ⟨(x.closeFrom .accepting).2, x.forward_closeFrom (by simp), ?_⟩
  by_cases hstate : x.state = .accepting
  · have hnext : Closing.first.next h hub
        = (.left, hub.update h fun s => (s.closeFrom .accepting).2) := by
      simp [Closing.next, Hub.updateWith, ho.found, Session.closeFrom, Phase.exchange, hstate]
    have hover : (x.closeFrom .accepting).2.IsOver := by
      simp [Session.IsOver, Session.state_closeFrom, hstate]
    rw [hnext] at hmoved ⊢
    have hforward : Session.Forward x (x.closeFrom .accepting).2 := x.forward_closeFrom (by simp)
    exact (ho.of_over hfound rfl hforward hover rfl).goOn hmoved hlatched (by simp)
      (fun _ => hover) (fun _ => Or.inr hover) (fun _ => Or.inl rfl)
  · have hnext : Closing.first.next h hub
        = (.notAccepting, hub.update h fun s => (s.closeFrom .accepting).2) := by
      simp [Closing.next, Hub.updateWith, ho.found, Session.closeFrom, Phase.exchange, hstate]
    have hsame : (x.closeFrom .accepting).2.state = x.state := by
      simp [Session.state_closeFrom, hstate]
    rw [hnext] at hmoved ⊢
    exact (ho.of_mild hfound rfl rfl hsame rfl).goOn hmoved hlatched
      (fun _ => hsame ▸ hstate) (by simp) (fun _ => Or.inl rfl) (fun _ => Or.inl rfl)

/-- The second try finds a session that is not accepting and will not be. -/
theorem Orderly.next_notAccepting (ho : Orderly hub h calls x)
    (hmoved : OneMoved .notAccepting (Closing.notAccepting.next h hub).1 calls others) :
    ∃ y, Session.Forward x y ∧ Orderly (Closing.notAccepting.next h hub).2 h others y := by
  have hlatched : x.latched = true := ho.latched _ hmoved.was nofun
  have hstate : x.state ≠ .accepting := ho.tried hmoved.was
  have hover : (x.closeFrom .opened).2.IsOver := by
    by_cases hopened : x.state = .opened
    · simp [Session.IsOver, Session.state_closeFrom, hopened]
    · simp [Session.IsOver, Session.state_closeFrom, hopened, hstate]
  have hforward : Session.Forward x (x.closeFrom .opened).2 := x.forward_closeFrom nofun
  refine ⟨(x.closeFrom .opened).2, hforward, ?_⟩
  exact (ho.of_over (found_closeFrom ho .opened) rfl hforward hover rfl).goOn hmoved hlatched nofun
    (fun _ => hover) (fun _ => Or.inr hover) (fun _ => Or.inl rfl)

/-- The session leaves the registry with its id. -/
theorem Orderly.next_left (ho : Orderly hub h calls x)
    (hmoved : OneMoved .left (Closing.left.next h hub).1 calls others) :
    ∃ y, Session.Forward x y ∧ Orderly (Closing.left.next h hub).2 h others y := by
  have hlatched : x.latched = true := ho.latched _ hmoved.was (by simp)
  have hover : x.IsOver := ho.exchanged _ hmoved.was rfl
  have hnext : Closing.left.next h hub = (.removed, (hub.remove x.id).2) := by
    simp [Closing.next, ho.found]
  have hout : (hub.remove x.id).2.isMember h = false := by
    rw [Hub.isMember, List.any_eq_false]
    intro m hm
    obtain ⟨hmem, hid⟩ := List.mem_filter.mp hm
    intro heq
    rw [ho.own_id m hmem (of_decide_eq_true heq), bne_self_eq_false] at hid
    cases hid
  have hremoved : Orderly (hub.remove x.id).2 h calls x :=
    ⟨ho.found, fun m hm => ho.own_id m (List.mem_of_mem_filter hm), ho.latched, ho.tried,
      ho.exchanged, ho.leaving, fun _ => Or.inr hout⟩
  rw [hnext] at hmoved ⊢
  exact ⟨x, Session.Forward.refl x, hremoved.goOn hmoved hlatched (by simp) (fun _ => hover)
    (by simp) (fun _ => Or.inr hout)⟩

theorem Orderly.next_removed (ho : Orderly hub h calls x)
    (hmoved : OneMoved .removed (Closing.removed.next h hub).1 calls others) :
    ∃ y, Session.Forward x y ∧ Orderly (Closing.removed.next h hub).2 h others y := by
  have hlatched : x.latched = true := ho.latched _ hmoved.was (by simp)
  have hfound : (hub.cancel h).sessions[h]? = some x.cancel := by
    simp [Hub.cancel, ho.found]
  have hnext : Closing.removed.next h hub = (.returned, hub.cancel h) := rfl
  rw [hnext] at hmoved ⊢
  exact ⟨x.cancel, ⟨rfl, Nat.le_refl _, id⟩,
    (ho.of_mild hfound rfl rfl rfl rfl).goOn hmoved hlatched
      (by simp) (by simp) (by simp) (by simp)⟩

/-- Whichever step a call makes, the session moves forward and is found as it should be. -/
theorem Orderly.step (ho : Orderly hub h calls x)
    (hmoved : OneMoved c (c.next h hub).1 calls others) :
    ∃ y, Session.Forward x y ∧ Orderly (c.next h hub).2 h others y := by
  cases c with
  | called => exact ho.next_called hmoved
  | first => exact ho.next_first hmoved
  | notAccepting => exact ho.next_notAccepting hmoved
  | left => exact ho.next_left hmoved
  | removed => exact ho.next_removed hmoved
  | returned =>
      have hlatched : x.latched = true := ho.latched _ hmoved.was nofun
      exact ⟨x, Session.Forward.refl x, ho.goOn hmoved hlatched nofun nofun nofun nofun⟩

/-! ### Every move -/

/-- A change of the session that leaves phase and latch alone. -/
theorem Orderly.update (ho : Orderly hub h calls x) {f : Session → Session}
    (hid : (f x).id = x.id) (hstate : (f x).state = x.state)
    (hlatched : (f x).latched = x.latched) :
    ∃ y, Session.Forward x y ∧ Orderly (hub.update h f) h calls y := by
  have hfound : (hub.update h f).sessions[h]? = some (f x) := by
    simp [ho.found]
  refine ⟨f x, ⟨hid, ?_, fun hx => hlatched.trans hx⟩, ho.of_mild hfound rfl hid hstate hlatched⟩
  rw [hstate]

/-- Sending changes nothing but the queue and the backlog. -/
theorem Orderly.sending (ho : Orderly hub h calls x) (call : Sending) :
    ∃ y, Session.Forward x y ∧ Orderly (call.next h hub).2 h calls y := by
  cases call with
  | called message => exact ⟨x, Session.Forward.refl x, ho⟩
  | admitted message => exact ho.update rfl rfl rfl
  | counted message =>
      have hhub : ((Sending.counted message).next h hub).2
          = hub.update h fun s => (s.enqueue message).2 := by
        simp only [Sending.next]
        split <;> next heq => exact (congrArg Prod.snd heq).symm
      have hkeeps : (x.enqueue message).2.id = x.id ∧ (x.enqueue message).2.state = x.state ∧
          (x.enqueue message).2.latched = x.latched := by
        unfold Session.enqueue
        split <;> exact ⟨rfl, rfl, rfl⟩
      rw [hhub]
      exact ho.update hkeeps.1 hkeeps.2.1 hkeeps.2.2
  | refused => exact ho.update rfl rfl rfl
  | returned => exact ⟨x, Session.Forward.refl x, ho⟩

/-- Only a session that is not latched is let in. -/
theorem Orderly.register (ho : Orderly hub h calls x) (hadmitted : (hub.register h).1 = true) :
    Orderly (hub.register h).2 h calls x := by
  cases hclosing : hub.isClosing x with
  | true => simp [Hub.register, ho.found, hclosing] at hadmitted
  | false =>
      have hlater : (hub.register h).2
          = { hub with members := (x.id, h) :: Hub.without hub.members x.id } := by
        simp [Hub.register, ho.found, hclosing]
      have hopen : x.latched = true → False := by
        intro hlatched
        rw [Hub.isClosing, hlatched] at hclosing
        cases hclosing
      rw [hlater]
      refine ⟨ho.found, ?_, ho.latched, ho.tried, ho.exchanged, fun hl => (hopen hl).elim,
        fun hl => (hopen hl).elim⟩
      intro m hm hh
      rcases List.mem_cons.mp hm with rfl | hrest
      · rfl
      · exact ho.own_id m (List.mem_of_mem_filter hrest) hh

/-- An accepting session opens, latched or not. -/
theorem Orderly.openUp (ho : Orderly hub h calls x) :
    ∃ y, Session.Forward x y ∧ Orderly (hub.update h fun s => s.openUp.2) h calls y := by
  by_cases hstate : x.state = .accepting
  · have hfound : (hub.update h fun s => s.openUp.2).sessions[h]?
        = some { x with state := .opened } := by
      simp [ho.found, Session.openUp, Phase.exchange, hstate]
    have hnotOver : ¬ x.IsOver := fun hover => hover.1 hstate
    refine ⟨{ x with state := .opened }, ⟨rfl, ?_, id⟩, hfound, ho.own_id, ho.latched,
      (by simp), ?_, ?_, ho.inside⟩
    · rw [hstate]
      simp [Lifecycle.number]
    · exact fun c hc hexchanged => absurd (ho.exchanged c hc hexchanged) hnotOver
    · exact fun hlatched => Or.inl ((ho.leaving hlatched).resolve_right hnotOver)
  · refine ho.update rfl ?_ rfl
    simp [Session.openUp, Phase.exchange, hstate]

/-- A session that has been finished is over. -/
theorem Orderly.finish (ho : Orderly hub h (.returned :: calls) x) :
    ∃ y, Session.Forward x y ∧ (y.state = .closed ∧ y.latched = true) ∧
      Orderly (hub.update h Session.finish) h calls y := by
  have hfound : (hub.update h Session.finish).sessions[h]? = some x.finish := by
    simp [ho.found]
  have hforward : Session.Forward x x.finish := by
    refine ⟨rfl, ?_, id⟩
    show Lifecycle.number x.state ≤ 3
    cases x.state <;> simp [Lifecycle.number]
  have hover : x.finish.IsOver := ⟨nofun, nofun⟩
  have hlatched : x.latched = true := ho.latched .returned List.mem_cons_self nofun
  refine ⟨x.finish, hforward, ⟨rfl, hlatched⟩, ?_⟩
  refine (ho.of_over hfound rfl hforward hover rfl).with_calls ?_ ?_
  · exact fun c hc _ => List.mem_cons_of_mem _ hc
  · intro c hc hinside
    rcases List.mem_cons.mp hc with rfl | hrest
    · cases hinside
    · exact hrest

/-- How the session stands while its task and all who act on it have got somewhere. -/
structure Stands (s : OneSession) (x : Session) : Prop where
  orderly : Orderly s.hub s.handle s.calls x
  done : s.task.isDone = true → x.state = .closed ∧ x.latched = true

variable {s t : OneSession}

theorem Stands.done_forward (hs : s.Stands x) (hforward : Session.Forward x y)
    (hdone : s.task.isDone = true) : y.state = .closed ∧ y.latched = true :=
  ⟨hforward.closed (hs.done hdone).1, hforward.latched (hs.done hdone).2⟩

/-- The task goes on. -/
theorem stands_goOn (hs : s.Stands x) (moved : s.goOn? = some t) :
    ∃ y, Session.Forward x y ∧ t.Stands y ∧ t.handle = s.handle := by
  have ho := hs.orderly
  unfold calls at ho
  unfold goOn? at moved
  cases htask : s.task with
  | accepted =>
      simp only [htask, Option.some.injEq] at moved
      rw [htask] at ho
      subst moved
      refine ⟨x, Session.Forward.refl x, ⟨?_, ?_⟩, rfl⟩
      · cases hadmitted : (s.hub.register s.handle).1 with
        | true => simpa [calls, hadmitted, Task.calls] using ho.register hadmitted
        | false =>
            have hsame : (s.hub.register s.handle).2 = s.hub := by
              unfold Hub.register at hadmitted ⊢
              grind
            simpa [calls, hadmitted, hsame, Task.calls] using ho.called
      · intro hdone
        split at hdone <;> cases hdone
  | registered =>
      simp only [htask, Option.some.injEq] at moved
      rw [htask] at ho
      subst moved
      obtain ⟨y, hforward, hopen⟩ := ho.openUp
      refine ⟨y, hforward, ⟨?_, ?_⟩, rfl⟩
      · show Orderly _ _ (Task.calls (if _ then _ else _) ++ s.closers) y
        split
        · exact hopen
        · exact hopen.called
      · intro hdone
        split at hdone <;> cases hdone
  | opened => simp [htask] at moved
  | taken =>
      simp only [htask, Option.some.injEq] at moved
      rw [htask] at ho
      subst moved
      obtain ⟨y, hforward, hcounted⟩ := ho.update (f := Session.countDown) rfl rfl rfl
      exact ⟨y, hforward, ⟨hcounted, nofun⟩, rfl⟩
  | closing call =>
      rw [htask] at ho
      by_cases hreturned : call = .returned
      · subst hreturned
        simp only [htask, Option.some.injEq] at moved
        subst moved
        obtain ⟨y, hforward, hclosed, hfinished⟩ := ho.finish
        exact ⟨y, hforward, ⟨hfinished, fun _ => hclosed⟩, rfl⟩
      · obtain rfl : OneSession.mk (call.next s.handle s.hub).2 s.handle
            (.closing (call.next s.handle s.hub).1) s.closers s.senders = t := by
          rw [htask] at moved
          cases call with
          | returned => exact absurd rfl hreturned
          | called | first | notAccepting | left | removed => exact Option.some.inj moved
        obtain ⟨y, hforward, hcalled⟩ := ho.step (OneMoved.head s.closers)
        exact ⟨y, hforward, ⟨hcalled, nofun⟩, rfl⟩
  | finished =>
      simp only [htask, Option.some.injEq] at moved
      rw [htask] at ho
      subst moved
      have hdropped : (s.hub.dropQueue s.handle).sessions[s.handle]? = some x.dropQueue := by
        simp [Hub.dropQueue, ho.found]
      have hdone : x.state = .closed ∧ x.latched = true := hs.done (by rw [htask]; rfl)
      exact ⟨x.dropQueue, ⟨rfl, Nat.le_refl _, id⟩,
        ⟨ho.of_mild hdropped rfl rfl rfl rfl, fun _ => hdone⟩, rfl⟩
  | ended => simp [htask] at moved

/-- Whatever move is made, the session moves forward. -/
theorem stands_move (m : SessionMove) (hs : s.Stands x) (moved : s.move? m = some t) :
    ∃ y, Session.Forward x y ∧ t.Stands y ∧ t.handle = s.handle := by
  have ho := hs.orderly
  unfold calls at ho
  cases m with
  | goOn => exact stands_goOn hs moved
  | takeMessage =>
      simp only [move?] at moved
      split at moved
      · next hready =>
          rw [(Bool.and_eq_true_iff.mp hready).1 |> of_decide_eq_true] at ho
          obtain rfl := Option.some.inj moved
          obtain ⟨y, hforward, htaken⟩ := ho.update (f := fun s => (s.dequeue 1).2) rfl rfl rfl
          exact ⟨y, hforward, ⟨htaken, nofun⟩, rfl⟩
      · cases moved
  | seeCancelled =>
      simp only [move?] at moved
      split at moved
      · next hready =>
          rw [(Bool.and_eq_true_iff.mp hready).1 |> of_decide_eq_true] at ho
          obtain rfl := Option.some.inj moved
          exact ⟨x, Session.Forward.refl x, ⟨ho.called, nofun⟩, rfl⟩
      · cases moved
  | seeEnd =>
      simp only [move?] at moved
      split at moved
      · next hopened =>
          rw [hopened] at ho
          obtain rfl := Option.some.inj moved
          exact ⟨x, Session.Forward.refl x, ⟨ho.called, nofun⟩, rfl⟩
      · cases moved
  | callClose =>
      obtain rfl := Option.some.inj moved
      refine ⟨x, Session.Forward.refl x, ⟨ho.with_calls ?_ ?_, hs.done⟩, rfl⟩
      · intro c hc hbegun
        simp only [calls, List.mem_append, List.mem_singleton] at hc ⊢
        tauto
      · intro c hc _
        simp only [calls, List.mem_append] at hc ⊢
        tauto
  | close i =>
      simp only [move?] at moved
      split at moved
      · cases moved
      · cases moved
      · next c _ hc =>
          obtain rfl := Option.some.inj moved
          obtain ⟨y, hforward, hstep⟩ := ho.step (OneMoved.set hc)
          refine ⟨y, hforward, ⟨hstep, hs.done_forward hforward⟩, rfl⟩
  | callSend message =>
      obtain rfl := Option.some.inj moved
      exact ⟨x, Session.Forward.refl x, ⟨ho, hs.done⟩, rfl⟩
  | send i =>
      simp only [move?] at moved
      split at moved
      · cases moved
      · cases moved
      · next call _ _ =>
          obtain rfl := Option.some.inj moved
          obtain ⟨y, hforward, hsent⟩ := ho.sending call
          exact ⟨y, hforward, ⟨hsent, hs.done_forward hforward⟩, rfl⟩
  | cancel =>
      obtain rfl := Option.some.inj moved
      obtain ⟨y, hforward, hcancelled⟩ := ho.update (f := Session.cancel) rfl rfl rfl
      exact ⟨y, hforward, ⟨hcancelled, hs.done_forward hforward⟩, rfl⟩

/-! ### Whole plays -/

/-- So it moves forward through every play. -/
theorem stands_play (moves : List SessionMove) (hs : s.Stands x)
    (played : play move? s moves = some t) :
    ∃ y, Session.Forward x y ∧ t.Stands y ∧ t.handle = s.handle := by
  refine play_induction (P := fun u => ∃ y, Session.Forward x y ∧ u.Stands y ∧ u.handle = s.handle)
    ?_ moves ⟨x, Session.Forward.refl x, hs, rfl⟩ played
  rintro u m v ⟨y, hforward, hu, hhandle⟩ moved
  obtain ⟨z, hnext, hv, hkept⟩ := stands_move m hu moved
  exact ⟨z, hforward.trans hnext, hv, hkept.trans hhandle⟩

/-- Nobody acts on a session that has just been accepted. -/
theorem stands_start (remote : SocketAddress) :
    (start remote).Stands { id := 1, remote, run := 0 } :=
  ⟨⟨rfl, nofun, nofun, nofun, nofun, nofun, nofun⟩, nofun⟩

/-- **A session never reopens and never lingers.**  At any two times of a play, first one and
then the other, the session is in no later phase at first.  If by the first time the call that
set the latch has made its exchanges, the session is neither accepting nor open at the second; if
it was latched, to register it is refused.  Once the task has ended and all calls that close it
have returned, it is closed and not a member. -/
theorem never_reopens_never_lingers {remote : SocketAddress} {before after : List SessionMove}
    {s t : OneSession} (reached : play move? (start remote) before = some s)
    (later : play move? s after = some t) :
    ∃ x y, s.session? = some x ∧ t.session? = some y ∧
      Lifecycle.number x.state ≤ Lifecycle.number y.state ∧
      ((∃ c ∈ s.calls, c.hasExchanged = true) → y.state ≠ .accepting ∧ y.state ≠ .opened) ∧
      (x.latched = true → (t.hub.register t.handle).1 = false) ∧
      (t.task = .ended → (∀ c ∈ t.closers, c = .returned) →
        y.state = .closed ∧ t.isMember = false) := by
  obtain ⟨x, -, hs, -⟩ := stands_play before (stands_start remote) reached
  obtain ⟨y, hforward, ht, -⟩ := stands_play after hs later
  refine ⟨x, y, hs.orderly.found, ht.orderly.found, hforward.phase, ?_, ?_, ?_⟩
  · rintro ⟨c, hc, hexchanged⟩
    exact hforward.isOver (hs.orderly.exchanged c hc hexchanged)
  · intro hlatched
    have hlatchedAt : t.hub.latchedAt t.handle = true := by
      rw [Hub.latchedAt, ht.orderly.found]
      exact hforward.latched hlatched
    rw [Hub.register_of_latched hlatchedAt]
  · intro hended hreturned
    obtain ⟨hclosed, hlatched⟩ := ht.done (by rw [hended]; rfl)
    refine ⟨hclosed, (ht.orderly.inside hlatched).resolve_left ?_⟩
    rintro ⟨c, hc, hinside⟩
    rw [calls, hended] at hc
    rw [hreturned c hc] at hinside
    cases hinside

/-- Another thread closes the session between its registration and its opening, so the latch is
set and the session still opens; the first exchange misses it, and the second does not. -/
def closedEarly : List SessionMove :=
  [.goOn, .callClose, .close 0, .goOn, .close 0, .close 0]

/-- The call goes on, and the task sees the cancellation, finds the latch set and finishes. -/
def finishedLate : List SessionMove :=
  [.close 0, .close 0, .seeCancelled, .goOn, .goOn, .goOn]

/-- Where the first of these moves lead. -/
def backInTime : OneSession where
  hub := {
    sessions := #[{
      id := 1, remote := .v4 .unspecified 0, run := 0
      state := .closing, latched := true }]
    members := [(1, 0)]
    lastId := 1 }
  handle := 0
  task := .opened
  closers := [.left]

/-- Where all of them lead. -/
def gone : OneSession where
  hub := {
    sessions := #[{
      id := 1, remote := .v4 .unspecified 0, run := 0
      state := .closed, latched := true, cancelled := true, receiving := false }]
    lastId := 1 }
  handle := 0
  task := .ended
  closers := [.returned]

theorem never_reopens_never_lingers_closedEarly :
    play move? (start (.v4 .unspecified 0)) closedEarly = some backInTime ∧
      play move? backInTime finishedLate = some gone ∧
      (gone.hub.register 0).1 = false ∧ gone.session?.map (·.state) = some .closed ∧
      gone.isMember = false := by
  have hbefore : play move? (start (.v4 .unspecified 0)) closedEarly = some backInTime := by cbv
  have hafter : play move? backInTime finishedLate = some gone := by cbv
  obtain ⟨x, y, hx, hy, -, -, hrefused, hended⟩ := never_reopens_never_lingers hbefore hafter
  have hlatched : x.latched = true := by
    obtain rfl := Option.some.inj hx
    rfl
  obtain ⟨hclosed, hout⟩ := hended rfl (by decide)
  refine ⟨hbefore, hafter, hrefused hlatched, ?_, hout⟩
  rw [hy, Option.map_some, hclosed]

end OneSession

end Interleaving

end Lifecast
