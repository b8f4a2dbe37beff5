/-
However many end a connection, its end is told once.

Calls to `disconnect` and a loop that notices the other side closed compete for the phase.  Two
exchanges lead out of `connected`, the one of the calls to `closing`, under the lock, and the one
of a loop to `disconnected`, without it.  Both start from `connected`, and nobody but a call to
`connect` leads back, so one of them at most succeeds, and whoever made it owes the telling
(`Parted.once`).

The record of the connection is taken out by a call that holds the lock, whether or not it made
the exchange.  A call that looks at the phase first and returns takes nothing, but it does so only
with engines whose loops notice nothing, and then the call that made the exchange sees to the
record (`Parted.held`).
-/
import Lifecast.Proofs.Client.Attribution
import Lifecast.Proofs.Client.Hearing

namespace Lifecast

namespace Interleaving

/-- Is it the end of a connection? -/
def LoopEvent.isEnd : LoopEvent → Bool
  | disconnected _ _ => true
  | connected _ | read _ _ | frame _ _ => false

namespace Leaving

/-- Has the call moved the phase to closing and not yet on? -/
def closes : Leaving → Bool
  | tried won | waiting won _ => won
  | called | looked | locked | cleared _ _ | telling _ _ | returned => false

/-- Has the call yet to tell the end of a connection? -/
def owes : Leaving → Bool
  | tried won | waiting won _ => won
  | cleared _ _ | telling _ _ => true
  | called | looked | locked | returned => false

/-- Has the call found, or seen to it, that the client is no longer connected? -/
def isLate : Leaving → Bool
  | tried _ | waiting _ _ | cleared _ _ | telling _ _ | returned => true
  | called | looked | locked => false

/-- Has the call found, or seen to it, that there is no record? -/
def hasTaken : Leaving → Bool
  | waiting _ _ | cleared _ _ | telling _ _ => true
  | called | looked | locked | tried _ | returned => false

end Leaving

/-- What can be seen of a client but for its calls. -/
structure View where
  kind : EngineKind
  state : ConnectionState
  record : Option Nat
  places : List LoopPlace
  log : List LoopEvent

namespace ReceiveLoops

/-- What can be seen of a client. -/
def view (s : ReceiveLoops) : View :=
  ⟨s.kind, s.state, s.record, s.loops.map (·.place), s.log⟩

/-! ### What a move does -/

variable {s t : ReceiveLoops} {v w : View} {call place : Leaving}

/-- A step of a call to `disconnect`. -/
inductive Leaves (v : View) : Leaving → Leaving → View → Prop where
  | looks : Leaves v .called .looked v
  | locks (from_ : Leaving) (early : from_ = .called ∨ from_ = .looked) : Leaves v from_ .locked v
  | turns (from_ : Leaving) (early : from_ = .called ∨ from_ = .locked)
      (looksFirst : v.kind.looksFirst = true) (late : v.state ≠ .connected) :
      Leaves v from_ .returned v
  | wins (now : v.state = .connected) : Leaves v .locked (.tried true) { v with state := .closing }
  | loses (late : v.state ≠ .connected) : Leaves v .locked (.tried false) v
  | takes (won : Bool) (k : Nat) : Leaves v (.tried won) (.waiting won k) { v with record := none }
  | misses (gone : v.record = none) : Leaves v (.tried false) .returned v
  | clears (farewell : Farewell) (gone : v.record = none) :
      Leaves v (.tried true) (.cleared none farewell) { v with state := .disconnected }
  | gives (k : Nat) : Leaves v (.waiting false k) .returned v
  | ends (k : Nat) (farewell : Farewell) :
      Leaves v (.waiting true k) (.cleared (some k) farewell) { v with state := .disconnected }
  | unlocks (connection : Option Nat) (farewell : Farewell) :
      Leaves v (.cleared connection farewell) (.telling connection farewell) v
  | tells (connection : Option Nat) (farewell : Farewell) :
      Leaves v (.telling connection farewell) .returned
        { v with log := v.log ++ [.disconnected connection farewell] }

/-- A move of a loop. -/
inductive Goes (v : View) : View → Prop where
  | plain {k : Nat} {old new : LoopPlace} {events : List LoopEvent}
      (there : v.places[k]? = some old) (hold : old.isTelling = false)
      (hnew : new.isTelling = false) (noticed : new = .noticed → v.kind.noticesClose = true)
      (quiet : ∀ e ∈ events, e.isEnd = false) :
      Goes v { v with places := v.places.set k new, log := v.log ++ events }
  | parts {k : Nat} (there : v.places[k]? = some .noticed) (now : v.state = .connected) :
      Goes v { v with state := .disconnected, places := v.places.set k (.telling v.record) }
  | tells {k : Nat} {connection : Option Nat} (farewell : Farewell)
      (there : v.places[k]? = some (.telling connection)) :
      Goes v { v with
        places := v.places.set k .ended, log := v.log ++ [.disconnected connection farewell] }

/-- Telling a loop to end, or letting it go, does not move it. -/
theorem places_modify {loops : List ReceiveLoop} {f : ReceiveLoop → ReceiveLoop} (k : Nat)
    (hplace : ∀ loop, (f loop).place = loop.place) :
    (loops.modify k f).map (·.place) = loops.map (·.place) := by
  refine List.ext_getElem? fun j => ?_
  rw [List.getElem?_map, List.getElem?_map, List.getElem?_modify]
  cases loops[j]? with
  | none => rfl
  | some loop =>
      by_cases hjk : k = j
      · simp [hjk, hplace]
      · simp [hjk]

theorem view_cancel (k : Nat) :
    ({ s.cancel k with record := none } : ReceiveLoops).view = { s.view with record := none } :=
  congrArg (View.mk s.kind s.state none · s.log) (places_modify k fun _ => rfl)

theorem view_release (k : Nat) : (s.release k).view = s.view :=
  congrArg (View.mk s.kind s.state s.record · s.log) (places_modify k fun _ => rfl)

theorem afterWait_leaves {caller : Option Nat} {won waited : Bool} {k : Nat}
    (step : s.afterWait caller won k waited = (place, t)) :
    Leaves s.view (.waiting won k) place t.view := by
  cases won with
  | true =>
      obtain ⟨rfl, rfl⟩ := Prod.mk.inj step
      exact .ends k _
  | false =>
      obtain ⟨rfl, rfl⟩ := Prod.mk.inj step
      exact .gives k

/-- Calls to `disconnect` make no other steps. -/
theorem leave?_leaves {caller : Option Nat} (step : s.leave? caller call = some (place, t)) :
    Leaves s.view call place t.view := by
  cases call with
  | called =>
      simp only [leave?] at step
      split at step
      · next hlooks =>
          obtain ⟨rfl, rfl⟩ := Prod.mk.inj (Option.some.inj step)
          split
          · exact .looks
          · next hlate => exact .turns _ (.inl rfl) hlooks hlate
      · obtain ⟨-, step⟩ := Option.ite_none_left_eq_some.mp step
        obtain ⟨rfl, rfl⟩ := Prod.mk.inj (Option.some.inj step)
        exact .locks _ (.inl rfl)
  | looked =>
      obtain ⟨-, step⟩ := Option.ite_none_left_eq_some.mp step
      obtain ⟨rfl, rfl⟩ := Prod.mk.inj (Option.some.inj step)
      exact .locks _ (.inr rfl)
  | locked =>
      by_cases hstate : s.state = .connected
      · simp only [leave?, Phase.exchange, hstate, if_true, Bool.not_true, Bool.and_false,
          Bool.false_eq_true, if_false] at step
        obtain ⟨rfl, rfl⟩ := Prod.mk.inj (Option.some.inj step)
        exact .wins hstate
      · simp only [leave?, Phase.exchange, hstate, if_false, Bool.not_false, Bool.and_true] at step
        split at step
        · next hlooks =>
            obtain ⟨rfl, rfl⟩ := Prod.mk.inj (Option.some.inj step)
            exact .turns _ (.inr rfl) hlooks hstate
        · obtain ⟨rfl, rfl⟩ := Prod.mk.inj (Option.some.inj step)
          exact .loses hstate
  | tried won =>
      simp only [leave?] at step
      split at step
      · next k _ =>
          obtain ⟨rfl, rfl⟩ := Prod.mk.inj (Option.some.inj step)
          rw [view_cancel]
          exact .takes won k
      · next hrecord =>
          have hgone : s.view.record = none := hrecord
          cases won with
          | true =>
              obtain ⟨rfl, rfl⟩ := Prod.mk.inj (Option.some.inj step)
              exact .clears _ hgone
          | false =>
              obtain ⟨rfl, rfl⟩ := Prod.mk.inj (Option.some.inj step)
              exact .misses hgone
  | waiting won k =>
      obtain ⟨-, step⟩ := Option.ite_none_right_eq_some.mp step
      exact afterWait_leaves (Option.some.inj step)
  | cleared connection farewell =>
      obtain ⟨rfl, rfl⟩ := Prod.mk.inj (Option.some.inj step)
      exact .unlocks connection farewell
  | telling connection farewell =>
      obtain ⟨rfl, rfl⟩ := Prod.mk.inj (Option.some.inj step)
      exact .tells connection farewell
  | returned => cases step

/-- A call that has returned makes no step. -/
theorem not_leaves_returned : ¬Leaves v .returned place w := by
  intro hstep
  cases hstep with
  | locks _ hearly | turns _ hearly => rcases hearly with heq | heq <;> cases heq

theorem giveUp?_leaves {caller : Option Nat} (step : s.giveUp? caller call = some (place, t)) :
    Leaves s.view call place t.view := by
  cases call with
  | waiting won k =>
      obtain ⟨-, step⟩ := Option.ite_none_right_eq_some.mp step
      exact afterWait_leaves (Option.some.inj step)
  | called | looked | locked | tried won | cleared connection farewell
  | telling connection farewell | returned => cases step

/-- A loop that goes from one place to another, neither of which has to do with an end. -/
theorem goes_put {k : Nat} {loop : ReceiveLoop} (new : LoopPlace) (events : List LoopEvent)
    (hloop : s.loops[k]? = some loop) (hview : t.view = { s.view with
      places := s.view.places.set k new, log := s.view.log ++ events })
    (hold : loop.place.isTelling = false) (hnew : new.isTelling = false)
    (hnoticed : new = .noticed → s.kind.noticesClose = true)
    (hquiet : ∀ e ∈ events, e.isEnd = false) : Goes s.view t.view := by
  have hthere : s.view.places[k]? = some loop.place := by simp [view, hloop]
  rw [hview]
  exact .plain hthere hold hnew hnoticed hquiet

theorem view_put (k : Nat) (loop : ReceiveLoop) (new : LoopPlace) :
    (s.put k loop new).view
      = { s.view with places := s.view.places.set k new, log := s.view.log ++ [] } := by
  simp [view, put, List.map_set]

/-- A loop that goes on. -/
theorem goOn?_goes {k : Nat} {loop : ReceiveLoop} (hloop : s.loops[k]? = some loop)
    (step : s.goOn? k loop = some t) : Goes s.view t.view := by
  cases hplace : loop.place with
  | held | idle | inCallback rest =>
      simp only [goOn?, hplace] at step
      split at step <;> cases step
      exact goes_put _ [] hloop (view_put k loop _) (by rw [hplace]; rfl) rfl (by simp) (by simp)
  | awaiting =>
      simp only [goOn?, hplace] at step
      cases step
      exact goes_put _ [] hloop (view_put k loop _) (by rw [hplace]; rfl) rfl (by simp) (by simp)
  | handing rest =>
      cases rest with
      | nil =>
          simp only [goOn?, hplace] at step
          cases step
          exact goes_put _ [] hloop (view_put k loop _) (by rw [hplace]; rfl) rfl (by simp)
            (by simp)
      | cons frame rest =>
          simp only [goOn?, hplace] at step
          cases step
          refine goes_put (.inCallback rest) [.frame k frame] hloop ?_ (by rw [hplace]; rfl) rfl
            (by simp) ?_
          · simp [view, put, note, List.map_set]
          · simp [LoopEvent.isEnd]
  | noticed =>
      simp only [goOn?, hplace] at step
      obtain rfl := Option.some.inj step
      by_cases hstate : s.state = .connected
      · have hthere : s.view.places[k]? = some .noticed := by simp [view, hloop, hplace]
        simpa [view, put, List.map_set, Phase.exchange, hstate] using
          Goes.parts (v := s.view) hthere hstate
      · refine goes_put .ended [] hloop ?_ (by rw [hplace]; rfl) rfl (by simp) (by simp)
        simp [view, put, List.map_set, Phase.exchange, hstate]
  | telling connection =>
      simp only [goOn?, hplace] at step
      obtain rfl := Option.some.inj step
      have hthere : s.view.places[k]? = some (.telling connection) := by simp [view, hloop, hplace]
      simpa [view, put, note, List.map_set] using Goes.tells (.loop (connection = some k)) hthere
  | ended => simp [goOn?, hplace] at step

/-- A loop that may read has nothing in hand. -/
theorem mayRead_place {kind : EngineKind} {place : LoopPlace} (h : mayRead kind place = true) :
    place = .awaiting ∨ place = .idle := by
  cases kind with
  | pooledMulticast => exact Or.inl (of_decide_eq_true h)
  | multicast | webSocket => exact Or.inr (of_decide_eq_true h)

/-- Loops make no other moves. -/
theorem loopMove?_goes {k : Nat} {loop : ReceiveLoop} {m : LoopMove}
    (hloop : s.loops[k]? = some loop) (step : s.loopMove? k loop m = some t) :
    Goes s.view t.view := by
  cases m with
  | goOn j => exact goOn?_goes hloop step
  | read j chunk =>
      obtain ⟨hmay, ht⟩ := Option.ite_none_right_eq_some.mp step
      obtain rfl := Option.some.inj ht
      refine goes_put (.handing (loop.buffer.feed chunk).2) [.read k chunk] hloop ?_ ?_ rfl
        (by simp) ?_
      · simp only [view, put, note, List.map_set]
        rfl
      · rcases mayRead_place hmay with hplace | hplace <;> rw [hplace] <;> rfl
      · simp [LoopEvent.isEnd]
  | seeCancelled j =>
      obtain ⟨hmay, ht⟩ := Option.ite_none_right_eq_some.mp step
      obtain rfl := Option.some.inj ht
      refine goes_put _ [] hloop (view_put k loop _) ?_ rfl (by simp) (by simp)
      rcases maySee_place (Bool.and_eq_true_iff.mp hmay).2 with hplace | hplace | hplace <;>
        rw [hplace] <;> rfl
  | notice j =>
      obtain ⟨hmay, ht⟩ := Option.ite_none_right_eq_some.mp step
      obtain rfl := Option.some.inj ht
      obtain ⟨hnotices, hidle⟩ := Bool.and_eq_true_iff.mp hmay
      refine goes_put _ [] hloop (view_put k loop _) ?_ rfl (fun _ => hnotices) (by simp)
      rw [of_decide_eq_true hidle]
      rfl
  | callConnect caller opened | connect i | callDisconnect caller | disconnect i | giveUp i =>
      cases step

/-! ### Who owes the telling -/

variable {u : View} {c next : Leaving} {calls others : List Leaving}

/-- How a client stands that was connected, and on which nobody has called to connect since: `u` is
how it was then, and these are the places of the calls to `disconnect` made since. -/
structure Settles (u v : View) (calls : List Leaving) : Prop where
  log : u.log <+: v.log
  once : (decide (v.state = .connected)).toNat + calls.countP Leaving.owes
    + v.places.countP LoopPlace.isTelling + v.log.countP LoopEvent.isEnd
      = u.log.countP LoopEvent.isEnd + 1
  closing : calls.countP Leaving.closes = (decide (v.state = .closing)).toNat
  begun : v.state ≠ .connecting
  late : ∀ c ∈ calls, c.isLate = true → v.state ≠ .connected
  taken : ∀ c ∈ calls, c.hasTaken = true → v.record = none
  returned : v.kind.looksFirst = false → .returned ∈ calls → v.record = none
  held : v.kind.looksFirst = true → v.record = none ∨ v.state = .connected ∨ .tried true ∈ calls
  unnoticed : v.kind.looksFirst = true → .noticed ∉ v.places

/-- A call that is to move the phase out of closing finds it there. -/
theorem Settles.closing_of_closes (h : Settles u v calls) (hmem : c ∈ calls)
    (hcloses : c.closes = true) : v.state = .closing := by
  have hsome : 0 < calls.countP Leaving.closes := List.countP_pos_iff.mpr ⟨c, hmem, hcloses⟩
  rw [h.closing] at hsome
  by_contra hstate
  rw [decide_eq_false hstate] at hsome
  exact absurd hsome (Nat.lt_irrefl 0)

/-- A call that goes on and leaves the client as it is. -/
theorem Settles.stay (h : Settles u v calls) (hmoved : OneMoved c next calls others)
    (howes : next.owes = c.owes) (hcloses : next.closes = c.closes)
    (hlate : next.isLate = true → v.state ≠ .connected)
    (htaken : next.hasTaken = true → v.record = none)
    (hreturned : v.kind.looksFirst = false → next = .returned → v.record = none)
    (hheld : c = .tried true → v.record = none) : Settles u v others := by
  have hall := hmoved.countP Leaving.owes
  have hclosing := hmoved.countP Leaving.closes
  rw [howes, Nat.add_right_cancel_iff] at hall
  rw [hcloses, Nat.add_right_cancel_iff] at hclosing
  refine ⟨h.log, hall ▸ h.once, hclosing ▸ h.closing, h.begun, ?_, ?_, ?_, ?_, h.unnoticed⟩
  · intro d hd hdlate
    rcases hmoved.old d hd with rfl | hold
    · exact hlate hdlate
    · exact h.late d hold hdlate
  · intro d hd hdtaken
    rcases hmoved.old d hd with rfl | hold
    · exact htaken hdtaken
    · exact h.taken d hold hdtaken
  · intro hkind hd
    rcases hmoved.old _ hd with heq | hold
    · exact hreturned hkind heq.symm
    · exact h.returned hkind hold
  · intro hkind
    rcases h.held hkind with hgone | hstate | hmem
    · exact Or.inl hgone
    · exact Or.inr (Or.inl hstate)
    · by_cases heq : Leaving.tried true = c
      · exact Or.inl (hheld heq.symm)
      · exact Or.inr (Or.inr (hmoved.kept _ hmem heq))

/-- The record may be taken out. -/
theorem Settles.take (h : Settles u v calls) : Settles u { v with record := none } calls :=
  ⟨h.log, h.once, h.closing, h.begun, h.late, fun _ _ _ => rfl, fun _ _ => rfl,
    fun _ => Or.inl rfl, h.unnoticed⟩

/-- The call that moves the phase to closing owes the telling from then on. -/
theorem Settles.wins (h : Settles u v calls) (hmoved : OneMoved .locked (.tried true) calls others)
    (hnow : v.state = .connected) : Settles u { v with state := .closing } others := by
  have hall := hmoved.countP Leaving.owes
  have hclosing := hmoved.countP Leaving.closes
  have honce := h.once
  have hnone := h.closing
  simp only [hnow, Leaving.owes, Leaving.closes, decide_true, Bool.toNat_true, Bool.toNat_false,
    reduceCtorEq, decide_false] at hall hclosing honce hnone
  have hold : ∀ d ∈ others, d ≠ .tried true → d ∈ calls := fun d hd hne =>
    (hmoved.old d hd).resolve_left hne
  refine ⟨h.log, ?_, ?_, nofun, fun _ _ _ => nofun, ?_, ?_, fun _ => Or.inr (Or.inr hmoved.is),
    h.unnoticed⟩
  · simp only [reduceCtorEq, decide_false, Bool.toNat_false]
    omega
  · simp only [decide_true, Bool.toNat_true]
    omega
  · intro d hd htaken
    refine h.taken d (hold d hd ?_) htaken
    rintro rfl
    cases htaken
  · exact fun hkind hd => h.returned hkind (hold _ hd nofun)

/-- The call that moves it on still owes the telling. -/
theorem Settles.ends {connection : Option Nat} {farewell : Farewell} (h : Settles u v calls)
    (hmoved : OneMoved c (.cleared connection farewell) calls others) (hcloses : c.closes = true)
    (hgone : v.record = none) : Settles u { v with state := .disconnected } others := by
  have hstate := h.closing_of_closes hmoved.was hcloses
  have howes : c.owes = true := by
    cases c with
    | tried won | waiting won k => exact hcloses
    | called | looked | locked | cleared _ _ | telling _ _ | returned => cases hcloses
  have hall := hmoved.countP Leaving.owes
  have hclosing := hmoved.countP Leaving.closes
  have honce := h.once
  have hone := h.closing
  rw [howes] at hall
  rw [hcloses] at hclosing
  simp only [hstate, Leaving.owes, Leaving.closes, decide_true, Bool.toNat_true, Bool.toNat_false,
    reduceCtorEq, decide_false] at hall hclosing honce hone
  refine ⟨h.log, ?_, ?_, nofun, fun _ _ _ => nofun, fun _ _ _ => hgone, fun _ _ => hgone,
    fun _ => Or.inl hgone, h.unnoticed⟩
  · simp only [reduceCtorEq, decide_false, Bool.toNat_false]
    omega
  · simp only [reduceCtorEq, decide_false, Bool.toNat_false]
    omega

/-- The call that tells owes nothing any more. -/
theorem Settles.tells {connection : Option Nat} {farewell : Farewell} (h : Settles u v calls)
    (hmoved : OneMoved (.telling connection farewell) .returned calls others) :
    Settles u { v with log := v.log ++ [.disconnected connection farewell] } others := by
  have hgone : v.record = none := h.taken _ hmoved.was rfl
  have hlate : v.state ≠ .connected := h.late _ hmoved.was rfl
  have hall := hmoved.countP Leaving.owes
  have hclosing := hmoved.countP Leaving.closes
  simp only [Leaving.owes, Leaving.closes, Bool.toNat_true, Bool.toNat_false] at hall hclosing
  refine ⟨h.log.trans (List.prefix_append _ _), ?_, ?_, h.begun, fun _ _ _ => hlate,
    fun _ _ _ => hgone, fun _ _ => hgone, fun _ => Or.inl hgone, h.unnoticed⟩
  · have honce := h.once
    simp only [List.countP_append, List.countP_singleton, LoopEvent.isEnd, if_true]
    omega
  · rw [← h.closing]
    omega

/-- Every step of a call. -/
theorem Settles.leaves (h : Settles u v calls) (hmoved : OneMoved c next calls others)
    (hstep : Leaves v c next w) : Settles u w others := by
  cases hstep with
  | looks => exact h.stay hmoved rfl rfl nofun nofun nofun nofun
  | locks _ hearly =>
      rcases hearly with rfl | rfl <;> exact h.stay hmoved rfl rfl nofun nofun nofun nofun
  | turns _ hearly hlooks hlate =>
      have hreturned : v.kind.looksFirst = false → Leaving.returned = .returned →
          v.record = none := fun hkind => by
        rw [hlooks] at hkind
        cases hkind
      rcases hearly with rfl | rfl <;>
        exact h.stay hmoved rfl rfl (fun _ => hlate) nofun hreturned nofun
  | wins hnow => exact h.wins hmoved hnow
  | loses hlate => exact h.stay hmoved rfl rfl (fun _ => hlate) nofun nofun nofun
  | takes won k =>
      have hlate := h.late _ hmoved.was rfl
      exact h.take.stay hmoved rfl rfl (fun _ => hlate) (fun _ => rfl) nofun fun _ => rfl
  | misses hgone =>
      have hlate := h.late _ hmoved.was rfl
      exact h.stay hmoved rfl rfl (fun _ => hlate) nofun (fun _ _ => hgone) fun _ => hgone
  | clears farewell hgone => exact h.ends hmoved rfl hgone
  | gives k =>
      have hlate := h.late _ hmoved.was rfl
      have hgone := h.taken _ hmoved.was rfl
      exact h.stay hmoved rfl rfl (fun _ => hlate) nofun (fun _ _ => hgone) nofun
  | ends k farewell => exact h.ends hmoved rfl (h.taken _ hmoved.was rfl)
  | unlocks connection farewell =>
      have hlate := h.late _ hmoved.was rfl
      have hgone := h.taken _ hmoved.was rfl
      exact h.stay hmoved rfl rfl (fun _ => hlate) (fun _ => hgone) nofun nofun
  | tells connection farewell => exact h.tells hmoved

/-- With engines that look first, no loop notices anything. -/
theorem Goes.unnoticed (hstep : Goes v w)
    (h : v.kind.looksFirst = true → .noticed ∉ v.places) :
    w.kind.looksFirst = true → .noticed ∉ w.places := by
  have hset : ∀ {k : Nat} {new : LoopPlace}, (new = .noticed → v.kind.noticesClose = true) →
      v.kind.looksFirst = true → .noticed ∉ v.places.set k new := by
    intro k new hnew hlooks hmem
    rcases List.mem_or_eq_of_mem_set hmem with hold | heq
    · exact h hlooks hold
    · have hnotices := hnew heq.symm
      cases hkind : v.kind <;> rw [hkind] at hlooks hnotices <;> cases hlooks <;> cases hnotices
  cases hstep with
  | plain _ _ _ hnoticed _ => exact hset hnoticed
  | parts _ _ => exact hset nofun
  | tells _ _ => exact hset nofun

/-- Every move of a loop.  The loop that moves the phase out of connected owes the telling. -/
theorem Settles.goes (h : Settles u v calls) (hstep : Goes v w) : Settles u w calls := by
  have hunnoticed := hstep.unnoticed h.unnoticed
  cases hstep with
  | @plain k old new events hthere hold hnew hnoticed hquiet =>
      have htelling := (OneMoved.of_set hthere new).countP LoopPlace.isTelling
      have hends : events.countP LoopEvent.isEnd = 0 := by
        rw [List.countP_eq_zero]
        intro e he
        simp [hquiet e he]
      simp only [hold, hnew] at htelling
      refine ⟨h.log.trans (List.prefix_append _ _), ?_, h.closing, h.begun, h.late, h.taken,
        h.returned, h.held, hunnoticed⟩
      have honce := h.once
      simp only [List.countP_append, hends]
      omega
  | @parts k hthere hnow =>
      have htelling := (OneMoved.of_set hthere (.telling v.record)).countP LoopPlace.isTelling
      have hkind : ¬ v.kind.looksFirst = true := fun hlooks =>
        h.unnoticed hlooks (List.mem_of_getElem? hthere)
      have honce := h.once
      have hclosing := h.closing
      simp only [LoopPlace.isTelling, Bool.toNat_true, Bool.toNat_false, hnow, decide_true,
        reduceCtorEq, decide_false] at htelling honce hclosing
      refine ⟨h.log, ?_, ?_, nofun, fun _ _ _ => nofun, h.taken, h.returned,
        fun hlooks => absurd hlooks hkind, hunnoticed⟩
      · simp only [reduceCtorEq, decide_false, Bool.toNat_false]
        omega
      · simp only [reduceCtorEq, decide_false, Bool.toNat_false]
        exact hclosing
  | @tells k connection farewell hthere =>
      have htelling := (OneMoved.of_set hthere .ended).countP LoopPlace.isTelling
      simp only [LoopPlace.isTelling, Bool.toNat_true, Bool.toNat_false] at htelling
      refine ⟨h.log.trans (List.prefix_append _ _), ?_, h.closing, h.begun, h.late, h.taken,
        h.returned, h.held, hunnoticed⟩
      have honce := h.once
      simp only [List.countP_append, List.countP_singleton, LoopEvent.isEnd, if_true]
      omega

/-- A further call. -/
theorem Settles.called (h : Settles u v calls) : Settles u v (calls ++ [.called]) := by
  refine ⟨h.log, ?_, ?_, h.begun, ?_, ?_, ?_, ?_, h.unnoticed⟩
  · simpa [List.countP_append, Leaving.owes] using h.once
  · simpa [List.countP_append, Leaving.closes] using h.closing
  · intro c hc hlate
    rcases List.mem_append.mp hc with hold | hnew
    · exact h.late c hold hlate
    · rw [List.mem_singleton.mp hnew] at hlate
      cases hlate
  · intro c hc htaken
    rcases List.mem_append.mp hc with hold | hnew
    · exact h.taken c hold htaken
    · rw [List.mem_singleton.mp hnew] at htaken
      cases htaken
  · intro hkind hc
    rcases List.mem_append.mp hc with hold | hnew
    · exact h.returned hkind hold
    · cases List.mem_singleton.mp hnew
  · exact fun hkind => (h.held hkind).imp_right (Or.imp_right (List.mem_append_left _))

/-! ### Whole plays -/

/-- Where the calls to `disconnect` from number `n` on have got to. -/
def since (s : ReceiveLoops) (n : Nat) : List Leaving :=
  (s.leaves.drop n).map (·.place)

/-- A client on which nobody has called to connect since it was `s`, and to end the connection
only so often. -/
structure Ends (s t : ReceiveLoops) : Prop where
  settles : Settles s.view t.view (t.since s.leaves.length)
  joins : ∀ call ∈ t.joins, ∃ result, call.place = .returned result
  older : ∀ i call, i < s.leaves.length → t.leaves[i]? = some call → call.place = .returned
  more : s.leaves.length ≤ t.leaves.length


/-- A step of one of the later calls. -/
theorem oneMoved_since {r : ReceiveLoops} {i n : Nat} {call : MadeBy Leaving} (place : Leaving)
    (hcall : s.leaves[i]? = some call) (hleaves : r.leaves = s.leaves) (hlater : n ≤ i) :
    OneMoved call.place place (s.since n)
      (since { r with leaves := r.leaves.set i { call with place } } n) := by
  have hthere : (s.since n)[i - n]? = some call.place := by
    simp [since, Nat.add_sub_cancel' hlater, hcall]
  have hset : since { r with leaves := r.leaves.set i { call with place } } n
      = (s.since n).set (i - n) place := by
    simp [since, hleaves, List.drop_set, Nat.not_lt.mpr hlater, List.map_set]
  rw [hset]
  exact OneMoved.of_set hthere place

/-- A step of a call to `disconnect`. -/
theorem Ends.leave {r : ReceiveLoops} {i : Nat} {call : MadeBy Leaving} {place : Leaving}
    (h : Ends s t) (hcall : t.leaves[i]? = some call)
    (hcalls : r.leaves = t.leaves ∧ r.joins = t.joins)
    (hstep : Leaves t.view call.place place r.view) :
    Ends s { r with leaves := r.leaves.set i { call with place } } := by
  obtain ⟨hleaves, hjoins⟩ := hcalls
  have hlater : s.leaves.length ≤ i := by
    by_contra hearlier
    rw [h.older i call (Nat.lt_of_not_le hearlier) hcall] at hstep
    exact not_leaves_returned hstep
  refine ⟨h.settles.leaves (oneMoved_since place hcall hleaves hlater) hstep, ?_, ?_, ?_⟩
  · exact fun c hc => h.joins c (hjoins ▸ hc)
  · intro j other hj hother
    refine h.older j other hj ?_
    have hother : (r.leaves.set i { call with place })[j]? = some other := hother
    rwa [hleaves, List.getElem?_set_ne (by omega)] at hother
  · simpa [hleaves] using h.more

/-- Every move but a call to connect. -/
theorem Ends.move {r : ReceiveLoops} {m : LoopMove} (h : Ends s t)
    (hm : ∀ caller opened, m ≠ .callConnect caller opened) (moved : t.move? m = some r) :
    Ends s r := by
  cases m with
  | callConnect caller opened => exact absurd rfl (hm caller opened)
  | connect i =>
      obtain ⟨call, place, u, hcall, hstep, -⟩ := connect_eq_some moved
      obtain ⟨result, hreturned⟩ := h.joins call (List.mem_of_getElem? hcall)
      rw [hreturned] at hstep
      cases hstep
  | callDisconnect caller =>
      obtain ⟨-, hr⟩ := Option.ite_none_right_eq_some.mp moved
      obtain rfl := Option.some.inj hr
      refine ⟨?_, h.joins, ?_, ?_⟩
      · have hcalled := h.settles.called
        rwa [show t.since s.leaves.length ++ [.called]
          = since { t with leaves := t.leaves ++ [⟨caller, .called⟩] } s.leaves.length by
            simp [since, List.drop_append_of_le_length h.more]] at hcalled
      · intro i call hi hcall
        refine h.older i call hi ?_
        rwa [show ({ t with leaves := t.leaves ++ [⟨caller, .called⟩] } : ReceiveLoops).leaves
          = t.leaves ++ [⟨caller, .called⟩] from rfl,
          List.getElem?_append_left (Nat.lt_of_lt_of_le hi h.more)] at hcall
      · have hmore := h.more
        simp only [List.length_append]
        omega
  | disconnect i =>
      obtain ⟨call, place, u, hcall, hstep, rfl⟩ := withLeave_eq_some moved
      exact h.leave hcall (leave?_calls hstep) (leave?_leaves hstep)
  | giveUp i =>
      obtain ⟨call, place, u, hcall, hstep, rfl⟩ := withLeave_eq_some moved
      exact h.leave hcall (giveUp?_calls hstep) (giveUp?_leaves hstep)
  | goOn k | read k chunk | seeCancelled k | notice k =>
      obtain ⟨loop, hloop, hstep⟩ := withLoop_eq_some moved
      obtain ⟨hleaves, hjoins, -⟩ := loopMove?_calls hstep
      have hsettles := h.settles.goes (loopMove?_goes hloop hstep)
      refine ⟨?_, hjoins ▸ h.joins, hleaves ▸ h.older, hleaves ▸ h.more⟩
      rwa [show t.since s.leaves.length = r.since s.leaves.length by rw [since, since, hleaves]]
        at hsettles

theorem ends_play {moves : List LoopMove} {r : ReceiveLoops} (h : Ends s t)
    (hmoves : ∀ caller opened, .callConnect caller opened ∉ moves)
    (played : play move? t moves = some r) : Ends s r := by
  induction moves generalizing t with
  | nil =>
      rw [play, Option.some.injEq] at played
      exact played ▸ h
  | cons m rest ih =>
      unfold play at played
      split at played
      · cases played
      · next u moved =>
          refine ih (h.move ?_ moved) ?_ played
          · rintro caller opened rfl
            exact hmoves caller opened List.mem_cons_self
          · exact fun caller opened hmem => hmoves caller opened (List.mem_cons_of_mem m hmem)

/-! ### From the first connection on -/

/-- A call to connect makes loops, but none that has noticed anything. -/
theorem join?_unnoticed {call place : Joining} (step : s.join? call = some (place, t)) :
    t.kind = s.kind ∧ (.noticed ∈ t.view.places → .noticed ∈ s.view.places) := by
  cases call with
  | called opened =>
      simp only [join?] at step
      repeat' split at step
      all_goals cases step <;> exact ⟨rfl, id⟩
  | clearing opened =>
      simp only [join?] at step
      split at step
      · obtain ⟨rfl, rfl⟩ := Prod.mk.inj (Option.some.inj step)
        exact ⟨rfl, id⟩
      · next k _ =>
          obtain ⟨rfl, rfl⟩ := Prod.mk.inj (Option.some.inj step)
          rw [view_cancel]
          exact ⟨rfl, id⟩
  | opening opened =>
      cases opened with
      | error e =>
          obtain ⟨rfl, rfl⟩ := Prod.mk.inj (Option.some.inj step)
          exact ⟨rfl, id⟩
      | ok opened =>
          obtain ⟨rfl, rfl⟩ := Prod.mk.inj (Option.some.inj step)
          exact ⟨rfl, by simp [view]⟩
  | telling k =>
      obtain ⟨rfl, rfl⟩ := Prod.mk.inj (Option.some.inj step)
      exact ⟨rfl, id⟩
  | releasing k =>
      obtain ⟨rfl, rfl⟩ := Prod.mk.inj (Option.some.inj step)
      rw [view_release]
      exact ⟨rfl, id⟩
  | returned result => cases step

/-- No call to `disconnect` moves a loop. -/
theorem Leaves.same (hstep : Leaves v call place w) : w.kind = v.kind ∧ w.places = v.places := by
  cases hstep <;> exact ⟨rfl, rfl⟩

theorem unnoticed_move {m : LoopMove} (h : s.view.kind.looksFirst = true → .noticed ∉ s.view.places)
    (moved : s.move? m = some t) : t.view.kind.looksFirst = true → .noticed ∉ t.view.places := by
  have hleave : ∀ {call place : Leaving} {r : ReceiveLoops}, Leaves s.view call place r.view →
      r.view.kind.looksFirst = true → .noticed ∉ r.view.places := by
    intro call place r hstep
    obtain ⟨hkind, hplaces⟩ := hstep.same
    rw [hkind, hplaces]
    exact h
  cases m with
  | callConnect caller opened | callDisconnect caller =>
      obtain ⟨-, ht⟩ := Option.ite_none_right_eq_some.mp moved
      obtain rfl := Option.some.inj ht
      exact h
  | connect i =>
      obtain ⟨call, place, r, -, hstep, rfl⟩ := connect_eq_some moved
      obtain ⟨hkind, hplaces⟩ := join?_unnoticed hstep
      intro hlooks hmem
      have hlooks : r.kind.looksFirst = true := hlooks
      rw [hkind] at hlooks
      exact h hlooks (hplaces hmem)
  | disconnect i =>
      obtain ⟨call, place, r, -, hstep, rfl⟩ := withLeave_eq_some moved
      exact hleave (r := r) (leave?_leaves hstep)
  | giveUp i =>
      obtain ⟨call, place, r, -, hstep, rfl⟩ := withLeave_eq_some moved
      exact hleave (r := r) (giveUp?_leaves hstep)
  | goOn k | read k chunk | seeCancelled k | notice k =>
      obtain ⟨loop, hloop, hstep⟩ := withLoop_eq_some moved
      exact (loopMove?_goes hloop hstep).unnoticed h

/-- All calls have returned, and no loop has anything to tell. -/
structure AtRest (s : ReceiveLoops) : Prop where
  joins : ∀ call ∈ s.joins, ∃ result, call.place = .returned result
  leaves : ∀ call ∈ s.leaves, call.place = .returned
  loops : ∀ loop ∈ s.loops, loop.place.isTelling = false

theorem AtRest.countP_places (h : s.AtRest) : s.view.places.countP LoopPlace.isTelling = 0 := by
  rw [List.countP_eq_zero]
  intro place hplace
  obtain ⟨loop, hloop, rfl⟩ := List.mem_map.mp hplace
  simp [h.loops loop hloop]

/-- Nobody holds the lock then. -/
theorem AtRest.free (h : s.AtRest) (hnamed : s.Named s.grips) : s.locked = false := by
  have hnobody : s.grips.countP Grip.holdsLock = 0 := by
    rw [List.countP_eq_zero]
    intro g hg
    rcases List.mem_append.mp hg with hjoin | hleave
    · obtain ⟨call, hcall, rfl⟩ := List.mem_map.mp hjoin
      obtain ⟨result, hreturned⟩ := h.joins call hcall
      simp [hreturned, Joining.grip, Grip.holdsLock]
    · obtain ⟨call, hcall, rfl⟩ := List.mem_map.mp hleave
      simp [h.leaves call hcall, Leaving.grip, Grip.holdsLock]
  have halone := hnamed.alone
  rw [hnobody] at halone
  cases hlocked : s.locked with
  | false => rfl
  | true =>
      rw [hlocked] at halone
      cases halone

/-- The beginning. -/
theorem ends_refl (hrest : s.AtRest) (hconnected : s.state = .connected)
    (hunnoticed : s.view.kind.looksFirst = true → .noticed ∉ s.view.places) : Ends s s := by
  have hstate : s.view.state = .connected := hconnected
  have hnone : s.since s.leaves.length = [] := by simp [since]
  refine ⟨?_, hrest.joins, fun i call _ hcall => hrest.leaves call (List.mem_of_getElem? hcall),
    Nat.le_refl _⟩
  rw [hnone]
  refine ⟨List.prefix_refl _, ?_, ?_, ?_, nofun, nofun, nofun, fun _ => .inr (.inl hstate),
    hunnoticed⟩
  · rw [hrest.countP_places, hstate]
    simp [Nat.add_comm]
  · rw [hstate]
    rfl
  · rw [hstate]
    nofun

/-- Who calls to connect then, with nothing in between, connects if that is possible. -/
theorem play_join (hfree : s.locked = false) (hstate : s.state = .disconnected)
    (hrecord : s.record = none) (opened : Except EngineError Unit) :
    ∃ n t, play move? s
      (.callConnect none opened :: .replicate n (.connect s.joins.length)) = some t ∧
      t.joins = s.joins ++ [⟨none, .returned opened⟩] := by
  cases opened with
  | error e =>
      refine ⟨3, { s with joins := s.joins ++ [⟨none, .returned (.error e)⟩] }, ?_, rfl⟩
      simp [play, move?, mayCall, join?, List.replicate, Phase.exchange, hfree, hstate, hrecord]
  | ok opened =>
      refine ⟨5, { s with
        state := .connected, record := some s.loops.length
        loops := (s.loops ++ [({ buffer := .empty s.delimiter } : ReceiveLoop)]).modify
          s.loops.length fun loop => { loop with released := true }
        joins := s.joins ++ [⟨none, .returned (.ok opened)⟩]
        log := s.log ++ [.connected s.loops.length] }, ?_, rfl⟩
      simp [play, move?, mayCall, join?, List.replicate, Phase.exchange, hfree, hstate, hrecord,
        note, release]

/-- **However many end a connection, its end is told once.**  A client is connected, all calls
have returned, and nobody has anything to tell.  Then any number of calls to `disconnect` are
made, one at least, whoever makes them, and loops may notice that the other side has closed,
whenever they can.  When all calls have returned and nobody has anything to tell, one end has been
told, the client is disconnected without a record, and who calls to connect connects if that is
possible. -/
theorem ended_once (kind : EngineKind) (d : UInt8) {before after : List LoopMove}
    {s t : ReceiveLoops} (reached : play move? (start kind d) before = some s)
    (rested : s.AtRest) (connected : s.state = .connected)
    (unjoined : ∀ caller opened, .callConnect caller opened ∉ after)
    (later : play move? s after = some t) (resting : t.AtRest)
    (ended : s.leaves.length < t.leaves.length) :
    (∃ events, t.log = s.log ++ events ∧ events.countP LoopEvent.isEnd = 1) ∧
      t.state = .disconnected ∧ t.record = none ∧
      ∀ opened, ∃ n u, play move? t
        (.callConnect none opened :: .replicate n (.connect t.joins.length)) = some u ∧
          u.joins = t.joins ++ [⟨none, .returned opened⟩] := by
  have hunnoticed : s.view.kind.looksFirst = true → .noticed ∉ s.view.places :=
    play_induction (P := fun s => s.view.kind.looksFirst = true → .noticed ∉ s.view.places)
      (fun _ _ _ h hmove => unnoticed_move h hmove) before (fun _ => by simp [view, start]) reached
  have hplayed : play move? (start kind d) (before ++ after) = some t := by
    rw [play_append, reached, Option.bind_some, later]
  have hnamed : t.Named t.grips :=
    play_induction (P := fun s => s.Named s.grips) (fun _ _ _ h hmove => h.move hmove)
      (before ++ after) (named_start kind d) hplayed
  obtain ⟨hsettles, -, -, -⟩ :=
    ends_play (ends_refl rested connected hunnoticed) unjoined later
  -- All calls made since have returned, and there is one.
  have hreturned : ∀ c ∈ t.since s.leaves.length, c = .returned := by
    intro c hc
    obtain ⟨call, hcall, rfl⟩ := List.mem_map.mp hc
    exact resting.leaves call (List.mem_of_mem_drop hcall)
  have hsome : .returned ∈ t.since s.leaves.length := by
    have hfirst : (t.leaves.drop s.leaves.length)[0]? = some t.leaves[s.leaves.length] := by
      simp [ended]
    have hmem : t.leaves[s.leaves.length].place ∈ t.since s.leaves.length :=
      List.mem_map_of_mem (List.mem_of_getElem? hfirst)
    rwa [hreturned _ hmem] at hmem
  have hnobody : ∀ p : Leaving → Bool, p .returned = false →
      (t.since s.leaves.length).countP p = 0 := by
    intro p hp
    rw [List.countP_eq_zero]
    intro c hc
    simp [hreturned c hc, hp]
  have hlate : t.state ≠ .connected := hsettles.late _ hsome rfl
  have hrecord : t.record = none := by
    cases hlooks : t.kind.looksFirst with
    | false => exact hsettles.returned hlooks hsome
    | true =>
        rcases hsettles.held hlooks with hgone | hstate | htried
        · exact hgone
        · exact absurd hstate hlate
        · cases hreturned _ htried
  have hstate : t.state = .disconnected := by
    cases hstate : t.state with
    | disconnected => rfl
    | connected => exact absurd hstate hlate
    | connecting => exact absurd hstate hsettles.begun
    | closing =>
        have hclosing := hsettles.closing
        rw [hnobody _ rfl, show t.view.state = .closing from hstate] at hclosing
        cases hclosing
  refine ⟨?_, hstate, hrecord, play_join (resting.free hnamed) hstate hrecord⟩
  obtain ⟨events, hlog⟩ := hsettles.log
  have hlog : s.log ++ events = t.log := hlog
  refine ⟨events, hlog.symm, ?_⟩
  have honce := hsettles.once
  rw [hnobody _ rfl, resting.countP_places, show t.view.state = .disconnected from hstate,
    show t.view.log = s.log ++ events from hlog.symm, List.countP_append] at honce
  simpa [view] using honce

/-- The other side closes, and before the loop has told, two calls end the connection: the one
finds its record, the other finds nothing. -/
def endedThrice : List LoopMove :=
  [.notice 0, .callDisconnect none, .callDisconnect none, .disconnect 0, .goOn 0, .disconnect 0,
    .disconnect 0, .goOn 0, .disconnect 0, .disconnect 1, .disconnect 1, .disconnect 1]

/-- Where some moves lead from a client that has been connected. -/
def whenConnected (moves : List LoopMove) : ReceiveLoops :=
  (play move? (start .webSocket 10) (joinMoves .webSocket ++ moves)).getD (start .webSocket 10)

theorem ended_once_endedThrice :
    play move? (start .webSocket 10) (joinMoves .webSocket) = some (whenConnected []) ∧
      play move? (whenConnected []) endedThrice = some (whenConnected endedThrice) ∧
      (whenConnected []).log = [.connected 0] ∧
      (∃ events, (whenConnected endedThrice).log = [.connected 0] ++ events ∧
        events.countP LoopEvent.isEnd = 1) ∧
      (whenConnected endedThrice).state = .disconnected ∧
      (whenConnected endedThrice).record = none := by
  have hbefore : play move? (start .webSocket 10) (joinMoves .webSocket)
      = some (whenConnected []) := rfl
  have hlater : play move? (whenConnected []) endedThrice = some (whenConnected endedThrice) := rfl
  have hlog : (whenConnected []).log = [.connected 0] := rfl
  have hrest : (whenConnected []).AtRest := by
    refine ⟨?_, nofun, ?_⟩
    · intro call hcall
      exact ⟨.ok (), List.mem_singleton.mp hcall ▸ rfl⟩
    · intro loop hloop
      exact List.mem_singleton.mp hloop ▸ rfl
  have hover : (whenConnected endedThrice).AtRest := by
    have hleaves : (whenConnected endedThrice).leaves
        = [⟨none, .returned⟩, ⟨none, .returned⟩] := rfl
    refine ⟨?_, ?_, ?_⟩
    · intro call hcall
      exact ⟨.ok (), List.mem_singleton.mp hcall ▸ rfl⟩
    · rw [hleaves]
      decide
    · intro loop hloop
      exact List.mem_singleton.mp hloop ▸ rfl
  obtain ⟨htold, hstate, hrecord, -⟩ := ended_once .webSocket 10 hbefore hrest rfl
    (by simp [endedThrice]) hlater hover (by decide)
  exact ⟨hbefore, hlater, hlog, hlog ▸ htold, hstate, hrecord⟩

end ReceiveLoops

end Interleaving

end Lifecast
