/-
What the log of a client says of its receive loops.

A loop's buffer and the frames that it has in hand are what it has read and handed out
(`heardOf`).  A step changes each loop in a way that only depends on the event that the step
adds to the log (`LoopFollows`, `Follows`).  So what the log says of a loop stays true of it,
also that the loop of a connection that has been told to have ended has ended as well, or is
told to (`Sane`, `Parted`).
-/
import Mathlib.Data.List.Basic
import Lifecast.Interleaving.ReceiveLoops

namespace Lifecast

namespace Interleaving

namespace LoopEvent

/-- Is it about what a loop reads or hands out? -/
def isOf (k : Nat) : LoopEvent → Bool
  | read j _ | frame j _ => j = k
  | connected _ | disconnected _ _ => false

/-- The frame that is told of a connection, if it is one. -/
def frame? (k : Nat) : LoopEvent → Option Bytes
  | frame j bytes => if j = k then some bytes else none
  | connected _ | read _ _ | disconnected _ _ => none

/-- What was read of a connection, if it is that. -/
def read? (k : Nat) : LoopEvent → Option Bytes
  | read j chunk => if j = k then some chunk else none
  | connected _ | frame _ _ | disconnected _ _ => none

end LoopEvent

attribute [simp] LoopPlace.rest

/-- Has a loop noticed that the other side has closed? -/
@[simp] def LoopPlace.isLeaving : LoopPlace → Bool
  | noticed | telling _ => true
  | held | idle | awaiting | handing _ | inCallback _ | ended => false

/-- The frames that are told of a connection. -/
def framesTold (k : Nat) (events : List LoopEvent) : List Bytes :=
  events.filterMap (LoopEvent.frame? k)

/-- What was read of a connection. -/
def chunksRead (k : Nat) (events : List LoopEvent) : List Bytes :=
  events.filterMap (LoopEvent.read? k)

/-- What an event does to the buffer of a loop and to the frames that it has in hand. -/
def hear (k : Nat) (heard : FrameBuffer × List Bytes) : LoopEvent → FrameBuffer × List Bytes
  | .read j chunk => if j = k then heard.1.feed chunk else heard
  | .frame j _ => if j = k then (heard.1, heard.2.tail) else heard
  | .connected _ | .disconnected _ _ => heard

/-- The buffer of a loop and what it has in hand, by what has happened. -/
def heardOf (d : UInt8) (k : Nat) (events : List LoopEvent) : FrameBuffer × List Bytes :=
  events.foldl (hear k) (.empty d, [])

/-- The frames that the loop of a connection had in hand after some events. -/
def inHand (d : UInt8) (k : Nat) (events : List LoopEvent) : List Bytes :=
  (heardOf d k events).2

theorem framesTold_append (k : Nat) (first second : List LoopEvent) :
    framesTold k (first ++ second) = framesTold k first ++ framesTold k second :=
  List.filterMap_append

/-- Events of other connections are of no account. -/
theorem framesTold_of_not_isOf {k : Nat} {events : List LoopEvent}
    (h : ∀ e ∈ events, e.isOf k = false) : framesTold k events = [] := by
  rw [framesTold, List.filterMap_eq_nil_iff]
  intro e he
  have hother := h e he
  cases e with
  | connected j | read j chunk | disconnected j farewell => rfl
  | frame j bytes => simpa [LoopEvent.isOf, LoopEvent.frame?] using hother

theorem chunksRead_append (k : Nat) (first second : List LoopEvent) :
    chunksRead k (first ++ second) = chunksRead k first ++ chunksRead k second :=
  List.filterMap_append

theorem chunksRead_of_not_isOf {k : Nat} {events : List LoopEvent}
    (h : ∀ e ∈ events, e.isOf k = false) : chunksRead k events = [] := by
  rw [chunksRead, List.filterMap_eq_nil_iff]
  intro e he
  have hother := h e he
  cases e with
  | connected j | frame j bytes | disconnected j farewell => rfl
  | read j chunk => simpa [LoopEvent.isOf, LoopEvent.read?] using hother

theorem foldl_hear_of_not_isOf {k : Nat} {events : List LoopEvent}
    (h : ∀ e ∈ events, e.isOf k = false) (heard : FrameBuffer × List Bytes) :
    events.foldl (hear k) heard = heard := by
  induction events with
  | nil => rfl
  | cons e rest ih =>
      have hone : hear k heard e = heard := by
        have hother := h e List.mem_cons_self
        cases e with
        | connected j | disconnected j farewell => rfl
        | read j chunk | frame j bytes =>
            have hj : j ≠ k := by simpa [LoopEvent.isOf] using hother
            simp [hear, hj]
      rw [List.foldl_cons, hone, ih fun d hd => h d (List.mem_cons_of_mem _ hd)]

/-! ### What a step does to a loop -/

/-- A loop after a step that adds some events to the log.  A pooled loop that is told to end
reads no more, unless it waits for something to read already, and does not tell. -/
structure LoopFollows (kind : EngineKind) (k : Nat) (loop next : ReceiveLoop)
    (events : List LoopEvent) : Prop where
  heard : events.foldl (hear k) (loop.buffer, loop.place.rest) = (next.buffer, next.place.rest)
  ended : loop.place = .ended → next.place = .ended ∧ framesTold k events = []
  cancelled : loop.cancelled = true → next.cancelled = true
  unread : kind = .pooledMulticast → loop.cancelled = true → loop.place ≠ .awaiting →
    next.place ≠ .awaiting ∧ chunksRead k events = [] ∧
      framesTold k events ++ next.place.rest = loop.place.rest
  unnoticed : kind = .pooledMulticast → loop.place.isLeaving = false → next.place.isLeaving = false

variable {kind : EngineKind} {k : Nat} {loop next : ReceiveLoop} {events : List LoopEvent}

/-- A loop that does not move. -/
theorem LoopFollows.of_same (hplace : next.place = loop.place) (hbuffer : next.buffer = loop.buffer)
    (hcancelled : loop.cancelled = true → next.cancelled = true)
    (hevents : ∀ e ∈ events, e.isOf k = false) : LoopFollows kind k loop next events := by
  refine ⟨?_, ?_, hcancelled, ?_, ?_⟩
  · rw [foldl_hear_of_not_isOf hevents, hplace, hbuffer]
  · exact fun hended => ⟨hplace.trans hended, framesTold_of_not_isOf hevents⟩
  · intro _ _ hawaiting
    rw [hplace, framesTold_of_not_isOf hevents]
    exact ⟨hawaiting, chunksRead_of_not_isOf hevents, rfl⟩
  · intro _ hstays
    rw [hplace]
    exact hstays

/-- A loop that moves on and hands out nothing. -/
theorem LoopFollows.of_place {place : LoopPlace} (hended : loop.place ≠ .ended)
    (hrest : place.rest = loop.place.rest)
    (hunread : kind = .pooledMulticast → loop.cancelled = true → place ≠ .awaiting)
    (hunnoticed : kind = .pooledMulticast → loop.place.isLeaving = false → place.isLeaving = false)
    (hevents : ∀ e ∈ events, e.isOf k = false) :
    LoopFollows kind k loop { loop with place } events := by
  refine ⟨?_, fun h => absurd h hended, id, ?_, hunnoticed⟩
  · rw [foldl_hear_of_not_isOf hevents, hrest]
  · intro hpooled hcancelled _
    refine ⟨hunread hpooled hcancelled, chunksRead_of_not_isOf hevents, ?_⟩
    rw [framesTold_of_not_isOf hevents, List.nil_append, hrest]

/-- A loop that hands out a frame. -/
theorem LoopFollows.of_frame {frame : Bytes} {rest : List Bytes}
    (hplace : loop.place = .handing (frame :: rest)) :
    LoopFollows kind k loop { loop with place := .inCallback rest } [.frame k frame] := by
  refine ⟨?_, ?_, id, ?_, fun _ _ => rfl⟩ <;>
    simp [hplace, hear, framesTold, chunksRead, LoopEvent.frame?, LoopEvent.read?]

/-- A loop that reads. -/
theorem LoopFollows.of_read {chunk : Bytes} (hplace : ReceiveLoops.mayRead kind loop.place = true) :
    LoopFollows kind k loop { loop with
      place := .handing (loop.buffer.feed chunk).2, buffer := (loop.buffer.feed chunk).1 }
      [.read k chunk] := by
  refine ⟨?_, ?_, id, ?_, fun _ _ => rfl⟩
  · simp [hear]
  · intro hended
    cases kind <;> simp [ReceiveLoops.mayRead, hended] at hplace
  · rintro rfl _ hawaiting
    exact absurd (of_decide_eq_true hplace) hawaiting

namespace ReceiveLoops

/-- Is a loop told to end? -/
def isCancelled (s : ReceiveLoops) (k : Nat) : Bool :=
  s.loops[k]?.any (·.cancelled)

/-- A step that adds some events to the log.  A loop that has made a call stays in its
callback, and a new loop has heard nothing. -/
structure Follows (s t : ReceiveLoops) (events : List LoopEvent) : Prop where
  kind : t.kind = s.kind
  delimiter : t.delimiter = s.delimiter
  log : t.log = s.log ++ events
  loops : ∀ (k : Nat) (loop : ReceiveLoop), s.loops[k]? = some loop →
    ∃ next, t.loops[k]? = some next ∧ LoopFollows s.kind k loop next events
  born : ∀ (k : Nat) (loop : ReceiveLoop), s.loops[k]? = none → t.loops[k]? = some loop →
    loop = { buffer := .empty s.delimiter }
  unborn : ∀ k : Nat, s.loops[k]? = none → ∀ e ∈ events, e.isOf k = false
  calling : ∀ k, s.isCalling k = true → s.inCallback k = true → t.inCallback k = true

variable {s t : ReceiveLoops} {d : UInt8}

theorem Follows.hasEnded (hfollows : Follows s t events) {k : Nat} (h : s.hasEnded k = true) :
    t.hasEnded k = true := by
  obtain ⟨loop, hloop, hended⟩ := (Option.any_eq_true _ _).mp h
  obtain ⟨next, hnext, hstep⟩ := hfollows.loops k loop hloop
  exact (Option.any_eq_true _ _).mpr
    ⟨next, hnext, decide_eq_true (hstep.ended (of_decide_eq_true hended)).1⟩

theorem Follows.isCancelled (hfollows : Follows s t events) {k : Nat}
    (h : s.isCancelled k = true) : t.isCancelled k = true := by
  obtain ⟨loop, hloop, hcancelled⟩ := (Option.any_eq_true _ _).mp h
  obtain ⟨next, hnext, hstep⟩ := hfollows.loops k loop hloop
  exact (Option.any_eq_true _ _).mpr ⟨next, hnext, hstep.cancelled hcancelled⟩

/-! ### What the log says of the loops -/

/-- How a loop stands when its connection has been told to have ended, and what has been told
since. -/
structure Parted (s : ReceiveLoops) (k : Nat) (farewell : Farewell)
    (before after : List LoopEvent) : Prop where
  last : farewell.isLast = true → s.hasEnded k = true ∧ framesTold k after = []
  own : s.kind = .pooledMulticast → farewell.isLast = true ∨ farewell = .call (some k) false
  pooled : s.kind = .pooledMulticast → ∃ loop, s.loops[k]? = some loop ∧
    loop.cancelled = true ∧ loop.place ≠ .awaiting ∧ chunksRead k after = [] ∧
      framesTold k after ++ loop.place.rest = inHand s.delimiter k before

/-- The log tells what the loops have read and handed out. -/
structure Sane (s : ReceiveLoops) : Prop where
  heard : ∀ (k : Nat) (loop : ReceiveLoop), s.loops[k]? = some loop →
    heardOf s.delimiter k s.log = (loop.buffer, loop.place.rest)
  unborn : ∀ k : Nat, s.loops[k]? = none → ∀ e ∈ s.log, e.isOf k = false
  unnoticed : s.kind = .pooledMulticast → ∀ loop ∈ s.loops, loop.place.isLeaving = false
  parted : ∀ before k farewell after, s.log = before ++ .disconnected (some k) farewell :: after →
    s.Parted k farewell before after

theorem Parted.follows {farewell : Farewell} {before after : List LoopEvent} {k : Nat}
    (h : s.Parted k farewell before after) (hfollows : Follows s t events) :
    t.Parted k farewell before (after ++ events) := by
  constructor
  · intro hlast
    obtain ⟨hended, hnone⟩ := h.last hlast
    obtain ⟨loop, hloop, hplace⟩ := (Option.any_eq_true _ _).mp hended
    obtain ⟨next, -, hstep⟩ := hfollows.loops k loop hloop
    refine ⟨hfollows.hasEnded hended, ?_⟩
    rw [framesTold_append, hnone, (hstep.ended (of_decide_eq_true hplace)).2]
    rfl
  · rw [hfollows.kind]
    exact h.own
  · intro hpooled
    rw [hfollows.kind] at hpooled
    obtain ⟨loop, hloop, hcancelled, hawaiting, hread, htold⟩ := h.pooled hpooled
    obtain ⟨next, hnext, hstep⟩ := hfollows.loops k loop hloop
    obtain ⟨hawaiting', hunread, hrest⟩ := hstep.unread hpooled hcancelled hawaiting
    refine ⟨next, hnext, hstep.cancelled hcancelled, hawaiting', ?_, ?_⟩
    · rw [chunksRead_append, hread, hunread, List.append_nil]
    rw [framesTold_append, List.append_assoc, hrest, htold, hfollows.delimiter]

/-- A step that tells one event at most, and the end of a connection only when it may. -/
structure Tells (s t : ReceiveLoops) (events : List LoopEvent) : Prop
    extends Follows s t events where
  short : events.length ≤ 1
  parted : ∀ k farewell, events = [.disconnected (some k) farewell] →
    t.Parted k farewell s.log []

theorem Follows.silent (h : Follows s t []) : Tells s t [] :=
  { h with
    short := Nat.zero_le 1
    parted := by simp }

theorem Follows.tells {e : LoopEvent} (h : Follows s t [e])
    (he : ∀ connection farewell, e ≠ .disconnected connection farewell) : Tells s t [e] :=
  { h with
    short := Nat.le_refl 1
    parted := fun k farewell hend => absurd (List.cons.inj hend).1 (he (some k) farewell) }

/-- A step that tells the end of a connection. -/
theorem Follows.parts {connection : Option Nat} {farewell : Farewell}
    (h : Follows s t [.disconnected connection farewell])
    (hparted : ∀ k, connection = some k → t.Parted k farewell s.log []) :
    Tells s t [.disconnected connection farewell] :=
  { h with
    short := Nat.le_refl 1
    parted := by
      intro k other hend
      obtain ⟨hconnection, rfl⟩ := LoopEvent.disconnected.inj (List.cons.inj hend).1
      exact hparted k hconnection }

/-- It does not matter which calls are under way. -/
theorem Tells.withCalls (h : Tells s t events) (joins : List (MadeBy Joining))
    (leaves : List (MadeBy Leaving)) : Tells s { t with joins, leaves } events :=
  { h with parted := fun k farewell hend => { h.parted k farewell hend with } }

/-- Every step keeps it. -/
theorem Sane.tells (h : s.Sane) (htells : Tells s t events) : t.Sane := by
  have hfollows := htells.toFollows
  refine ⟨?_, ?_, ?_, ?_⟩
  · intro k loop hloop
    rw [hfollows.delimiter, hfollows.log, heardOf, List.foldl_append]
    cases hold : s.loops[k]? with
    | some old =>
        obtain ⟨next, hnext, hstep⟩ := hfollows.loops k old hold
        obtain rfl := Option.some.inj (hloop.symm.trans hnext)
        have hheard := h.heard k old hold
        rw [heardOf] at hheard
        rw [hheard, hstep.heard]
    | none =>
        obtain rfl := hfollows.born k loop hold hloop
        rw [foldl_hear_of_not_isOf (h.unborn k hold),
          foldl_hear_of_not_isOf (hfollows.unborn k hold)]
        rfl
  · intro k hnone e he
    have hold : s.loops[k]? = none := by
      cases hold : s.loops[k]? with
      | none => rfl
      | some old =>
          obtain ⟨next, hnext, -⟩ := hfollows.loops k old hold
          cases hnone.symm.trans hnext
    rw [hfollows.log, List.mem_append] at he
    exact he.elim (h.unborn k hold e) (hfollows.unborn k hold e)
  · intro hpooled loop hmem
    obtain ⟨k, hloop⟩ := List.mem_iff_getElem?.mp hmem
    rw [hfollows.kind] at hpooled
    cases hold : s.loops[k]? with
    | some old =>
        obtain ⟨next, hnext, hstep⟩ := hfollows.loops k old hold
        obtain rfl := Option.some.inj (hloop.symm.trans hnext)
        exact hstep.unnoticed hpooled (h.unnoticed hpooled old (List.mem_of_getElem? hold))
    | none =>
        obtain rfl := hfollows.born k loop hold hloop
        rfl
  · intro before k farewell after hlog
    have hnow : s.log = before → events = .disconnected (some k) farewell :: after →
        t.Parted k farewell before after := by
      rintro rfl rfl
      obtain rfl : after = [] := List.eq_nil_of_length_eq_zero (by simpa using htells.short)
      exact htells.parted k farewell rfl
    rw [hfollows.log] at hlog
    rcases List.append_eq_append_iff.mp hlog with ⟨more, hbefore, hevents⟩ | ⟨rest, hold, hrest⟩
    · -- The new event itself: nothing can be in front of it.
      obtain rfl : more = [] := by
        refine List.eq_nil_of_length_eq_zero ?_
        have hshort := htells.short
        rw [hevents, List.length_append, List.length_cons] at hshort
        omega
      exact hnow (by simpa using hbefore.symm) hevents
    · cases rest with
      | nil => exact hnow (by simpa using hold) hrest.symm
      | cons e rest =>
          obtain ⟨rfl, rfl⟩ := List.cons.inj hrest
          exact (h.parted before k farewell rest hold).follows hfollows

/-! ### What each move does to the loops -/

/-- A step in which no loop moves, though one may be let go or told to end. -/
theorem Follows.of_modify {j : Nat} {f : ReceiveLoop → ReceiveLoop} (hkind : t.kind = s.kind)
    (hdelimiter : t.delimiter = s.delimiter) (hlog : t.log = s.log ++ events)
    (hloops : t.loops = s.loops.modify j f) (hplace : ∀ loop, (f loop).place = loop.place)
    (hbuffer : ∀ loop, (f loop).buffer = loop.buffer)
    (hcancelled : ∀ loop, loop.cancelled = true → (f loop).cancelled = true)
    (hevents : ∀ e ∈ events, ∀ k, e.isOf k = false) : Follows s t events := by
  have hnext : ∀ (k : Nat) (loop : ReceiveLoop), s.loops[k]? = some loop →
      ∃ next, t.loops[k]? = some next ∧ next.place = loop.place ∧ next.buffer = loop.buffer ∧
        (loop.cancelled = true → next.cancelled = true) := by
    intro k loop hloop
    rw [hloops, List.getElem?_modify, hloop]
    by_cases hjk : j = k
    · exact ⟨f loop, by simp [hjk], hplace loop, hbuffer loop, hcancelled loop⟩
    · exact ⟨loop, by simp [hjk], rfl, rfl, id⟩
  refine ⟨hkind, hdelimiter, hlog, ?_, ?_, fun k _ e he => hevents e he k, ?_⟩
  · intro k loop hloop
    obtain ⟨next, hthere, hplace, hbuffer, hcancelled⟩ := hnext k loop hloop
    exact ⟨next, hthere, .of_same hplace hbuffer hcancelled fun e he => hevents e he k⟩
  · intro k loop hnone hloop
    rw [hloops, List.getElem?_modify, hnone] at hloop
    cases hloop
  · intro k _ hinside
    obtain ⟨loop, hloop, hplace⟩ := (Option.any_eq_true _ _).mp hinside
    obtain ⟨next, hthere, hsame, -⟩ := hnext k loop hloop
    exact (Option.any_eq_true _ _).mpr ⟨next, hthere, by rw [hsame]; exact hplace⟩

/-- A step that leaves the loops alone. -/
theorem Follows.of_loops (hkind : t.kind = s.kind) (hdelimiter : t.delimiter = s.delimiter)
    (hlog : t.log = s.log ++ events) (hloops : t.loops = s.loops)
    (hevents : ∀ e ∈ events, ∀ k, e.isOf k = false) : Follows s t events :=
  .of_modify (j := 0) (f := id) hkind hdelimiter hlog (by rw [hloops, List.modify_id])
    (fun _ => rfl) (fun _ => rfl) (fun _ => id) hevents

theorem Tells.of_cancel (j : Nat) : Tells s { s.cancel j with record := none } [] :=
  Follows.silent <| .of_modify rfl rfl (List.append_nil _).symm rfl (fun _ => rfl) (fun _ => rfl)
    (fun _ _ => rfl) (List.forall_mem_nil _)

theorem Tells.of_release (j : Nat) : Tells s (s.release j) [] :=
  Follows.silent <| .of_modify rfl rfl (List.append_nil _).symm rfl (fun _ => rfl) (fun _ => rfl)
    (fun _ => id) (List.forall_mem_nil _)

/-- A step that leaves the loops and the log alone. -/
theorem Tells.of_loops (hkind : t.kind = s.kind) (hdelimiter : t.delimiter = s.delimiter)
    (hlog : t.log = s.log) (hloops : t.loops = s.loops) : Tells s t [] :=
  (Follows.of_loops hkind hdelimiter (hlog.trans (List.append_nil _).symm) hloops
    (List.forall_mem_nil _)).silent

/-- A move of one loop, which is not in a callback that has made a call. -/
theorem Follows.of_set (hkind : t.kind = s.kind) (hdelimiter : t.delimiter = s.delimiter)
    (hlog : t.log = s.log ++ events) (hloop : s.loops[k]? = some loop)
    (hloops : t.loops = s.loops.set k next) (hstep : LoopFollows s.kind k loop next events)
    (hevents : ∀ e ∈ events, ∀ j, j ≠ k → e.isOf j = false)
    (hfree : s.isCalling k = true → s.inCallback k = false) : Follows s t events := by
  have hbound : k < s.loops.length := (List.getElem?_eq_some_iff.mp hloop).1
  have hother : ∀ j, j ≠ k → t.loops[j]? = s.loops[j]? := fun j hj => by
    rw [hloops, List.getElem?_set_ne (Ne.symm hj)]
  refine ⟨hkind, hdelimiter, hlog, ?_, ?_, ?_, ?_⟩
  · intro j old hold
    by_cases hj : j = k
    · subst hj
      obtain rfl := Option.some.inj (hold.symm.trans hloop)
      exact ⟨next, by rw [hloops, List.getElem?_set_self hbound], hstep⟩
    · exact ⟨old, (hother j hj).trans hold, .of_same rfl rfl id fun e he => hevents e he j hj⟩
  · intro j new hnone hnew
    have hj : j ≠ k := by
      rintro rfl
      cases hnone.symm.trans hloop
    cases (hother j hj).symm.trans hnew |>.symm.trans hnone
  · intro j hnone e he
    refine hevents e he j ?_
    rintro rfl
    cases hnone.symm.trans hloop
  · intro j hcalling hinside
    by_cases hj : j = k
    · subst hj
      cases (hfree hcalling).symm.trans hinside
    · rwa [inCallback, hother j hj]

/-- No loop that is elsewhere is in a callback. -/
theorem not_inCallback (hloop : s.loops[k]? = some loop)
    (hplace : ∀ rest, loop.place ≠ .inCallback rest) : s.inCallback k = false := by
  rw [inCallback, hloop, Option.any_some]
  split
  · next rest h => exact absurd h (hplace rest)
  · rfl

/-- A loop moves on and tells nothing. -/
theorem Tells.of_put {place : LoopPlace} (hloop : s.loops[k]? = some loop)
    (hkind : t.kind = s.kind) (hdelimiter : t.delimiter = s.delimiter) (hlog : t.log = s.log)
    (hloops : t.loops = s.loops.set k { loop with place }) (hended : loop.place ≠ .ended)
    (hrest : place.rest = loop.place.rest)
    (hunread : s.kind = .pooledMulticast → loop.cancelled = true → place ≠ .awaiting)
    (hunnoticed : s.kind = .pooledMulticast → loop.place.isLeaving = false →
      place.isLeaving = false)
    (hfree : s.isCalling k = true → s.inCallback k = false) : Tells s t [] := by
  have hstep : LoopFollows s.kind k loop { loop with place } [] :=
    .of_place hended hrest hunread hunnoticed (List.forall_mem_nil _)
  exact (Follows.of_set hkind hdelimiter (hlog.trans (List.append_nil _).symm) hloop hloops hstep
    (List.forall_mem_nil _) hfree).silent

theorem goOn?_tells (hsane : s.Sane) (hloop : s.loops[k]? = some loop)
    (h : s.goOn? k loop = some t) : ∃ events, Tells s t events := by
  have houtside : (∀ rest, loop.place ≠ .inCallback rest) →
      s.isCalling k = true → s.inCallback k = false := fun hplace _ => not_inCallback hloop hplace
  have hpooled : loop.place.isLeaving = true → s.kind ≠ .pooledMulticast := by
    intro hleaving hpooled
    have hstays := hsane.unnoticed hpooled loop (List.mem_of_getElem? hloop)
    exact Bool.false_ne_true (hstays.symm.trans hleaving)
  unfold goOn? at h
  cases hplace : loop.place with
  | held =>
      simp only [hplace, Option.ite_none_right_eq_some, Option.some.injEq] at h
      obtain ⟨-, rfl⟩ := h
      refine ⟨[], .of_put hloop rfl rfl rfl rfl ?_ ?_ ?_ ?_ (houtside ?_)⟩ <;>
        simp [hplace]
  | idle =>
      simp only [hplace, Option.ite_none_right_eq_some, Option.some.injEq, Bool.and_eq_true,
        Bool.not_eq_true'] at h
      obtain ⟨⟨-, hgo⟩, rfl⟩ := h
      refine ⟨[], .of_put hloop rfl rfl rfl rfl ?_ ?_ ?_ ?_ (houtside ?_)⟩ <;>
        simp [hplace, hgo]
  | awaiting =>
      simp only [hplace, Option.some.injEq] at h
      obtain rfl := h
      refine ⟨[], .of_put hloop rfl rfl rfl rfl ?_ ?_ ?_ ?_ (houtside ?_)⟩ <;>
        simp [hplace]
  | handing rest =>
      cases rest with
      | nil =>
          simp only [hplace, Option.some.injEq] at h
          obtain rfl := h
          refine ⟨[], .of_put hloop rfl rfl rfl rfl ?_ ?_ ?_ ?_ (houtside ?_)⟩ <;>
            simp [hplace]
      | cons frame rest =>
          simp only [hplace, Option.some.injEq] at h
          obtain rfl := h
          have hfollows : Follows s ((s.put k loop (.inCallback rest)).note (.frame k frame))
              [.frame k frame] := by
            refine .of_set rfl rfl rfl hloop rfl (.of_frame hplace) ?_ (houtside ?_)
            · simpa [LoopEvent.isOf] using fun j => Ne.symm
            · simp [hplace]
          exact ⟨_, hfollows.tells nofun⟩
  | inCallback rest =>
      simp only [hplace, Option.ite_none_left_eq_some, Option.some.injEq] at h
      obtain ⟨hquiet, rfl⟩ := h
      refine ⟨[], .of_put hloop rfl rfl rfl rfl ?_ ?_ ?_ ?_ (absurd · hquiet)⟩ <;>
        simp [hplace]
  | noticed =>
      simp only [hplace, Option.some.injEq] at h
      obtain rfl := h
      -- A pooled loop does not notice, so what it would have had in hand is of no account.
      have hkind := hpooled (by rw [hplace]; rfl)
      refine ⟨[], .of_put hloop rfl rfl rfl rfl ?_ ?_ ?_ ?_ (houtside ?_)⟩
      · simp [hplace]
      · split <;> simp [hplace]
      · exact fun hpooled => absurd hpooled hkind
      · exact fun hpooled => absurd hpooled hkind
      · simp [hplace]
  | telling connection =>
      simp only [hplace, Option.some.injEq] at h
      obtain rfl := h
      have hkind := hpooled (by rw [hplace]; rfl)
      let farewell : Farewell := .loop (connection = some k)
      have hfollows : Follows s ((s.put k loop .ended).note (.disconnected connection farewell))
          [.disconnected connection farewell] := by
        refine .of_set rfl rfl rfl hloop rfl (.of_place ?_ ?_ ?_ ?_ ?_) ?_ (houtside ?_)
        · simp [hplace]
        · simp [hplace]
        · exact fun hpooled => absurd hpooled hkind
        · exact fun hpooled => absurd hpooled hkind
        · simp [LoopEvent.isOf]
        · simp [LoopEvent.isOf]
        · simp [hplace]
      refine ⟨_, hfollows.parts fun j hj => ⟨fun hlast => ⟨?_, rfl⟩, ?_, ?_⟩⟩
      · obtain rfl : j = k := by simpa [farewell, Farewell.isLast, hj] using hlast
        have hbound : j < s.loops.length := (List.getElem?_eq_some_iff.mp hloop).1
        simp [hasEnded, note, put, hbound]
      · exact fun hpooled => absurd hpooled hkind
      · exact fun hpooled => absurd hpooled hkind
  | ended => simp [hplace] at h

/-- A loop that finds that it is to end has nothing in hand. -/
theorem maySee_place {place : LoopPlace} (h : maySee kind place = true) :
    place = .held ∨ place = .idle ∨ place = .noticed := by
  cases kind with
  | pooledMulticast => exact .inr (.inl (of_decide_eq_true h))
  | multicast | webSocket => simpa [maySee, or_assoc] using h

theorem loopMove?_tells {m : LoopMove} (hsane : s.Sane) (hloop : s.loops[k]? = some loop)
    (h : s.loopMove? k loop m = some t) : ∃ events, Tells s t events := by
  cases m with
  | goOn j => exact goOn?_tells hsane hloop h
  | read j chunk =>
      obtain ⟨hread, ht⟩ := Option.ite_none_right_eq_some.mp h
      obtain rfl := Option.some.inj ht
      have houtside : s.inCallback k = false := by
        refine not_inCallback hloop fun rest hplace => ?_
        cases hkind : s.kind <;> simp [mayRead, hkind, hplace] at hread
      refine ⟨_, Follows.tells
        (.of_set rfl rfl rfl hloop rfl (.of_read hread) ?_ fun _ => houtside) nofun⟩
      simpa [LoopEvent.isOf] using fun j => Ne.symm
  | seeCancelled j =>
      obtain ⟨hsee, ht⟩ := Option.ite_none_right_eq_some.mp h
      obtain rfl := Option.some.inj ht
      have hplace := maySee_place ((Bool.and_eq_true _ _).mp hsee).2
      refine ⟨[], .of_put hloop rfl rfl rfl rfl ?_ ?_ ?_ ?_
        fun _ => not_inCallback hloop ?_⟩ <;>
        rcases hplace with hplace | hplace | hplace <;>
        simp [hplace]
  | notice j =>
      obtain ⟨hnotice, ht⟩ := Option.ite_none_right_eq_some.mp h
      obtain rfl := Option.some.inj ht
      obtain ⟨hkind, hidle⟩ := (Bool.and_eq_true _ _).mp hnotice
      have hplace : loop.place = .idle := of_decide_eq_true hidle
      refine ⟨[], .of_put hloop rfl rfl rfl rfl ?_ ?_ ?_ ?_
        fun _ => not_inCallback hloop ?_⟩
      · simp [hplace]
      · simp [hplace]
      · simp
      · intro hpooled
        simp [hpooled, EngineKind.noticesClose] at hkind
      · simp [hplace]
  | callConnect caller opened | connect i | callDisconnect caller | disconnect i | giveUp i =>
      cases h

end ReceiveLoops

end Interleaving

end Lifecast
