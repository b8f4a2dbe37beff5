/-
Calls in turn need no more than one receive loop.

`ReceiveLoops` has a loop for each connection, and calls may go on without waiting for one;
`ClientCalls` has one reader and calls that wait.  As long as the calls are made from outside, one
after the other, and their waits take place (`ReceiveLoops.inTurn?`), all loops but the last have
ended, and the last does what the reader does (`Mirrors`).  Each move of the loops is then one move
of the reader and the calls or none at all: a loop of the pooled engine that looks whether it is to
end does nothing as far as the reader goes, nor does a callback that returns.  So whatever holds of
the one system after a play holds of the other (`MirrorsCalls.play`).
-/
import Lifecast.Proofs.Client.Attribution
import Lifecast.Proofs.Client.Hearing
import Lifecast.Proofs.Client.Log

namespace Lifecast

namespace Interleaving

/-! ### Calls that are made in turn and wait -/

/-- Has the call returned? -/
def Joining.isReturned : Joining → Bool
  | returned _ => true
  | called _ | clearing _ | opening _ | telling _ | releasing _ => false

namespace ReceiveLoops

/-- Have all calls returned? -/
def isQuiet (s : ReceiveLoops) : Bool :=
  s.leaves.all (·.place = .returned) && s.joins.all (·.place.isReturned)

/-- Would connecting call `i` go on although the loop of the connection before has not ended? -/
def overtakes (s : ReceiveLoops) (i : Nat) : Bool :=
  match s.joins[i]?, s.record with
  | some ⟨_, .clearing _⟩, some k => !s.hasEnded k
  | _, _ => false

/-- Make a move, if calls are made from outside, one after the other, and wait for a loop to end. -/
def inTurn? (s : ReceiveLoops) (m : LoopMove) : Option ReceiveLoops :=
  match m with
  | .callConnect (some _) _ | .callDisconnect (some _) | .giveUp _ => none
  | .callConnect none _ | .callDisconnect none => if s.isQuiet then s.move? m else none
  | .connect i => if s.overtakes i then none else s.move? m
  | .disconnect _ | .goOn _ | .read _ _ | .seeCancelled _ | .notice _ => s.move? m

theorem hasEnded_of_waits (s : ReceiveLoops) {i k : Nat} {call : MadeBy Joining}
    {opened : Except EngineError Unit} (hwaits : ¬ s.overtakes i = true)
    (hcall : s.joins[i]? = some call) (hplace : call.place = .clearing opened)
    (hrecord : s.record = some k) : s.hasEnded k = true := by
  obtain ⟨caller, place⟩ := call
  obtain rfl : place = .clearing opened := hplace
  rw [overtakes, hcall, hrecord] at hwaits
  simpa using hwaits

end ReceiveLoops

/-! ### What mirrors what -/

/-- The same place in a call that meets one reader. -/
def Joining.beginning (peer : Peer) : Joining → Beginning
  | called opened => .called (opened.map fun _ => peer)
  | clearing opened => .clearing (opened.map fun _ => peer)
  | opening opened => .opening (opened.map fun _ => peer)
  | telling _ => .telling
  | releasing _ => .releasing
  | returned result => .returned result

/-- The connection that the call has made. -/
def Joining.connection? : Joining → Option Nat
  | telling k | releasing k => some k
  | called _ | clearing _ | opening _ | returned _ => none

/-- The same place in a call that meets one reader. -/
def Leaving.ending : Leaving → Ending
  | called => .called
  | looked => .looked
  | locked => .locked
  | tried won => .tried won
  | waiting won _ => .waiting won
  | cleared _ _ => .cleared
  | telling _ _ => .telling
  | returned => .returned

/-- The connection that the call waits for. -/
def Leaving.connection? : Leaving → Option Nat
  | waiting _ k => some k
  | called | looked | locked | tried _ | cleared _ _ | telling _ _ | returned => none

/-- What a loop does, as far as a reader goes. -/
def LoopPlace.reader : LoopPlace → Reader
  | held => .held
  | idle | awaiting => .reading
  | handing rest | inCallback rest => .delivering rest
  | noticed => .noticed
  | telling _ => .telling
  | ended => .ended

theorem LoopPlace.reader_eq_ended {place : LoopPlace} (h : place.reader = .ended) :
    place = .ended := by
  cases place <;> first | rfl | cases h

/-- The last of some loops is this reader, and the others have ended. -/
inductive ReadBy (reader : Reader) (buffer : FrameBuffer) (released cancelled : Bool) :
    List ReceiveLoop → Prop where
  | nobody (ended : reader = .ended) : ReadBy reader buffer released cancelled []
  | last {before : List ReceiveLoop} {loop : ReceiveLoop}
      (past : ∀ l ∈ before, l.place = .ended) (place : reader = loop.place.reader)
      (same : buffer = loop.buffer) (free : released = loop.released)
      (told : loop.cancelled = true → loop.place = .ended ∨ cancelled = true) :
      ReadBy reader buffer released cancelled (before ++ [loop])

/-- What was read of each connection, oldest first. -/
def readsOf (n : Nat) (log : List LoopEvent) : List (List Bytes) :=
  (List.range n).map (chunksRead · log)

/-- The client, its lock, its loops and its log are what they are with one reader. -/
structure Mirrors (s : ReceiveLoops) (c : ClientCalls) : Prop where
  kind : c.kind = s.kind
  delimiter : c.client.config.delimiter = s.delimiter
  state : c.client.state = s.state
  locked : c.locked = s.locked
  record : c.client.connection.isSome = s.record.isSome
  recorded : ∀ k, s.record = some k → k + 1 = s.loops.length
  loops : ReadBy c.reader c.buffer c.released c.cancelled s.loops
  taken : c.cancelled = true → c.client.connection = none
  log : c.client.log.toList = s.log.filterMap LoopEvent.told?
  reads : c.reads = (readsOf s.loops.length s.log).reverse
  unread : ∀ k, s.loops.length ≤ k → chunksRead k s.log = []

/-- So are the calls, which are made from outside and have to do with the last loop. -/
structure MirrorsCalls (peer : Peer) (s : ReceiveLoops) (c : ClientCalls) : Prop
    extends Mirrors s c where
  joins : c.beginnings = s.joins.map (·.place.beginning peer)
  leaves : c.endings = s.leaves.map (·.place.ending)
  outside : (∀ call ∈ s.joins, call.caller = none) ∧ ∀ call ∈ s.leaves, call.caller = none
  joined : ∀ call ∈ s.joins, ∀ k, call.place.connection? = some k → k + 1 = s.loops.length
  left : ∀ call ∈ s.leaves, ∀ k, call.place.connection? = some k → k + 1 = s.loops.length

/-! ### The last loop -/

namespace ReadBy

variable {reader : Reader} {buffer : FrameBuffer} {released cancelled : Bool}
  {loops : List ReceiveLoop} {loop : ReceiveLoop} {k : Nat}

/-- A loop that has not ended is the last. -/
theorem of_getElem? (h : ReadBy reader buffer released cancelled loops)
    (hloop : loops[k]? = some loop) (hgoes : loop.place ≠ .ended) :
    ∃ before, loops = before ++ [loop] ∧ k = before.length ∧ (∀ l ∈ before, l.place = .ended) ∧
      reader = loop.place.reader ∧ buffer = loop.buffer ∧ released = loop.released ∧
      (loop.cancelled = true → cancelled = true) := by
  cases h with
  | nobody => cases hloop
  | @last before last past place same free told =>
      rcases Nat.lt_trichotomy k before.length with hk | rfl | hk
      · rw [List.getElem?_append_left hk] at hloop
        exact absurd (past loop (List.mem_of_getElem? hloop)) hgoes
      · rw [List.getElem?_concat_length] at hloop
        obtain rfl := Option.some.inj hloop
        exact ⟨before, rfl, rfl, past, place, same, free,
          fun hcancelled => (told hcancelled).resolve_left hgoes⟩
      · rw [List.getElem?_eq_none (by rw [List.length_append, List.length_singleton]; exact hk)]
          at hloop
        cases hloop

/-- The last loop moves. -/
theorem put (h : ReadBy reader buffer released cancelled loops) (hloop : loops[k]? = some loop)
    (hgoes : loop.place ≠ .ended) (next : ReceiveLoop) (hfree : next.released = loop.released)
    (htold : next.cancelled = loop.cancelled) :
    ReadBy next.place.reader next.buffer released cancelled (loops.set k next) := by
  obtain ⟨before, rfl, rfl, hpast, -, -, hreleased, hcancelled⟩ := h.of_getElem? hloop hgoes
  rw [List.set_append_right _ _ (Nat.le_refl _), Nat.sub_self]
  exact .last hpast rfl rfl (hreleased.trans hfree.symm) fun hnext =>
    .inr (hcancelled (htold ▸ hnext))

theorem modify_concat {α : Type} (l : List α) (a : α) (f : α → α) :
    (l ++ [a]).modify l.length f = l ++ [f a] := by
  rw [List.modify_eq_set_getElem?, List.getElem?_concat_length]
  show (l ++ [a]).set l.length (f a) = _
  rw [List.set_append_right _ _ (Nat.le_refl _), Nat.sub_self]
  rfl

/-- The last loop is told to end, unless it has ended. -/
theorem cancel (h : ReadBy reader buffer released cancelled loops) (hk : k + 1 = loops.length)
    {cancelled' : Bool} (htold : reader = .ended ∨ cancelled' = true) :
    ReadBy reader buffer released cancelled'
      (loops.modify k fun loop => { loop with cancelled := true }) := by
  cases h with
  | nobody => cases hk
  | @last before loop past place same free told =>
      rw [List.length_append, List.length_singleton] at hk
      obtain rfl : k = before.length := Nat.succ.inj hk
      rw [modify_concat]
      exact .last past place same free fun _ =>
        htold.imp (fun hended => LoopPlace.reader_eq_ended (place.symm.trans hended)) id

/-- The last loop is let go. -/
theorem release (h : ReadBy reader buffer released cancelled loops) (hk : k + 1 = loops.length) :
    ReadBy reader buffer true cancelled
      (loops.modify k fun loop => { loop with released := true }) := by
  cases h with
  | nobody => cases hk
  | @last before loop past place same free told =>
      rw [List.length_append, List.length_singleton] at hk
      obtain rfl : k = before.length := Nat.succ.inj hk
      rw [modify_concat]
      exact .last past place same rfl told

/-- When the reader has ended there is room for another. -/
theorem born (h : ReadBy reader buffer released cancelled loops) (hended : reader = .ended)
    (fresh : FrameBuffer) :
    ReadBy .held fresh false false (loops ++ [{ buffer := fresh }]) := by
  refine .last ?_ rfl rfl rfl nofun
  cases h with
  | nobody => exact List.forall_mem_nil _
  | last past place =>
      rw [List.forall_mem_append]
      exact ⟨past, fun l hl => List.mem_singleton.mp hl ▸
        LoopPlace.reader_eq_ended (place.symm.trans hended)⟩

/-- The reader has ended just if the last loop has. -/
theorem hasEnded_iff {s : ReceiveLoops} (h : ReadBy reader buffer released cancelled s.loops)
    (hk : k + 1 = s.loops.length) : s.hasEnded k = true ↔ reader = .ended := by
  unfold ReceiveLoops.hasEnded
  generalize s.loops = loops at h hk
  cases h with
  | nobody => cases hk
  | @last before loop past place same free told =>
      rw [List.length_append, List.length_singleton] at hk
      obtain rfl : k = before.length := Nat.succ.inj hk
      rw [List.getElem?_concat_length, Option.any_some, decide_eq_true_eq, place]
      exact ⟨fun hended => hended ▸ rfl, LoopPlace.reader_eq_ended⟩

end ReadBy

/-! ### What was read -/

theorem readsOf_succ (n : Nat) (log : List LoopEvent) :
    readsOf (n + 1) log = readsOf n log ++ [chunksRead n log] := by
  rw [readsOf, List.range_succ, List.map_append]
  rfl

/-- An event that is no read. -/
theorem chunksRead_concat {e : LoopEvent} (he : ∀ k, e.read? k = none) (k : Nat)
    (log : List LoopEvent) : chunksRead k (log ++ [e]) = chunksRead k log := by
  simp [chunksRead, he k]

theorem readsOf_concat {e : LoopEvent} (he : ∀ k, e.read? k = none) (n : Nat)
    (log : List LoopEvent) : readsOf n (log ++ [e]) = readsOf n log :=
  List.map_congr_left fun k _ => chunksRead_concat he k log

/-- The last loop reads some bytes. -/
theorem readsOf_read (n : Nat) (chunk : Bytes) (log : List LoopEvent) :
    (readsOf (n + 1) (log ++ [.read n chunk])).reverse
      = ClientCalls.heard chunk (readsOf (n + 1) log).reverse := by
  have hother (k : Nat) (hk : n ≠ k) :
      chunksRead k (log ++ [.read n chunk]) = chunksRead k log := by
    simp [chunksRead, LoopEvent.read?, hk]
  have hsame : readsOf n (log ++ [.read n chunk]) = readsOf n log :=
    List.map_congr_left fun k hk => hother k (Nat.ne_of_gt (List.mem_range.mp hk))
  have hthis : chunksRead n (log ++ [.read n chunk]) = chunksRead n log ++ [chunk] := by
    simp [chunksRead, LoopEvent.read?]
  rw [readsOf_succ, readsOf_succ, hsame, hthis, List.reverse_concat, List.reverse_concat]
  rfl

namespace Mirrors

variable {s t : ReceiveLoops} {c : ClientCalls}

/-- What is noted down and is no read. -/
theorem note (h : Mirrors s c) {e : LoopEvent} (told : ClientEvent) (he : ∀ k, e.read? k = none)
    (htold : e.told? = some told) : Mirrors (s.note e) (c.update (·.note told)) where
  kind := h.kind
  delimiter := h.delimiter
  state := h.state
  locked := h.locked
  record := h.record
  recorded := h.recorded
  loops := h.loops
  taken := h.taken
  log := by
    show (c.client.log.push told).toList = (s.log ++ [e]).filterMap LoopEvent.told?
    rw [Array.toList_push, h.log, List.filterMap_append]
    simp [htold]
  reads := by
    show c.reads = (readsOf s.loops.length (s.log ++ [e])).reverse
    rw [readsOf_concat he, h.reads]
  unread := fun k hk => (chunksRead_concat he k s.log).trans (h.unread k hk)

/-- No connection is there on the one side if there is none on the other. -/
theorem record_eq_none (h : Mirrors s c) : c.client.connection = none ↔ s.record = none := by
  rw [← Option.not_isSome_iff_eq_none, ← Option.not_isSome_iff_eq_none, h.record]

/-- What was read does not depend on what the loops do. -/
theorem reads_of_length (h : Mirrors s c) (hlength : t.loops.length = s.loops.length)
    (hlog : t.log = s.log) : c.reads = (readsOf t.loops.length t.log).reverse ∧
      ∀ k, t.loops.length ≤ k → chunksRead k t.log = [] := by
  rw [hlength, hlog]
  exact ⟨h.reads, h.unread⟩

/-- Nothing is asked of no connection. -/
theorem of_none {P : Nat → Prop} : ∀ k, (none : Option Nat) = some k → P k :=
  nofun

/-- A connection is there on the one side if there is one on the other. -/
theorem exists_connection (h : Mirrors s c) {k : Nat} (hrecord : s.record = some k) :
    ∃ there, c.client.connection = some there := by
  rw [← Option.isSome_iff_exists, h.record, hrecord]
  rfl

/-- The connection is taken away, and the last loop is told to end. -/
theorem take (h : Mirrors s c) {k : Nat} (hrecord : s.record = some k) {cancelled : Bool}
    (htold : c.reader = .ended ∨ cancelled = true) :
    Mirrors { s.cancel k with record := none }
      { c.update (fun c => { c with connection := none }) with cancelled } := by
  obtain ⟨hreads, hunread⟩ := h.reads_of_length (t := s.cancel k) (List.length_modify ..) rfl
  exact { h with
    record := rfl
    recorded := of_none
    loops := h.loops.cancel (h.recorded k hrecord) htold
    taken := fun _ => rfl
    reads := hreads
    unread := hunread }

/-- A step of a connecting call. -/
theorem join? (h : Mirrors s c) (peer : Peer) {place next : Joining}
    (step : s.join? place = some (next, t))
    (hjoined : ∀ k, place.connection? = some k → k + 1 = s.loops.length)
    (hwaits : ∀ opened k, place = .clearing opened → s.record = some k → s.hasEnded k = true)
    (hopening : ∀ opened, place = .opening opened → c.reader = .ended) :
    ∃ d, c.beginning? (place.beginning peer) = some (next.beginning peer, d) ∧ Mirrors t d ∧
      (∀ k, next.connection? = some k → k + 1 = t.loops.length) ∧
      ((∀ opened, place ≠ .opening opened) → t.loops.length = s.loops.length) := by
  cases place with
  | called opened =>
      simp only [ReceiveLoops.join?, Phase.exchange] at step
      simp only [Joining.beginning, ClientCalls.beginning?, Phase.exchange, h.locked, h.state]
      split at step
      · cases step
      · next hfree =>
          rw [if_neg hfree]
          by_cases hstate : s.state = .disconnected
          · simp only [hstate, if_true] at step ⊢
            cases step
            exact ⟨_, rfl, { h with state := rfl, locked := rfl }, of_none, fun _ => rfl⟩
          · simp only [hstate, if_false] at step ⊢
            cases step
            exact ⟨_, rfl, h, of_none, fun _ => rfl⟩
  | clearing opened =>
      simp only [ReceiveLoops.join?] at step
      cases hrecord : s.record with
      | none =>
          simp only [hrecord] at step
          cases step
          have hnone := h.record_eq_none.mpr hrecord
          refine ⟨c, ?_, h, of_none, fun _ => rfl⟩
          simp only [Joining.beginning, ClientCalls.beginning?, hnone]
      | some k =>
          simp only [hrecord] at step
          cases step
          have hended := (h.loops.hasEnded_iff (h.recorded k hrecord)).mp
            (hwaits opened k rfl hrecord)
          obtain ⟨there, hthere⟩ := h.exists_connection hrecord
          refine ⟨c.update fun c => { c with connection := none }, ?_,
            h.take hrecord (.inl hended), of_none, fun _ => List.length_modify ..⟩
          simp only [Joining.beginning, ClientCalls.beginning?, hthere, hended, if_true]
  | opening opened =>
      cases opened with
      | error e =>
          simp only [ReceiveLoops.join?] at step
          cases step
          exact ⟨_, rfl, { h with state := rfl, locked := rfl }, of_none, fun _ => rfl⟩
      | ok u =>
          simp only [ReceiveLoops.join?] at step
          cases step
          have hended := hopening _ rfl
          refine ⟨c.opens peer, rfl, ?_, ?_, fun hnot => absurd rfl (hnot _)⟩
          · have hbuffer : FrameBuffer.empty c.client.config.delimiter = .empty s.delimiter := by
              rw [h.delimiter]
            exact { h with
              state := rfl
              locked := rfl
              record := rfl
              recorded := by
                intro k hk
                obtain rfl := Option.some.inj hk
                simp
              loops := hbuffer ▸ h.loops.born hended _
              taken := fun htold => absurd htold Bool.false_ne_true
              reads := by
                show [] :: c.reads = (readsOf (s.loops ++ [_]).length s.log).reverse
                rw [List.length_append, List.length_singleton, readsOf_succ, List.reverse_concat,
                  h.unread _ (Nat.le_refl _), h.reads]
              unread := by
                intro k hk
                rw [List.length_append] at hk
                exact h.unread k (Nat.le_of_add_right_le hk) }
          · intro k hk
            obtain rfl := Option.some.inj hk
            simp
  | telling k =>
      simp only [ReceiveLoops.join?] at step
      cases step
      exact ⟨_, rfl, h.note .connected (fun _ => rfl) rfl, fun j hj => hjoined j hj, fun _ => rfl⟩
  | releasing k =>
      simp only [ReceiveLoops.join?] at step
      cases step
      have hlength : (s.release k).loops.length = s.loops.length := List.length_modify ..
      obtain ⟨hreads, hunread⟩ := h.reads_of_length hlength rfl
      refine ⟨{ c with released := true }, rfl, ?_, of_none, fun _ => hlength⟩
      exact { h with
        recorded := fun j hj => (h.recorded j hj).trans hlength.symm
        loops := h.loops.release (hjoined k rfl)
        reads := hreads
        unread := hunread }
  | returned result => cases step

/-- A step of a disconnecting call. -/
theorem leave? (h : Mirrors s c) {caller : Option Nat} {place next : Leaving}
    (step : s.leave? caller place = some (next, t))
    (hleft : ∀ k, place.connection? = some k → k + 1 = s.loops.length) :
    ∃ d, c.ending? false place.ending = some (next.ending, d) ∧ Mirrors t d ∧
      (∀ k, next.connection? = some k → k + 1 = t.loops.length) ∧
      t.loops.length = s.loops.length := by
  cases place with
  | called =>
      simp only [ReceiveLoops.leave?] at step
      split at step
      · next hlooks =>
          cases step
          refine ⟨c, ?_, h, ?_, rfl⟩
          · simp only [Leaving.ending, ClientCalls.ending?, h.kind, if_pos hlooks,
              Client.isConnected, h.state]
            cases s.state <;> rfl
          · cases s.state <;> exact of_none
      · next hlooks =>
          split at step
          · cases step
          · next hfree =>
              cases step
              refine ⟨{ c with locked := true }, ?_, { h with locked := rfl }, of_none, rfl⟩
              simp only [Leaving.ending, ClientCalls.ending?, h.kind, h.locked, if_neg hlooks,
                if_neg hfree]
  | looked =>
      obtain ⟨hfree, step⟩ := Option.ite_none_left_eq_some.mp step
      cases step
      refine ⟨{ c with locked := true }, ?_, { h with locked := rfl }, of_none, rfl⟩
      simp only [Leaving.ending, ClientCalls.ending?, h.locked, if_neg hfree]
  | locked =>
      simp only [ReceiveLoops.leave?] at step
      have hsame : c.ending? false .locked =
          if s.kind.looksFirst && !(Phase.exchange .connected .closing s.state).1 then
            some (.returned, { c.update fun c =>
              { c with state := (Phase.exchange .connected .closing s.state).2 } with
              locked := false })
          else
            some (.tried (Phase.exchange .connected .closing s.state).1, c.update fun c =>
              { c with state := (Phase.exchange .connected .closing s.state).2 }) := by
        rw [ClientCalls.ending?, h.state, ← h.kind]
        rfl
      rw [Leaving.ending, hsame]
      split at step
      · next hlost =>
          cases step
          rw [if_pos hlost]
          exact ⟨_, rfl, { h with state := rfl, locked := rfl }, of_none, rfl⟩
      · next hgoes =>
          cases step
          rw [if_neg hgoes]
          exact ⟨_, rfl, { h with state := rfl }, of_none, rfl⟩
  | tried won =>
      simp only [ReceiveLoops.leave?] at step
      split at step
      · next k hrecord =>
          cases step
          obtain ⟨there, hthere⟩ := h.exists_connection hrecord
          have hlength : (s.cancel k).loops.length = s.loops.length := List.length_modify ..
          refine ⟨{ c.update fun c => { c with connection := none } with cancelled := true }, ?_,
            h.take hrecord (.inr rfl), ?_, hlength⟩
          · simp only [Leaving.ending, ClientCalls.ending?, hthere]
          · intro j hj
            obtain rfl := Option.some.inj hj
            exact (h.recorded k hrecord).trans hlength.symm
      · next hrecord =>
          have hnone := h.record_eq_none.mpr hrecord
          cases won <;> cases step
          · refine ⟨{ c with locked := false }, ?_, { h with locked := rfl }, of_none, rfl⟩
            simp only [Leaving.ending, ClientCalls.ending?, hnone, Bool.false_eq_true, if_false]
          · refine ⟨c.update fun c => { c with state := .disconnected }, ?_,
              { h with state := rfl }, of_none, rfl⟩
            simp only [Leaving.ending, ClientCalls.ending?, hnone, if_true]
  | waiting won k =>
      obtain ⟨hended, step⟩ := Option.ite_none_right_eq_some.mp step
      have hreader := (h.loops.hasEnded_iff (hleft k rfl)).mp hended
      cases won <;> cases step
      · refine ⟨{ c with locked := false }, ?_, { h with locked := rfl }, of_none, rfl⟩
        simp only [Leaving.ending, ClientCalls.ending?, hreader, decide_true, Bool.true_or,
          if_true, Bool.false_eq_true, if_false]
      · refine ⟨c.update fun c => { c with state := .disconnected }, ?_,
          { h with state := rfl }, of_none, rfl⟩
        simp only [Leaving.ending, ClientCalls.ending?, hreader, decide_true, Bool.true_or, if_true]
  | cleared connection farewell =>
      simp only [ReceiveLoops.leave?] at step
      cases step
      exact ⟨_, rfl, { h with locked := rfl }, of_none, rfl⟩
  | telling connection farewell =>
      simp only [ReceiveLoops.leave?] at step
      cases step
      exact ⟨_, rfl, h.note .disconnected (fun _ => rfl) rfl, of_none, rfl⟩
  | returned => cases step

/-- The last loop gets to another place. -/
theorem put (h : Mirrors s c) {k : Nat} {loop : ReceiveLoop} (hloop : s.loops[k]? = some loop)
    (hgoes : loop.place ≠ .ended) (place : LoopPlace) :
    Mirrors (s.put k loop place) { c with reader := place.reader } := by
  have hlength : (s.put k loop place).loops.length = s.loops.length := List.length_set ..
  obtain ⟨hreads, hunread⟩ := h.reads_of_length hlength rfl
  obtain ⟨-, -, -, -, -, hbuffer, -⟩ := h.loops.of_getElem? hloop hgoes
  exact { h with
    recorded := fun j hj => (h.recorded j hj).trans hlength.symm
    loops := by
      rw [hbuffer]
      exact h.loops.put hloop hgoes { loop with place } rfl rfl
    reads := hreads
    unread := hunread }

/-- The last loop goes on, where it has no choice: so does the reader, or it is there already. -/
theorem goOn? (h : Mirrors s c) {k : Nat} {loop : ReceiveLoop} (hloop : s.loops[k]? = some loop)
    (hmark : c.client.callback.mark = "") (hstays : c.hangsUp = fun _ => false)
    (step : s.goOn? k loop = some t) :
    (Mirrors t c ∨ ∃ d, c.goOn? = some d ∧ Mirrors t d) ∧
      t.loops.length = s.loops.length := by
  have hgoes : loop.place ≠ .ended := by
    intro hended
    simp [ReceiveLoops.goOn?, hended] at step
  have hput := h.put hloop hgoes
  have hlength (place : LoopPlace) : (s.put k loop place).loops.length = s.loops.length :=
    List.length_set ..
  obtain ⟨-, -, -, -, hreader, -, hreleased, -⟩ := h.loops.of_getElem? hloop hgoes
  have hsame (place : LoopPlace) (hplace : place.reader = loop.place.reader) :
      Mirrors (s.put k loop place) c := by
    have hput := hput place
    rw [hplace, ← hreader] at hput
    exact hput
  unfold ReceiveLoops.goOn? at step
  cases hplace : loop.place with
  | held =>
      simp only [hplace] at step
      obtain ⟨hfree, step⟩ := Option.ite_none_right_eq_some.mp step
      cases step
      refine ⟨.inr ⟨_, ?_, hput .idle⟩, hlength _⟩
      simp only [ClientCalls.goOn?, hreader, hplace, LoopPlace.reader, hreleased, hfree, if_true]
  | idle =>
      simp only [hplace] at step
      obtain ⟨-, step⟩ := Option.ite_none_right_eq_some.mp step
      cases step
      exact ⟨.inl (hsame .awaiting (by rw [hplace]; rfl)), hlength _⟩
  | awaiting =>
      simp only [hplace] at step
      cases step
      exact ⟨.inl (hsame .idle (by rw [hplace]; rfl)), hlength _⟩
  | handing rest =>
      cases rest with
      | nil =>
          simp only [hplace] at step
          cases step
          refine ⟨.inr ⟨_, ?_, hput .idle⟩, hlength _⟩
          simp only [ClientCalls.goOn?, hreader, hplace, LoopPlace.reader]
      | cons frame rest =>
          simp only [hplace] at step
          cases step
          refine ⟨.inr ⟨_, ?_, (hput (.inCallback rest)).note (.frame "" frame)
            (fun _ => rfl) rfl⟩, hlength _⟩
          have hreader : c.reader = .delivering (frame :: rest) := by rw [hreader, hplace]; rfl
          simp only [ClientCalls.goOn?, hreader, hmark, ClientCalls.update, hstays,
            Bool.false_eq_true, if_false]
          rfl
  | inCallback rest =>
      simp only [hplace] at step
      obtain ⟨-, step⟩ := Option.ite_none_left_eq_some.mp step
      cases step
      exact ⟨.inl (hsame (.handing rest) (by rw [hplace]; rfl)), hlength _⟩
  | noticed =>
      simp only [hplace] at step
      cases step
      have hreader : c.reader = .noticed := by rw [hreader, hplace]; rfl
      refine ⟨.inr ⟨_, by rw [ClientCalls.goOn?, hreader], ?_⟩, hlength _⟩
      dsimp only
      rw [h.state]
      cases hwon : (Phase.exchange .connected .disconnected s.state).1 with
      | true => exact { hput (.telling s.record) with state := rfl }
      | false => exact { hput .ended with state := rfl }
  | telling connection =>
      simp only [hplace] at step
      cases step
      have hreader : c.reader = .telling := by rw [hreader, hplace]; rfl
      exact ⟨.inr ⟨_, by rw [ClientCalls.goOn?, hreader]; rfl,
        (hput .ended).note .disconnected (fun _ => rfl) rfl⟩, hlength _⟩
  | ended => exact absurd hplace hgoes

/-- The last loop reads some bytes. -/
theorem read (h : Mirrors s c) {k : Nat} {loop : ReceiveLoop} (hloop : s.loops[k]? = some loop)
    (hgoes : loop.place ≠ .ended) (chunk : Bytes) :
    Mirrors ((s.put k { loop with buffer := (loop.buffer.feed chunk).1 }
        (.handing (loop.buffer.feed chunk).2)).note (.read k chunk))
      { c with
        buffer := (c.buffer.feed chunk).1, reader := .delivering (c.buffer.feed chunk).2
        reads := ClientCalls.heard chunk c.reads } := by
  obtain ⟨before, hloops, hk, -, -, hbuffer, -⟩ := h.loops.of_getElem? hloop hgoes
  have hlast : k + 1 = s.loops.length := by rw [hloops, List.length_append, hk]; rfl
  have hlength (l : ReceiveLoop) : (s.loops.set k l).length = s.loops.length := List.length_set ..
  exact { h with
    recorded := fun j hj => (h.recorded j hj).trans (hlength _).symm
    loops := by
      rw [hbuffer]
      exact h.loops.put hloop hgoes { loop with
        place := .handing (loop.buffer.feed chunk).2, buffer := (loop.buffer.feed chunk).1 } rfl rfl
    log := by
      show c.client.log.toList = (s.log ++ [LoopEvent.read k chunk]).filterMap LoopEvent.told?
      rw [h.log, List.filterMap_append]
      exact (List.append_nil _).symm
    reads := by
      show ClientCalls.heard chunk c.reads
        = (readsOf (s.loops.set k _).length (s.log ++ [.read k chunk])).reverse
      rw [hlength, ← hlast, readsOf_read, hlast, h.reads]
    unread := by
      intro j hj
      have hj : s.loops.length ≤ j := (hlength _) ▸ hj
      have hne : k ≠ j := by omega
      show chunksRead j (s.log ++ [.read k chunk]) = []
      rw [chunksRead_append, h.unread j hj]
      simp [chunksRead, LoopEvent.read?, hne] }

/-- A move of a loop is a move of the reader, or none. -/
theorem loopMove? (h : Mirrors s c) {k : Nat} {loop : ReceiveLoop} {m : LoopMove}
    (hloop : s.loops[k]? = some loop) (hmark : c.client.callback.mark = "")
    (hstays : c.hangsUp = fun _ => false)
    (hthere : c.client.state = .connected → c.client.connection ≠ none)
    (step : s.loopMove? k loop m = some t) :
    (∃ steps d, play ClientCalls.inTurn? c steps = some d ∧ Mirrors t d ∧
        d.beginnings = c.beginnings ∧ d.endings = c.endings) ∧
      t.loops.length = s.loops.length := by
  have hlength (l : ReceiveLoop) : (s.loops.set k l).length = s.loops.length := List.length_set ..
  have hone {m : ClientMove} {d : ClientCalls} (hd : c.inTurn? m = some d) :
      play ClientCalls.inTurn? c [m] = some d := by
    rw [play, hd]
    rfl
  cases m with
  | goOn j =>
      obtain ⟨hmirrors | ⟨d, hd, hmirrors⟩, hsame⟩ := h.goOn? hloop hmark hstays step
      · exact ⟨⟨[], c, rfl, hmirrors, rfl, rfl⟩, hsame⟩
      · obtain ⟨hbeginnings, hendings, -⟩ := ClientCalls.goOn?_cases hd
        exact ⟨⟨[.goOn], d, hone hd, hmirrors, hbeginnings, hendings⟩, hsame⟩
  | read j chunk =>
      obtain ⟨hmay, step⟩ := Option.ite_none_right_eq_some.mp step
      cases step
      have hplace : loop.place.reader = .reading := by
        cases hkind : s.kind <;> rw [hkind] at hmay <;> rw [of_decide_eq_true hmay] <;> rfl
      have hgoes : loop.place ≠ .ended := by
        intro hended
        rw [hended] at hplace
        cases hplace
      obtain ⟨-, -, -, -, hreader, hbuffer, -⟩ := h.loops.of_getElem? hloop hgoes
      refine ⟨⟨[.read chunk], _, hone ?_, h.read hloop hgoes chunk, rfl, rfl⟩, hlength _⟩
      exact if_pos (hreader.trans hplace)
  | seeCancelled j =>
      obtain ⟨hmay, step⟩ := Option.ite_none_right_eq_some.mp step
      cases step
      obtain ⟨htold, hmay⟩ := Bool.and_eq_true_iff.mp hmay
      have hplace := ReceiveLoops.maySee_place hmay
      have hgoes : loop.place ≠ .ended := by
        rintro hended
        rw [hended] at hplace
        rcases hplace with hplace | hplace | hplace <;> cases hplace
      obtain ⟨-, -, -, -, hreader, -, -, hcancelled⟩ := h.loops.of_getElem? hloop hgoes
      have hcancelled := hcancelled htold
      rcases hplace with hplace | hplace | hplace
      · refine ⟨⟨[.seeCancelled], _, hone ?_, h.put hloop hgoes .ended, rfl, rfl⟩, hlength _⟩
        rw [hplace] at hreader
        simp [ClientCalls.inTurn?, ClientCalls.move?, hcancelled, hreader, LoopPlace.reader]
      · refine ⟨⟨[.seeCancelled], _, hone ?_, h.put hloop hgoes .ended, rfl, rfl⟩, hlength _⟩
        rw [hplace] at hreader
        simp [ClientCalls.inTurn?, ClientCalls.move?, hcancelled, hreader, LoopPlace.reader]
      · -- The connection is gone, so the reader that goes on is not the one to tell of its end.
        refine ⟨⟨[.goOn], _, hone ?_, h.put hloop hgoes .ended, rfl, rfl⟩, hlength _⟩
        rw [hplace] at hreader
        have hstate : c.client.state ≠ .connected := fun hstate =>
          hthere hstate (h.taken hcancelled)
        simp [ClientCalls.inTurn?, ClientCalls.move?, ClientCalls.goOn?, hreader, LoopPlace.reader,
          Phase.exchange, hstate, ClientCalls.update]
  | notice j =>
      obtain ⟨hmay, step⟩ := Option.ite_none_right_eq_some.mp step
      cases step
      obtain ⟨hnotices, hidle⟩ := Bool.and_eq_true_iff.mp hmay
      have hplace : loop.place = .idle := of_decide_eq_true hidle
      have hgoes : loop.place ≠ .ended := by
        intro hended
        rw [hplace] at hended
        cases hended
      obtain ⟨-, -, -, -, hreader, -⟩ := h.loops.of_getElem? hloop hgoes
      refine ⟨⟨[.notice], _, hone ?_, h.put hloop hgoes .noticed, rfl, rfl⟩, hlength _⟩
      rw [hplace] at hreader
      simp [ClientCalls.inTurn?, ClientCalls.move?, h.kind, hnotices, hreader, LoopPlace.reader]
  | callConnect caller opened | connect i | callDisconnect caller | disconnect i | giveUp i =>
      cases step

end Mirrors

/-! ### Moves and plays -/

namespace MirrorsCalls

variable {peer : Peer} {s t : ReceiveLoops} {c : ClientCalls} {config : EngineConfig} {turn : Turn}
  {telling : Telling}

/-- All calls have returned on the one side if they have on the other. -/
theorem isQuiet_eq (h : MirrorsCalls peer s c) : c.isQuiet = s.isQuiet := by
  rw [ClientCalls.isQuiet, ReceiveLoops.isQuiet, h.joins, h.leaves, List.all_map, List.all_map]
  congr 2
  · funext call
    cases hplace : call.place <;> simp [hplace, Leaving.ending]
  · funext call
    cases hplace : call.place <;> simp [hplace, Joining.beginning, Joining.isReturned]

/-- While one call opens a connection, no other has to do with one. -/
theorem idle_of_opening (h : MirrorsCalls peer s c) {opened : Except EngineError Peer}
    (hwaits : c.Waits (.connecting (.opening opened))) :
    (∀ call ∈ s.joins, call.place.connection? = none) ∧
      ∀ call ∈ s.leaves, call.place.connection? = none := by
  obtain ⟨results, hresults⟩ := hwaits.beginnings
  obtain ⟨n, hn⟩ := hwaits.endings
  rw [h.joins] at hresults
  rw [h.leaves] at hn
  refine ⟨fun call hcall => ?_, fun call hcall => ?_⟩
  · have hmem := List.mem_map_of_mem (f := fun call => call.place.beginning peer) hcall
    rw [hresults, List.mem_append, List.mem_map] at hmem
    cases hplace : call.place with
    | called | clearing | opening | returned => rfl
    | telling k | releasing k =>
        rw [hplace] at hmem
        rcases hmem with ⟨result, -, heq⟩ | hmem
        · cases heq
        · cases List.mem_singleton.mp hmem
  · have hmem := List.mem_map_of_mem (f := fun call => call.place.ending) hcall
    rw [hn, List.mem_append] at hmem
    cases hplace : call.place with
    | called | looked | locked | tried | cleared | telling | returned => rfl
    | waiting won k =>
        rw [hplace] at hmem
        rcases hmem with hmem | hmem
        · cases List.eq_of_mem_replicate hmem
        · cases hmem

/-- Connecting call `i` has got to its next place, and whatever a call has to do with is still the
last loop. -/
theorem set_join {u : ReceiveLoops} {d : ClientCalls} (h : MirrorsCalls peer s c) (hu : Mirrors u d)
    (hcalls : d.beginnings = c.beginnings ∧ d.endings = c.endings)
    (hsame : u.leaves = s.leaves ∧ u.joins = s.joins)
    (hothers : (∀ call ∈ s.joins, ∀ k, call.place.connection? = some k → k + 1 = u.loops.length) ∧
      ∀ call ∈ s.leaves, ∀ k, call.place.connection? = some k → k + 1 = u.loops.length)
    {i : Nat} {call : MadeBy Joining} (hcall : s.joins[i]? = some call) {next : Joining}
    (hnext : ∀ k, next.connection? = some k → k + 1 = u.loops.length) :
    MirrorsCalls peer { u with joins := u.joins.set i { call with place := next } }
      { d with beginnings := d.beginnings.set i (next.beginning peer) } := by
  have hset {other : MadeBy Joining} (hother : other ∈ u.joins.set i { call with place := next }) :
      other ∈ s.joins ∨ other = { call with place := next } :=
    hsame.2 ▸ List.mem_or_eq_of_mem_set hother
  refine { hu with joins := ?_, leaves := ?_, outside := ⟨?_, ?_⟩, joined := ?_, left := ?_ }
  · show d.beginnings.set i _ = (u.joins.set i _).map _
    rw [hcalls.1, h.joins, hsame.2, List.map_set]
  · exact (hcalls.2.trans h.leaves).trans (congrArg _ hsame.1.symm)
  · intro other hother
    rcases hset hother with hold | rfl
    · exact h.outside.1 other hold
    · exact h.outside.1 call (List.mem_of_getElem? hcall)
  · exact fun other hother => h.outside.2 other (hsame.1 ▸ hother)
  · intro other hother
    rcases hset hother with hold | rfl
    · exact hothers.1 other hold
    · exact hnext
  · exact fun other hother => hothers.2 other (hsame.1 ▸ hother)

/-- So has disconnecting call `i`. -/
theorem set_leave {u : ReceiveLoops} {d : ClientCalls} (h : MirrorsCalls peer s c)
    (hu : Mirrors u d) (hcalls : d.beginnings = c.beginnings ∧ d.endings = c.endings)
    (hsame : u.leaves = s.leaves ∧ u.joins = s.joins) (hlength : u.loops.length = s.loops.length)
    {i : Nat} {call : MadeBy Leaving} (hcall : s.leaves[i]? = some call) {next : Leaving}
    (hnext : ∀ k, next.connection? = some k → k + 1 = u.loops.length) :
    MirrorsCalls peer { u with leaves := u.leaves.set i { call with place := next } }
      { d with endings := d.endings.set i next.ending } := by
  have hset {other : MadeBy Leaving} (hother : other ∈ u.leaves.set i { call with place := next }) :
      other ∈ s.leaves ∨ other = { call with place := next } :=
    hsame.1 ▸ List.mem_or_eq_of_mem_set hother
  refine { hu with joins := ?_, leaves := ?_, outside := ⟨?_, ?_⟩, joined := ?_, left := ?_ }
  · exact (hcalls.1.trans h.joins).trans (congrArg _ hsame.2.symm)
  · show d.endings.set i _ = (u.leaves.set i _).map _
    rw [hcalls.2, h.leaves, hsame.1, List.map_set]
  · exact fun other hother => h.outside.1 other (hsame.2 ▸ hother)
  · intro other hother
    rcases hset hother with hold | rfl
    · exact h.outside.2 other hold
    · exact h.outside.2 call (List.mem_of_getElem? hcall)
  · exact fun other hother k hk => (h.joined other (hsame.2 ▸ hother) k hk).trans hlength.symm
  · intro other hother
    rcases hset hother with hold | rfl
    · exact fun k hk => (h.left other hold k hk).trans hlength.symm
    · exact hnext

/-- A step of connecting call `i` is mirrored by a step of connecting call `i`. -/
theorem connect (h : MirrorsCalls peer s c) (hwaits : c.Waits turn)
    (hb : c.Behaved config turn telling) {i : Nat} (moved : s.inTurn? (.connect i) = some t) :
    ∃ d, c.inTurn? (.connect i) = some d ∧ MirrorsCalls peer t d := by
  obtain ⟨hstays, moved⟩ := Option.ite_none_left_eq_some.mp moved
  obtain ⟨call, next, u, hcall, hstep, rfl⟩ := ReceiveLoops.connect_eq_some moved
  have hbeginning : c.beginnings[i]? = some (call.place.beginning peer) := by
    rw [h.joins, List.getElem?_map, hcall]
    rfl
  have hopening : ∀ opened, call.place = .opening opened →
      c.Waits (.connecting (.opening (opened.map fun _ => peer))) ∧ c.reader = .ended := by
    intro opened hplace
    rw [hplace] at hbeginning
    obtain ⟨rfl, -⟩ := hwaits.turn_eq_connecting hbeginning (by rintro _ ⟨⟩)
    refine ⟨hwaits, ?_⟩
    cases hb.stands with
    | opening _ reader => exact reader
    | past calm | live calm => cases calm
  obtain ⟨d, hd, hmirrors, hnext, hlength⟩ :=
    h.toMirrors.join? peer hstep (h.joined call (List.mem_of_getElem? hcall))
      (fun opened k hplace hrecord => s.hasEnded_of_waits hstays hcall hplace hrecord)
      (fun opened hplace => (hopening opened hplace).2)
  obtain ⟨hbeginnings, hendings, -⟩ := ClientCalls.beginning?_cases hd
  -- A call that opens a connection is the only one that has to do with one.
  have hothers : (∀ other ∈ s.joins, ∀ k, other.place.connection? = some k →
        k + 1 = u.loops.length) ∧
      ∀ other ∈ s.leaves, ∀ k, other.place.connection? = some k → k + 1 = u.loops.length := by
    by_cases hopens : ∃ opened, call.place = .opening opened
    · obtain ⟨opened, hplace⟩ := hopens
      obtain ⟨hidle, hidle'⟩ := h.idle_of_opening (hopening opened hplace).1
      refine ⟨fun other ho k hk => ?_, fun other ho k hk => ?_⟩
      · cases (hidle other ho).symm.trans hk
      · cases (hidle' other ho).symm.trans hk
    · rw [hlength fun opened hplace => hopens ⟨opened, hplace⟩]
      exact ⟨h.joined, h.left⟩
  refine ⟨{ d with beginnings := d.beginnings.set i (next.beginning peer) }, ?_,
    h.set_join hmirrors ⟨hbeginnings, hendings⟩ (ReceiveLoops.join?_calls hstep) hothers hcall
      hnext⟩
  simp only [ClientCalls.inTurn?, ClientCalls.move?, hbeginning, hd]

/-- A step of disconnecting call `i` is mirrored by a step of disconnecting call `i`. -/
theorem disconnect (h : MirrorsCalls peer s c) {i : Nat}
    (moved : s.inTurn? (.disconnect i) = some t) :
    ∃ d, c.inTurn? (.disconnect i) = some d ∧ MirrorsCalls peer t d := by
  obtain ⟨call, next, u, hcall, hstep, rfl⟩ := ReceiveLoops.withLeave_eq_some moved
  have hending : c.endings[i]? = some call.place.ending := by
    rw [h.leaves, List.getElem?_map, hcall]
    rfl
  obtain ⟨d, hd, hmirrors, hnext, hlength⟩ :=
    h.toMirrors.leave? hstep (h.left call (List.mem_of_getElem? hcall))
  obtain ⟨hbeginnings, hendings, -⟩ := ClientCalls.ending?_cases hd
  refine ⟨{ d with endings := d.endings.set i next.ending }, ?_,
    h.set_leave hmirrors ⟨hbeginnings, hendings⟩ (ReceiveLoops.leave?_calls hstep) hlength hcall
      hnext⟩
  simp only [ClientCalls.inTurn?, ClientCalls.move?, hending, hd]

/-- So is every move of a loop, or it makes no difference to the reader. -/
theorem loopMove (h : MirrorsCalls peer s c) (hb : c.Behaved config turn telling) {k : Nat}
    {m : LoopMove} (moved : s.withLoop k m = some t) :
    ∃ steps d, play ClientCalls.inTurn? c steps = some d ∧ MirrorsCalls peer t d := by
  obtain ⟨loop, hloop, hstep⟩ := ReceiveLoops.withLoop_eq_some moved
  have hmark : c.client.callback.mark = "" := by rw [hb.callback]
  have hthere (hconnected : c.client.state = .connected) : c.client.connection ≠ none := by
    intro hnone
    have hsome := hb.stands.record_of_connected hconnected
    rw [hnone] at hsome
    cases hsome
  obtain ⟨⟨steps, d, hd, hmirrors, hbeginnings, hendings⟩, hlength⟩ :=
    h.toMirrors.loopMove? hloop hmark hb.hangsUp hthere hstep
  obtain ⟨hleaves, hjoins, -⟩ := ReceiveLoops.loopMove?_calls hstep
  refine ⟨steps, d, hd, { hmirrors with
    joins := ?_, leaves := ?_, outside := ?_, joined := ?_, left := ?_ }⟩
  · rw [hbeginnings, hjoins, h.joins]
  · rw [hendings, hleaves, h.leaves]
  · rw [hjoins, hleaves]
    exact h.outside
  · rw [hjoins, hlength]
    exact h.joined
  · rw [hleaves, hlength]
    exact h.left

/-- Every move is mirrored. -/
theorem move (h : MirrorsCalls peer s c) (hwaits : c.Waits turn)
    (hb : c.Behaved config turn telling) {m : LoopMove} (moved : s.inTurn? m = some t) :
    ∃ steps d, play ClientCalls.inTurn? c steps = some d ∧ MirrorsCalls peer t d := by
  have hone {m : ClientMove} (hd : ∃ d, c.inTurn? m = some d ∧ MirrorsCalls peer t d) :
      ∃ steps d, play ClientCalls.inTurn? c steps = some d ∧ MirrorsCalls peer t d := by
    obtain ⟨d, hd, hmirrors⟩ := hd
    refine ⟨[m], d, ?_, hmirrors⟩
    rw [play, hd]
    rfl
  cases m with
  | callConnect caller opened =>
      cases caller with
      | some k => cases moved
      | none =>
          obtain ⟨hquiet, moved⟩ := Option.ite_none_right_eq_some.mp moved
          cases moved
          refine hone (m := .callConnect (opened.map fun _ => peer)) ⟨_,
            if_pos (h.isQuiet_eq.trans hquiet), { h with
              joins := ?_, outside := ⟨?_, h.outside.2⟩, joined := ?_ }⟩
          · show c.beginnings ++ _ = (s.joins ++ _).map _
            rw [h.joins, List.map_append]
            rfl
          · rw [List.forall_mem_append]
            exact ⟨h.outside.1, fun call hcall => by rw [List.mem_singleton.mp hcall]⟩
          · rw [List.forall_mem_append]
            refine ⟨h.joined, fun call hcall k hk => ?_⟩
            rw [List.mem_singleton.mp hcall] at hk
            cases hk
  | connect i => exact hone (h.connect hwaits hb moved)
  | callDisconnect caller =>
      cases caller with
      | some k => cases moved
      | none =>
          obtain ⟨hquiet, moved⟩ := Option.ite_none_right_eq_some.mp moved
          cases moved
          refine hone (m := .callDisconnect) ⟨_, if_pos (h.isQuiet_eq.trans hquiet), { h with
            leaves := ?_, outside := ⟨h.outside.1, ?_⟩, left := ?_ }⟩
          · show c.endings ++ _ = (s.leaves ++ _).map _
            rw [h.leaves, List.map_append]
            rfl
          · rw [List.forall_mem_append]
            exact ⟨h.outside.2, fun call hcall => by rw [List.mem_singleton.mp hcall]⟩
          · rw [List.forall_mem_append]
            refine ⟨h.left, fun call hcall k hk => ?_⟩
            rw [List.mem_singleton.mp hcall] at hk
            cases hk
  | disconnect i => exact hone (h.disconnect moved)
  | giveUp i => cases moved
  | goOn k | read k chunk | seeCancelled k | notice k => exact h.loopMove hb moved

/-- **Every play is mirrored.** -/
theorem play (h : MirrorsCalls peer s c)
    (hstands : ∃ turn telling, c.Waits turn ∧ c.Behaved config turn telling)
    (moves : List LoopMove) (played : play ReceiveLoops.inTurn? s moves = some t) :
    ∃ steps d, Interleaving.play ClientCalls.inTurn? c steps = some d ∧ MirrorsCalls peer t d := by
  induction moves generalizing s c with
  | nil =>
      obtain rfl := Option.some.inj played
      exact ⟨[], c, rfl, h⟩
  | cons m rest ih =>
      unfold Interleaving.play at played
      split at played
      · cases played
      · next u hmove =>
          obtain ⟨turn, telling, hwaits, hb⟩ := hstands
          obtain ⟨steps, d, hd, hu⟩ := h.move hwaits hb hmove
          obtain ⟨more, e, he, ht⟩ := ih hu
            (ClientCalls.behaved_of_play ⟨turn, telling, hwaits, hb⟩ steps hd) played
          refine ⟨steps ++ more, e, ?_, ht⟩
          rw [play_append, hd]
          exact he

end MirrorsCalls

/-- A client on which nothing has been called. -/
theorem mirrors_start (peer : Peer) (kind : EngineKind) (config : EngineConfig) :
    MirrorsCalls peer (.start kind config.delimiter) (.start kind config) :=
  { kind := rfl, delimiter := rfl, state := rfl, locked := rfl, record := rfl, recorded := nofun,
    loops := .nobody rfl, taken := nofun, log := rfl, reads := rfl, unread := fun _ _ => rfl,
    joins := rfl, leaves := rfl, outside := ⟨nofun, nofun⟩, joined := nofun, left := nofun }

end Interleaving

end Lifecast
