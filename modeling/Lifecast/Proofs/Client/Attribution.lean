/-
Every end that a client is told of is the end of a connection of its.

Whoever tells has moved the phase out of `connected`, and in that phase there is a record of
the connection.  A loop reads the record in the same step.  A call reads it later, but holds
the lock all the while, and nobody takes the record away without the lock
(`Named`, `end_is_named`).
-/
import Mathlib.Data.List.Basic
import Lifecast.Interleaving.ReceiveLoops

namespace Lifecast

namespace Interleaving

/-- What a call has in hand. -/
inductive Grip where
  /-- Nothing. -/
  | free
  /-- The lock. -/
  | holds
  /-- The lock, and it is to take the record away, having closed the client or not. -/
  | takes (won : Bool)
  /-- The end of a connection, which it is to tell, and the lock or no longer. -/
  | parts (connection : Option Nat) (locked : Bool)

/-- Is the lock among it? -/
def Grip.holdsLock : Grip → Bool
  | free => false
  | holds | takes _ => true
  | parts _ locked => locked

/-- What a call to `disconnect` has in hand. -/
def Leaving.grip : Leaving → Grip
  | called | looked | returned => .free
  | locked | waiting _ _ => .holds
  | tried won => .takes won
  | cleared connection _ => .parts connection true
  | telling connection _ => .parts connection false

/-- What a call to `connect` has in hand. -/
def Joining.grip : Joining → Grip
  | called _ | telling _ | releasing _ | returned _ => .free
  | clearing _ => .takes false
  | opening _ => .holds

namespace ReceiveLoops

/-- What all calls have in hand. -/
def grips (s : ReceiveLoops) : List Grip :=
  s.joins.map (·.place.grip) ++ s.leaves.map (·.place.grip)

/-- What a call relies on. -/
def Sound (s : ReceiveLoops) : Grip → Prop
  | .free | .holds => True
  | .takes won => s.state ≠ .connected ∧ (won = true → s.record ≠ none)
  | .parts connection _ => connection ≠ none

/-- Nobody has told, or is to tell, the end of no connection. -/
structure Named (s : ReceiveLoops) (grips : List Grip) : Prop where
  alone : grips.countP Grip.holdsLock = s.locked.toNat
  sound : ∀ g ∈ grips, s.Sound g
  record : s.state = .connected → s.record ≠ none
  loops : ∀ loop ∈ s.loops, loop.place ≠ .telling none
  log : ∀ farewell, .disconnected none farewell ∉ s.log

variable {s t : ReceiveLoops} {g next : Grip} {grips others : List Grip}

/-! ### What a move is -/

/-- A step of call `i` to `disconnect`. -/
theorem withLeave_eq_some {i : Nat} {step : MadeBy Leaving → Option (Leaving × ReceiveLoops)}
    (h : s.withLeave i step = some t) :
    ∃ call place u, s.leaves[i]? = some call ∧ step call = some (place, u) ∧
      t = { u with leaves := u.leaves.set i { call with place } } := by
  unfold withLeave at h
  split at h
  · cases h
  · next call hcall =>
      split at h
      · cases h
      · next place u hstep => exact ⟨call, place, u, hcall, hstep, (Option.some.inj h).symm⟩

/-- A step of call `i` to `connect`. -/
theorem connect_eq_some {i : Nat} (h : s.move? (.connect i) = some t) :
    ∃ call place u, s.joins[i]? = some call ∧ s.join? call.place = some (place, u) ∧
      t = { u with joins := u.joins.set i { call with place } } := by
  simp only [move?] at h
  split at h
  · cases h
  · next call hcall =>
      split at h
      · cases h
      · next place u hstep => exact ⟨call, place, u, hcall, hstep, (Option.some.inj h).symm⟩

/-- A move of loop `k`. -/
theorem withLoop_eq_some {k : Nat} {m : LoopMove} (h : s.withLoop k m = some t) :
    ∃ loop, s.loops[k]? = some loop ∧ s.loopMove? k loop m = some t := by
  unfold withLoop at h
  split at h
  · cases h
  · next loop hloop => exact ⟨loop, hloop, h⟩

theorem afterWait_calls {caller : Option Nat} {won waited : Bool} {k : Nat} {place : Leaving}
    (h : s.afterWait caller won k waited = (place, t)) :
    t.leaves = s.leaves ∧ t.joins = s.joins := by
  cases won <;> obtain ⟨-, rfl⟩ := Prod.mk.inj h <;> exact ⟨rfl, rfl⟩

/-- No call acts on another call. -/
theorem leave?_calls {caller : Option Nat} {call place : Leaving}
    (h : s.leave? caller call = some (place, t)) : t.leaves = s.leaves ∧ t.joins = s.joins := by
  cases call with
  | waiting won k =>
      obtain ⟨-, h⟩ := Option.ite_none_right_eq_some.mp h
      exact afterWait_calls (Option.some.inj h)
  | called | looked | locked | tried won | cleared connection farewell
  | telling connection farewell | returned =>
      simp only [leave?] at h
      repeat' split at h
      all_goals cases h <;> exact ⟨rfl, rfl⟩

theorem giveUp?_calls {caller : Option Nat} {call place : Leaving}
    (h : s.giveUp? caller call = some (place, t)) : t.leaves = s.leaves ∧ t.joins = s.joins := by
  cases call with
  | waiting won k =>
      obtain ⟨-, h⟩ := Option.ite_none_right_eq_some.mp h
      exact afterWait_calls (Option.some.inj h)
  | called | looked | locked | tried won | cleared connection farewell
  | telling connection farewell | returned => cases h

theorem join?_calls {call place : Joining} (h : s.join? call = some (place, t)) :
    t.leaves = s.leaves ∧ t.joins = s.joins := by
  cases call with
  | opening opened => cases opened <;> cases h <;> exact ⟨rfl, rfl⟩
  | called opened | clearing opened | telling k | releasing k | returned result =>
      simp only [join?] at h
      repeat' split at h
      all_goals cases h <;> exact ⟨rfl, rfl⟩

/-- A loop acts on no call and does not take the record away. -/
theorem loopMove?_calls {k : Nat} {loop : ReceiveLoop} {m : LoopMove}
    (h : s.loopMove? k loop m = some t) :
    t.leaves = s.leaves ∧ t.joins = s.joins ∧ t.record = s.record := by
  cases m with
  | goOn j =>
      unfold loopMove? ReceiveLoops.goOn? at h
      repeat' split at h
      all_goals cases h <;> exact ⟨rfl, rfl, rfl⟩
  | read j chunk | seeCancelled j | notice j =>
      obtain ⟨-, ht⟩ := Option.ite_none_right_eq_some.mp h
      obtain rfl := Option.some.inj ht
      exact ⟨rfl, rfl, rfl⟩
  | callConnect caller opened | connect i | callDisconnect caller | disconnect i | giveUp i =>
      cases h

/-! ### What the lock guards -/

theorem Named.locked (h : s.Named grips) (hmem : g ∈ grips) (hg : g.holdsLock = true) :
    s.locked = true :=
  locked_of_holder h.alone hmem hg

/-- What nobody relies on may change, and the phase may leave `connected`. -/
theorem Named.of_calm (h : s.Named grips) (hlocked : t.locked = s.locked)
    (hstate : t.state = .connected → s.state = .connected) (hrecord : t.record = s.record)
    (hloops : ∀ loop ∈ t.loops, loop.place ≠ .telling none)
    (hlog : ∀ farewell, .disconnected none farewell ∉ t.log) : t.Named grips := by
  refine ⟨hlocked ▸ h.alone, ?_, fun ht => hrecord ▸ h.record (hstate ht), hloops, hlog⟩
  intro g hg
  cases g with
  | free | holds => exact trivial
  | takes won =>
      obtain ⟨hclosed, hwon⟩ := h.sound _ hg
      exact ⟨fun ht => hclosed (hstate ht), hrecord ▸ hwon⟩
  | parts connection locked => exact h.sound _ hg

/-- A call without the lock relies on nothing that may change. -/
theorem Sound.of_not_holdsLock (hsound : s.Sound g) (hg : g.holdsLock = false) : t.Sound g := by
  cases g with
  | free => exact trivial
  | holds | takes won => cases hg
  | parts connection locked => exact hsound

/-- The step of a call that holds the lock, or takes it: no other call relies on what it
changes. -/
theorem Named.of_holder (h : s.Named grips) (hmoved : OneMoved g next grips others)
    (hwas : s.locked = g.holdsLock) (hlocked : t.locked = next.holdsLock) (hnext : t.Sound next)
    (hrecord : t.state = .connected → t.record ≠ none)
    (hloops : ∀ loop ∈ t.loops, loop.place ≠ .telling none)
    (hlog : ∀ farewell, .disconnected none farewell ∉ t.log) : t.Named others := by
  obtain ⟨hcount, hothers⟩ := hmoved.sole (hwas ▸ h.alone)
  refine ⟨hlocked ▸ hcount, ?_, hrecord, hloops, hlog⟩
  intro d hd
  rcases hothers d hd with rfl | ⟨hold, hfree⟩
  · exact hnext
  · exact (h.sound d hold).of_not_holdsLock hfree

/-- The step of a call that does nothing about the lock. -/
theorem Named.of_other (h : s.Named grips) (hmoved : OneMoved g next grips others)
    (hlock : next.holdsLock = g.holdsLock) (hnext : s.Sound next) : s.Named others := by
  refine ⟨?_, ?_, h.record, h.loops, h.log⟩
  · have hcount := hmoved.countP Grip.holdsLock
    rw [hlock, h.alone] at hcount
    exact Nat.add_right_cancel hcount
  · intro d hd
    rcases hmoved.old d hd with rfl | hold
    · exact hnext
    · exact h.sound d hold

/-! ### The steps of the calls -/

/-- Telling a loop to end, or letting it go, does not move it. -/
theorem exists_of_mem_modify {loops : List ReceiveLoop} {f : ReceiveLoop → ReceiveLoop} {k : Nat}
    (hplace : ∀ loop, (f loop).place = loop.place) {loop : ReceiveLoop}
    (hloop : loop ∈ loops.modify k f) : ∃ old ∈ loops, loop.place = old.place := by
  obtain ⟨j, hj⟩ := List.mem_iff_getElem?.mp hloop
  rw [List.getElem?_modify, Option.map_eq_map, Option.map_eq_some_iff] at hj
  obtain ⟨old, hold, rfl⟩ := hj
  refine ⟨old, List.mem_of_getElem? hold, ?_⟩
  split
  · exact hplace old
  · rfl

theorem Named.modify {f : ReceiveLoop → ReceiveLoop} {k : Nat} (h : s.Named grips)
    (hplace : ∀ loop, (f loop).place = loop.place) :
    ∀ loop ∈ s.loops.modify k f, loop.place ≠ .telling none := by
  intro loop hloop
  obtain ⟨old, hold, hsame⟩ := exists_of_mem_modify hplace hloop
  rw [hsame]
  exact h.loops old hold

theorem Named.note {e : LoopEvent} (h : s.Named grips)
    (he : ∀ farewell, e ≠ .disconnected none farewell) : (s.note e).Named grips := by
  refine h.of_calm rfl id rfl h.loops ?_
  intro farewell hmem
  rcases List.mem_append.mp hmem with hold | hnew
  · exact h.log farewell hold
  · exact he farewell (List.mem_singleton.mp hnew).symm

theorem Named.afterWait {caller : Option Nat} {won waited : Bool} {k : Nat} {place : Leaving}
    (h : s.Named grips) (hmoved : OneMoved .holds place.grip grips others)
    (step : s.afterWait caller won k waited = (place, t)) : t.Named others := by
  have hlocked := h.locked hmoved.was rfl
  cases won with
  | true =>
      obtain ⟨rfl, rfl⟩ := Prod.mk.inj step
      exact h.of_holder hmoved hlocked hlocked (Option.some_ne_none k) nofun h.loops h.log
  | false =>
      obtain ⟨rfl, rfl⟩ := Prod.mk.inj step
      exact h.of_holder hmoved hlocked rfl trivial h.record h.loops h.log

theorem Named.leave? {caller : Option Nat} {call place : Leaving} (h : s.Named grips)
    (hmoved : OneMoved call.grip place.grip grips others)
    (step : s.leave? caller call = some (place, t)) : t.Named others := by
  cases call with
  | called =>
      simp only [ReceiveLoops.leave?] at step
      split at step
      · obtain ⟨rfl, rfl⟩ := Prod.mk.inj (Option.some.inj step)
        split at hmoved <;> exact h.of_other hmoved rfl trivial
      · obtain ⟨hfree, step⟩ := Option.ite_none_left_eq_some.mp step
        obtain ⟨rfl, rfl⟩ := Prod.mk.inj (Option.some.inj step)
        exact h.of_holder hmoved (Bool.eq_false_iff.mpr hfree) rfl trivial h.record h.loops h.log
  | looked =>
      obtain ⟨hfree, step⟩ := Option.ite_none_left_eq_some.mp step
      obtain ⟨rfl, rfl⟩ := Prod.mk.inj (Option.some.inj step)
      exact h.of_holder hmoved (Bool.eq_false_iff.mpr hfree) rfl trivial h.record h.loops h.log
  | locked =>
      have hlocked := h.locked hmoved.was rfl
      by_cases hstate : s.state = .connected
      · simp only [ReceiveLoops.leave?, Phase.exchange, hstate, if_true, Bool.not_true,
          Bool.and_false, Bool.false_eq_true, if_false] at step
        obtain ⟨rfl, rfl⟩ := Prod.mk.inj (Option.some.inj step)
        have hrecord := h.record hstate
        exact h.of_holder hmoved hlocked hlocked ⟨by simp, fun _ => hrecord⟩ (by simp) h.loops h.log
      · simp only [ReceiveLoops.leave?, Phase.exchange, hstate, if_false, Bool.not_false,
          Bool.and_true] at step
        split at step <;> obtain ⟨rfl, rfl⟩ := Prod.mk.inj (Option.some.inj step)
        · exact h.of_holder hmoved hlocked rfl trivial h.record h.loops h.log
        · exact h.of_holder hmoved hlocked hlocked ⟨hstate, by simp⟩ h.record h.loops h.log
  | tried won =>
      have hlocked := h.locked hmoved.was rfl
      obtain ⟨hclosed, hwon⟩ := h.sound _ hmoved.was
      cases hrecord : s.record with
      | some k =>
          simp only [ReceiveLoops.leave?, hrecord] at step
          obtain ⟨rfl, rfl⟩ := Prod.mk.inj (Option.some.inj step)
          exact h.of_holder hmoved hlocked hlocked trivial (absurd · hclosed)
            (h.modify fun _ => rfl) h.log
      | none =>
          simp only [ReceiveLoops.leave?, hrecord] at step
          split at step
          · next hclosing => exact absurd hrecord (hwon hclosing)
          · obtain ⟨rfl, rfl⟩ := Prod.mk.inj (Option.some.inj step)
            exact h.of_holder hmoved hlocked rfl trivial (absurd · hclosed) h.loops h.log
  | waiting won k =>
      obtain ⟨-, step⟩ := Option.ite_none_right_eq_some.mp step
      exact h.afterWait hmoved (Option.some.inj step)
  | cleared connection farewell =>
      obtain ⟨rfl, rfl⟩ := Prod.mk.inj (Option.some.inj step)
      have hlocked := h.locked hmoved.was rfl
      exact h.of_holder hmoved hlocked rfl (h.sound _ hmoved.was) h.record h.loops h.log
  | telling connection farewell =>
      obtain ⟨rfl, rfl⟩ := Prod.mk.inj (Option.some.inj step)
      have hnamed := h.sound _ hmoved.was
      have hnoted : (s.note (.disconnected connection farewell)).Named grips :=
        h.note fun _ he => hnamed (LoopEvent.disconnected.inj he).1
      exact hnoted.of_other hmoved rfl trivial
  | returned => cases step

theorem Named.join? {call place : Joining} (h : s.Named grips)
    (hmoved : OneMoved call.grip place.grip grips others) (step : s.join? call = some (place, t)) :
    t.Named others := by
  cases call with
  | called opened =>
      obtain ⟨hfree, step⟩ := Option.ite_none_left_eq_some.mp step
      by_cases hstate : s.state = .disconnected
      · simp only [Phase.exchange, hstate, if_true] at step
        obtain ⟨rfl, rfl⟩ := Prod.mk.inj (Option.some.inj step)
        exact h.of_holder hmoved (Bool.eq_false_iff.mpr hfree) rfl ⟨by simp, by simp⟩ (by simp)
          h.loops h.log
      · simp only [Phase.exchange, hstate, if_false] at step
        obtain ⟨rfl, rfl⟩ := Prod.mk.inj (Option.some.inj step)
        exact h.of_other hmoved rfl trivial
  | clearing opened =>
      have hlocked := h.locked hmoved.was rfl
      obtain ⟨hclosed, -⟩ := h.sound _ hmoved.was
      simp only [ReceiveLoops.join?] at step
      split at step <;> obtain ⟨rfl, rfl⟩ := Prod.mk.inj (Option.some.inj step)
      · exact h.of_other hmoved rfl trivial
      · exact h.of_holder hmoved hlocked hlocked trivial (absurd · hclosed) (h.modify fun _ => rfl)
          h.log
  | opening opened =>
      have hlocked := h.locked hmoved.was rfl
      cases opened with
      | error e =>
          obtain ⟨rfl, rfl⟩ := Prod.mk.inj (Option.some.inj step)
          exact h.of_holder hmoved hlocked rfl trivial (by simp) h.loops h.log
      | ok opened =>
          obtain ⟨rfl, rfl⟩ := Prod.mk.inj (Option.some.inj step)
          refine h.of_holder hmoved hlocked rfl trivial (fun _ => Option.some_ne_none _) ?_ h.log
          intro loop hloop
          rcases List.mem_append.mp hloop with hold | hnew
          · exact h.loops loop hold
          · rw [List.mem_singleton.mp hnew]
            simp
  | telling k =>
      obtain ⟨rfl, rfl⟩ := Prod.mk.inj (Option.some.inj step)
      have hnoted : (s.note (.connected k)).Named grips := h.note (by simp)
      exact hnoted.of_other hmoved rfl trivial
  | releasing k =>
      obtain ⟨rfl, rfl⟩ := Prod.mk.inj (Option.some.inj step)
      have hreleased : (s.release k).Named grips :=
        h.of_calm rfl id rfl (h.modify fun _ => rfl) h.log
      exact hreleased.of_other hmoved rfl trivial
  | returned result => cases step

theorem Named.giveUp? {caller : Option Nat} {call place : Leaving} (h : s.Named grips)
    (hmoved : OneMoved call.grip place.grip grips others)
    (step : s.giveUp? caller call = some (place, t)) : t.Named others := by
  cases call with
  | waiting won k =>
      obtain ⟨-, step⟩ := Option.ite_none_right_eq_some.mp step
      exact h.afterWait hmoved (Option.some.inj step)
  | called | looked | locked | tried won | cleared connection farewell
  | telling connection farewell | returned => cases step

/-! ### Every move -/

/-- A loop that goes to another place. -/
theorem Named.put {k : Nat} {loop : ReceiveLoop} {place : LoopPlace} (h : s.Named grips)
    (hplace : place ≠ .telling none) : (s.put k loop place).Named grips := by
  refine h.of_calm rfl id rfl ?_ h.log
  intro other hother
  rcases List.mem_or_eq_of_mem_set hother with hold | rfl
  · exact h.loops other hold
  · exact hplace

theorem Named.goOn? {k : Nat} {loop : ReceiveLoop} (h : s.Named grips) (hmem : loop ∈ s.loops)
    (step : s.goOn? k loop = some t) : t.Named grips := by
  cases hplace : loop.place with
  | held | idle | inCallback rest =>
      simp only [ReceiveLoops.goOn?, hplace] at step
      split at step <;> cases step
      exact h.put (by simp)
  | awaiting =>
      simp only [ReceiveLoops.goOn?, hplace] at step
      cases step
      exact h.put (by simp)
  | handing rest =>
      cases rest <;> simp only [ReceiveLoops.goOn?, hplace] at step <;> cases step
      · exact h.put (by simp)
      · next frame rest =>
          have hput : (s.put k loop (.inCallback rest)).Named grips := h.put (by simp)
          exact hput.note (by simp)
  | noticed =>
      simp only [ReceiveLoops.goOn?, hplace] at step
      obtain rfl := Option.some.inj step
      by_cases hstate : s.state = .connected
      · simp only [Phase.exchange, hstate, if_true]
        have hput : (s.put k loop (.telling s.record)).Named grips :=
          h.put fun hnone => h.record hstate (LoopPlace.telling.inj hnone)
        exact hput.of_calm rfl (by simp) rfl hput.loops hput.log
      · simp only [Phase.exchange, hstate, if_false]
        have hput : (s.put k loop .ended).Named grips := h.put (by simp)
        exact hput.of_calm rfl id rfl hput.loops hput.log
  | telling connection =>
      simp only [ReceiveLoops.goOn?, hplace] at step
      obtain rfl := Option.some.inj step
      have hput : (s.put k loop .ended).Named grips := h.put (by simp)
      refine hput.note fun farewell he => h.loops loop hmem ?_
      rw [hplace, (LoopEvent.disconnected.inj he).1]
  | ended => simp [ReceiveLoops.goOn?, hplace] at step

theorem Named.loopMove? {k : Nat} {loop : ReceiveLoop} {m : LoopMove} (h : s.Named grips)
    (hmem : loop ∈ s.loops) (step : s.loopMove? k loop m = some t) : t.Named grips := by
  cases m with
  | goOn j => exact h.goOn? hmem step
  | read j chunk =>
      obtain ⟨-, ht⟩ := Option.ite_none_right_eq_some.mp step
      obtain rfl := Option.some.inj ht
      refine Named.note (h.put ?_) ?_ <;> exact nofun
  | seeCancelled j | notice j =>
      obtain ⟨-, ht⟩ := Option.ite_none_right_eq_some.mp step
      obtain rfl := Option.some.inj ht
      exact h.put nofun
  | callConnect caller opened | connect i | callDisconnect caller | disconnect i | giveUp i =>
      cases step

/-- A new call has nothing in hand. -/
theorem Named.called {first second : List Grip} (h : s.Named (first ++ second)) :
    s.Named (first ++ .free :: second) := by
  refine ⟨?_, ?_, h.record, h.loops, h.log⟩
  · rw [List.countP_append, List.countP_cons_of_neg Bool.false_ne_true, ← List.countP_append]
    exact h.alone
  · intro g hg
    rw [List.mem_append, List.mem_cons] at hg
    rcases hg with hfirst | rfl | hsecond
    · exact h.sound g (List.mem_append_left _ hfirst)
    · exact trivial
    · exact h.sound g (List.mem_append_right _ hsecond)

/-- Where the calls are is of no account but for what they have in hand. -/
theorem Named.withCalls (h : s.Named grips) (joins : List (MadeBy Joining))
    (leaves : List (MadeBy Leaving)) : Named { s with joins, leaves } grips :=
  h.of_calm rfl id rfl h.loops h.log

/-- A step of call `i` to `disconnect`, as far as what the calls have in hand goes. -/
theorem oneMoved_leave {u : ReceiveLoops} {i : Nat} {call : MadeBy Leaving} (place : Leaving)
    (hcall : s.leaves[i]? = some call) (hleaves : u.leaves = s.leaves)
    (hjoins : u.joins = s.joins) :
    OneMoved call.place.grip place.grip s.grips
      ({ u with leaves := u.leaves.set i { call with place } } : ReceiveLoops).grips := by
  have hgrip : (s.leaves.map (·.place.grip))[i]? = some call.place.grip := by simp [hcall]
  have hset : ({ u with leaves := u.leaves.set i { call with place } } : ReceiveLoops).grips =
      s.joins.map (·.place.grip) ++ (s.leaves.map (·.place.grip)).set i place.grip := by
    simp [grips, hleaves, hjoins, List.map_set]
  rw [hset]
  exact .set hgrip

theorem oneMoved_join {u : ReceiveLoops} {i : Nat} {call : MadeBy Joining} (place : Joining)
    (hcall : s.joins[i]? = some call) (hleaves : u.leaves = s.leaves) (hjoins : u.joins = s.joins) :
    OneMoved call.place.grip place.grip s.grips
      ({ u with joins := u.joins.set i { call with place } } : ReceiveLoops).grips := by
  have hgrip : (s.joins.map (·.place.grip))[i]? = some call.place.grip := by simp [hcall]
  have hset : ({ u with joins := u.joins.set i { call with place } } : ReceiveLoops).grips =
      (s.joins.map (·.place.grip)).set i place.grip ++ s.leaves.map (·.place.grip) := by
    simp [grips, hleaves, hjoins, List.map_set]
  have hmoved : OneMoved call.place.grip place.grip ([] ++ s.joins.map (·.place.grip))
      ([] ++ (s.joins.map (·.place.grip)).set i place.grip) := .set hgrip
  rw [hset]
  exact OneMoved.append hmoved _

theorem Named.move {m : LoopMove} (h : s.Named s.grips) (hmove : s.move? m = some t) :
    t.Named t.grips := by
  cases m with
  | callConnect caller opened =>
      obtain ⟨-, ht⟩ := Option.ite_none_right_eq_some.mp hmove
      obtain rfl := Option.some.inj ht
      have hcalled := h.called.withCalls (s.joins ++ [⟨caller, .called opened⟩]) s.leaves
      simpa [grips, Joining.grip] using hcalled
  | callDisconnect caller =>
      obtain ⟨-, ht⟩ := Option.ite_none_right_eq_some.mp hmove
      obtain rfl := Option.some.inj ht
      rw [← List.append_nil s.grips] at h
      have hcalled := h.called.withCalls s.joins (s.leaves ++ [⟨caller, .called⟩])
      simpa [grips, Leaving.grip] using hcalled
  | connect i =>
      obtain ⟨call, place, u, hcall, hstep, rfl⟩ := connect_eq_some hmove
      obtain ⟨hleaves, hjoins⟩ := join?_calls hstep
      exact (h.join? (oneMoved_join place hcall hleaves hjoins) hstep).withCalls _ _
  | disconnect i =>
      obtain ⟨call, place, u, hcall, hstep, rfl⟩ := withLeave_eq_some hmove
      obtain ⟨hleaves, hjoins⟩ := leave?_calls hstep
      exact (h.leave? (oneMoved_leave place hcall hleaves hjoins) hstep).withCalls _ _
  | giveUp i =>
      obtain ⟨call, place, u, hcall, hstep, rfl⟩ := withLeave_eq_some hmove
      obtain ⟨hleaves, hjoins⟩ := giveUp?_calls hstep
      exact (h.giveUp? (oneMoved_leave place hcall hleaves hjoins) hstep).withCalls _ _
  | goOn k | read k chunk | seeCancelled k | notice k =>
      obtain ⟨loop, hloop, hstep⟩ := withLoop_eq_some hmove
      obtain ⟨hleaves, hjoins, -⟩ := loopMove?_calls hstep
      have hnamed := h.loopMove? (List.mem_of_getElem? hloop) hstep
      rwa [grips, hleaves, hjoins]

theorem named_start (kind : EngineKind) (d : UInt8) :
    (start kind d).Named (start kind d).grips :=
  ⟨rfl, nofun, nofun, nofun, nofun⟩

/-- **An end is the end of a connection**, whatever calls are made and however they take
turns. -/
theorem end_is_named (kind : EngineKind) (d : UInt8) {moves : List LoopMove} {s : ReceiveLoops}
    (reached : play move? (start kind d) moves = some s) {connection : Option Nat}
    {farewell : Farewell} (hmem : .disconnected connection farewell ∈ s.log) :
    ∃ k, connection = some k := by
  have hnamed : s.Named s.grips :=
    play_induction (P := fun s => s.Named s.grips) (fun _ _ _ h hmove => h.move hmove) moves
      (named_start kind d) reached
  cases connection with
  | none => exact absurd hmem (hnamed.log farewell)
  | some k => exact ⟨k, rfl⟩

end ReceiveLoops

end Interleaving

end Lifecast
