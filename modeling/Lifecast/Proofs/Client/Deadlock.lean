/-
When ending a pooled connection deadlocks.

A call that ends a pooled connection looks at the phase, takes the lock, moves the phase from
connected to closing, and waits for the reader while it holds the lock.  The look is there so
that a call made by the reader does not wait for the lock of a call that waits for the reader.
It comes before the lock, though, and the phase may change in between: if the reader has seen
the client connected and another call then moves the phase, the two wait for each other for
ever (`Entangled`).

That is the only way for it to happen, and the only way for calls to get stuck
(`entangled_iff_overtaken`).  `Guarded` is what every step keeps: one call at most has the
lock, and a call that waits for the reader holds it, has moved the phase and has told the
reader to end.  So a reader that looks while such a call waits finds the client closing.
-/
import Mathlib
import Lifecast.Interleaving.ClientCalls

namespace Lifecast

namespace Interleaving

/-- Does the call hold the lock? -/
def Ending.holds : Ending → Bool
  | locked | tried _ | waiting _ | cleared => true
  | called | looked | telling | returned => false

/-- Has the call moved the phase, and does it wait for the reader or is about to? -/
def Ending.awaits : Ending → Bool
  | tried won | waiting won => won
  | called | looked | locked | cleared | telling | returned => false

/-- The disconnecting call that the reader makes. -/
def Reader.calls : Reader → List Ending
  | calling call _ => [call]
  | _ => []

/-- Is it a step of a thread that has begun, and not something that comes from outside: a new
call, or something to read? -/
def ClientMove.isStep : ClientMove → Bool
  | connect _ | disconnect _ | goOn | seeCancelled => true
  | callConnect _ | callDisconnect | read _ | notice => false

namespace ClientCalls

/-- All calls that end the connection, the reader's own among them. -/
def calls (s : ClientCalls) : List Ending :=
  s.reader.calls ++ s.endings

/-- Is the reader in a callback whose call has seen the client connected and waits for the
lock? -/
def ReaderLooked (s : ClientCalls) : Prop :=
  ∃ rest, s.reader = .calling .looked rest

/-- The reader waits for the lock, and call `i`, which holds it, waits for the reader or is about
to. -/
def Entangled (s : ClientCalls) (i : Nat) : Prop :=
  s.ReaderLooked ∧ ∃ c, s.endings[i]? = some c ∧ c.awaits = true

/-- Call `i` is to move the phase of a client that the reader has just seen connected. -/
def Overtaken (s : ClientCalls) (i : Nat) : Prop :=
  s.ReaderLooked ∧ s.endings[i]? = some .locked ∧ s.client.state = .connected

/-! ### What the lock guards -/

/-- What a call relies on at the place it has got to. -/
def Sound (s : ClientCalls) : Ending → Prop
  | .tried won => won = true ∧ s.client.state = .closing ∧ s.client.connection.isSome = true
  | .waiting won => won = true ∧ s.client.state = .closing ∧ s.cancelled = true
  | _ => True

/-- A pooled client whose connection is ended by some calls. -/
structure Guarded (s : ClientCalls) (calls : List Ending) : Prop where
  kind : s.kind = .pooledMulticast
  settled : ∀ call ∈ s.beginnings, ∃ result, call = .returned result
  released : s.released = true
  reader : s.reader ≠ .noticed ∧ s.reader ≠ .telling
  holders : calls.countP Ending.holds = s.locked.toNat
  sound : ∀ call ∈ calls, s.Sound call
  record : s.client.state = .connected → s.client.connection.isSome = true

variable {s t : ClientCalls} {c next : Ending} {calls others : List Ending}

/-- A call without the lock relies on nothing. -/
theorem sound_of_not_holds (s : ClientCalls) (hc : c.holds = false) : s.Sound c := by
  cases c with
  | called | looked | telling | returned => exact trivial
  | locked | tried won | waiting won | cleared => cases hc

/-- The client is closing while a call waits for the reader. -/
theorem Sound.closing (hsound : s.Sound c) (hc : c.awaits = true) :
    c.holds = true ∧ s.client.state = .closing := by
  cases c with
  | tried won | waiting won => exact ⟨rfl, hsound.2.1⟩
  | called | looked | locked | cleared | telling | returned => cases hc

theorem Guarded.locked (hg : s.Guarded calls) (hmem : c ∈ calls) (hc : c.holds = true) :
    s.locked = true :=
  locked_of_holder hg.holders hmem hc

/-- The lock is held by somebody. -/
theorem Guarded.exists_holder (hg : s.Guarded calls) (hlocked : s.locked = true) :
    ∃ c ∈ calls, c.holds = true := by
  apply List.countP_pos_iff.mp
  rw [hg.holders, hlocked]
  exact Nat.one_pos

/-- Nothing that calls rely on differs. -/
structure Alike (s t : ClientCalls) : Prop where
  kind : t.kind = s.kind
  beginnings : t.beginnings = s.beginnings
  released : t.released = s.released
  locked : t.locked = s.locked
  cancelled : t.cancelled = s.cancelled
  state : t.client.state = s.client.state
  record : t.client.connection = s.client.connection

theorem Alike.refl (s : ClientCalls) : Alike s s :=
  ⟨rfl, rfl, rfl, rfl, rfl, rfl, rfl⟩

theorem Alike.sound (halike : Alike s t) (hc : s.Sound c) : t.Sound c := by
  cases c with
  | called | looked | telling | returned | locked | cleared => exact trivial
  | tried won =>
      obtain ⟨hwon, hstate, hrecord⟩ := hc
      exact ⟨hwon, halike.state.trans hstate, halike.record ▸ hrecord⟩
  | waiting won =>
      obtain ⟨hwon, hstate, hcancelled⟩ := hc
      exact ⟨hwon, halike.state.trans hstate, halike.cancelled.trans hcancelled⟩

/-- Calls without the lock may come and go. -/
theorem Guarded.of_alike (hg : s.Guarded calls) (halike : Alike s t)
    (hreader : t.reader ≠ .noticed ∧ t.reader ≠ .telling)
    (hcount : others.countP Ending.holds = calls.countP Ending.holds)
    (hold : ∀ d ∈ others, t.Sound d ∨ d ∈ calls) : t.Guarded others := by
  refine ⟨halike.kind.trans hg.kind, halike.beginnings ▸ hg.settled,
    halike.released.trans hg.released, hreader, ?_, ?_, ?_⟩
  · rw [hcount, hg.holders, halike.locked]
  · exact fun d hd => (hold d hd).elim id fun hmem => halike.sound (hg.sound d hmem)
  · rw [halike.state, halike.record]
    exact hg.record

/-- The step of a call that does not touch what others rely on. -/
theorem Guarded.of_calm (hg : s.Guarded calls) (hmoved : OneMoved c next calls others)
    (halike : Alike s t) (hreader : t.reader = s.reader) (hholds : next.holds = c.holds)
    (hnext : t.Sound next) : t.Guarded others := by
  refine hg.of_alike halike (hreader ▸ hg.reader) ?_ ?_
  · have hcount := hmoved.countP Ending.holds
    rw [hholds] at hcount
    exact Nat.add_right_cancel hcount
  · intro d hd
    refine (hmoved.old d hd).imp ?_ id
    rintro rfl
    exact hnext

/-- A disconnecting call changes the client, the lock and the mark that tells the reader to
end. -/
theorem frame_ending {fromReader : Bool} (step : s.ending? fromReader c = some (next, t)) :
    t.kind = s.kind ∧ t.beginnings = s.beginnings ∧ t.endings = s.endings ∧
      t.released = s.released ∧ t.reader = s.reader := by
  cases c with
  | called | looked | locked | tried won | waiting won =>
      simp only [ending?] at step
      grind [update]
  | cleared | telling =>
      cases step
      exact ⟨rfl, rfl, rfl, rfl, rfl⟩
  | returned => cases step

/-- The step of the call that holds the lock.  What it changes nobody else relies on. -/
theorem Guarded.of_holder {fromReader : Bool} (hg : s.Guarded calls)
    (hmoved : OneMoved c next calls others) (step : s.ending? fromReader c = some (next, t))
    (hc : c.holds = true) (hlocked : t.locked = next.holds) (hnext : t.Sound next)
    (hrecord : t.client.state = .connected → t.client.connection.isSome = true) :
    t.Guarded others := by
  obtain ⟨hkind, hbeginnings, -, hreleased, hreader⟩ := frame_ending step
  have halone : calls.countP Ending.holds = c.holds.toNat := by
    rw [hg.holders, hg.locked hmoved.was hc, hc]
  obtain ⟨hcount, hothers⟩ := hmoved.sole halone
  refine ⟨hkind.trans hg.kind, hbeginnings ▸ hg.settled, hreleased.trans hg.released,
    hreader ▸ hg.reader, ?_, ?_, hrecord⟩
  · rw [hlocked, hcount]
  · intro d hd
    rcases hothers d hd with rfl | ⟨-, hfree⟩
    · exact hnext
    · exact t.sound_of_not_holds hfree

/-- Whichever step a disconnecting call makes, the lock keeps what it guards. -/
theorem Guarded.step {fromReader : Bool} (hg : s.Guarded calls)
    (hmoved : OneMoved c next calls others) (step : s.ending? fromReader c = some (next, t)) :
    t.Guarded others := by
  have hlooks : s.kind.looksFirst = true := by
    rw [hg.kind]
    rfl
  cases c with
  | called =>
      simp only [ending?, hlooks, if_true, Option.some.injEq, Prod.mk.injEq] at step
      obtain ⟨rfl, rfl⟩ := step
      refine hg.of_calm hmoved (.refl s) rfl ?_ ?_
      · split <;> rfl
      · split <;> exact trivial
  | looked =>
      simp only [ending?] at step
      split at step
      · cases step
      · next hfree =>
          cases step
          have hcount := hmoved.countP Ending.holds
          rw [hg.holders, Bool.eq_false_iff.mpr hfree] at hcount
          refine ⟨hg.kind, hg.settled, hg.released, hg.reader, hcount, ?_, hg.record⟩
          intro d hd
          rcases hmoved.old d hd with rfl | hold
          · exact trivial
          · exact hg.sound d hold
  | locked =>
      by_cases hstate : s.client.state = .connected
      · have hnext := step
        simp only [ending?, Phase.exchange, hstate, if_true, Bool.not_true, Bool.and_false,
          Bool.false_eq_true, if_false] at hnext
        cases hnext
        exact hg.of_holder hmoved step rfl (hg.locked hmoved.was rfl)
          ⟨rfl, rfl, hg.record hstate⟩ (by simp [update])
      · have hnext := step
        simp only [ending?, update, hlooks, Phase.exchange, hstate, if_false, Bool.not_false,
          Bool.and_true, if_true] at hnext
        cases hnext
        exact hg.of_holder hmoved step rfl rfl trivial hg.record
  | tried won =>
      obtain ⟨rfl, hstate, hrecord⟩ := hg.sound _ hmoved.was
      obtain ⟨connection, hconnection⟩ := Option.isSome_iff_exists.mp hrecord
      have hnext := step
      simp only [ending?, hconnection] at hnext
      cases hnext
      refine hg.of_holder hmoved step rfl (hg.locked hmoved.was rfl) ⟨rfl, hstate, rfl⟩ ?_
      intro hconnected
      cases hstate.symm.trans hconnected
  | waiting won =>
      obtain ⟨rfl, -, -⟩ := hg.sound _ hmoved.was
      have hnext := step
      simp only [ending?, if_true] at hnext
      split at hnext
      · cases hnext
        exact hg.of_holder hmoved step rfl (hg.locked hmoved.was rfl) trivial (by simp [update])
      · cases hnext
  | cleared =>
      have hnext := step
      cases hnext
      exact hg.of_holder hmoved step rfl rfl trivial hg.record
  | telling =>
      cases step
      exact hg.of_calm hmoved ⟨rfl, rfl, rfl, rfl, rfl, rfl, rfl⟩ rfl rfl trivial
  | returned => cases step

/-! ### Every move -/

/-- The reader goes on, making no call. -/
theorem Guarded.set_reader (hg : s.Guarded s.calls) (halike : Alike s t)
    (hreader : t.reader ≠ .noticed ∧ t.reader ≠ .telling) (hendings : t.endings = s.endings)
    (hnone : s.reader.calls.countP Ending.holds = 0)
    (hcalls : t.reader.calls.countP Ending.holds = 0)
    (hsound : ∀ d ∈ t.reader.calls, t.Sound d) : t.Guarded t.calls := by
  refine hg.of_alike halike hreader ?_ ?_
  · rw [calls, calls, hendings, List.countP_append, List.countP_append, hnone, hcalls]
  · intro d hd
    rw [calls, hendings] at hd
    exact (List.mem_append.mp hd).imp (hsound d) (List.mem_append_right _)

theorem guarded_goOn (hg : s.Guarded s.calls) (moved : s.goOn? = some t) :
    t.Guarded t.calls := by
  unfold goOn? at moved
  split at moved
  · next hheld =>
      split at moved
      · obtain rfl := Option.some.inj moved
        exact hg.set_reader ⟨rfl, rfl, rfl, rfl, rfl, rfl, rfl⟩ ⟨by simp, by simp⟩ rfl
          (by rw [hheld]; rfl) rfl (by simp [Reader.calls])
      · cases moved
  · cases moved
  · next hdelivering =>
      obtain rfl := Option.some.inj moved
      exact hg.set_reader ⟨rfl, rfl, rfl, rfl, rfl, rfl, rfl⟩ ⟨by simp, by simp⟩ rfl
        (by rw [hdelivering]; rfl) rfl (by simp [Reader.calls])
  · next frame rest hdelivering =>
      obtain rfl := Option.some.inj moved
      cases hangs : s.hangsUp frame with
      | true =>
          refine hg.set_reader ⟨rfl, rfl, rfl, rfl, rfl, rfl, rfl⟩ ?_ rfl
            (by rw [hdelivering]; rfl) ?_ ?_
          all_goals simp [update, hangs, Reader.calls, Ending.holds, Sound]
      | false =>
          refine hg.set_reader ⟨rfl, rfl, rfl, rfl, rfl, rfl, rfl⟩ ?_ rfl
            (by rw [hdelivering]; rfl) ?_ ?_
          all_goals simp [update, hangs, Reader.calls]
  · next rest hreturned =>
      obtain rfl := Option.some.inj moved
      exact hg.set_reader ⟨rfl, rfl, rfl, rfl, rfl, rfl, rfl⟩ ⟨by simp, by simp⟩ rfl
        (by rw [hreturned]; rfl) rfl (by simp [Reader.calls])
  · next call rest _ hcalling =>
      split at moved
      · cases moved
      · next next u step =>
          obtain rfl := Option.some.inj moved
          have hmoved : OneMoved call next s.calls (next :: s.endings) := by
            rw [calls, hcalling]
            exact OneMoved.head s.endings
          have hu := hg.step hmoved step
          obtain ⟨-, -, hendings, -, -⟩ := frame_ending step
          refine hu.of_alike ⟨rfl, rfl, rfl, rfl, rfl, rfl, rfl⟩ ⟨by simp, by simp⟩ ?_ ?_
          · rw [calls, hendings]
            rfl
          · intro d hd
            rw [calls, hendings] at hd
            exact Or.inr hd
  · next hnoticed => exact absurd hnoticed hg.reader.1
  · next htelling => exact absurd htelling hg.reader.2
  · cases moved

/-- Calls to connect have returned. -/
theorem Guarded.connect_eq_none (hg : s.Guarded calls) (i : Nat) : s.move? (.connect i) = none := by
  simp only [move?]
  split
  · rfl
  · next call hcall =>
      obtain ⟨result, rfl⟩ := hg.settled call (List.mem_of_getElem? hcall)
      rfl

/-- A group has no other side that could close. -/
theorem Guarded.notice_eq_none (hg : s.Guarded calls) : s.move? .notice = none := by
  simp [move?, hg.kind, EngineKind.noticesClose]

/-- Whatever move is made, but a call to connect. -/
theorem guarded_move {m : ClientMove} (hnone : ∀ opened, m ≠ .callConnect opened)
    (hg : s.Guarded s.calls) (moved : s.move? m = some t) : t.Guarded t.calls := by
  cases m with
  | callConnect opened => exact absurd rfl (hnone opened)
  | connect i => cases (hg.connect_eq_none i).symm.trans moved
  | callDisconnect =>
      obtain rfl := Option.some.inj moved
      refine hg.of_alike ⟨rfl, rfl, rfl, rfl, rfl, rfl, rfl⟩ hg.reader ?_ ?_
      · rw [calls, ← List.append_assoc, List.countP_append]
        exact Nat.add_zero _
      · intro d hd
        rw [calls, ← List.append_assoc] at hd
        refine (List.mem_append.mp hd).symm.imp ?_ id
        intro hcalled
        rw [List.mem_singleton.mp hcalled]
        exact trivial
  | disconnect i =>
      simp only [move?] at moved
      split at moved
      · cases moved
      · next call hcall =>
          split at moved
          · cases moved
          · next next u step =>
              obtain rfl := Option.some.inj moved
              have hu := hg.step (OneMoved.set hcall) step
              obtain ⟨-, -, hendings, -, hreader⟩ := frame_ending step
              refine hu.of_alike ⟨rfl, rfl, rfl, rfl, rfl, rfl, rfl⟩ hu.reader ?_ ?_
              · rw [calls, hendings, hreader]
              · intro d hd
                rw [calls, hendings, hreader] at hd
                exact Or.inr hd
  | goOn => exact guarded_goOn hg moved
  | read chunk =>
      simp only [move?] at moved
      split at moved
      · next hreading =>
          obtain rfl := Option.some.inj moved
          exact hg.set_reader ⟨rfl, rfl, rfl, rfl, rfl, rfl, rfl⟩ ⟨by simp, by simp⟩ rfl
            (by rw [hreading]; rfl) rfl (by simp [Reader.calls])
      · cases moved
  | seeCancelled =>
      simp only [move?, Bool.and_eq_true, Bool.or_eq_true, decide_eq_true_eq] at moved
      split at moved
      · next hends =>
          obtain rfl := Option.some.inj moved
          have hcalls : s.reader.calls = [] := by
            rcases hends.2 with hr | hr <;> rw [hr] <;> rfl
          exact hg.set_reader ⟨rfl, rfl, rfl, rfl, rfl, rfl, rfl⟩ ⟨by simp, by simp⟩ rfl
            (by rw [hcalls]; rfl) rfl (by simp [Reader.calls])
      · cases moved
  | notice => cases hg.notice_eq_none.symm.trans moved

/-! ### Who waits for whom -/

/-- The reader having looked, a call comes to wait for it by moving the phase, and then waits for
good. -/
theorem awaits_ending (hg : s.Guarded calls) (hmem : c ∈ calls) (hlooked : s.ReaderLooked)
    (step : s.ending? false c = some (next, t)) :
    next.awaits = true ↔ c.awaits = true ∨ c = .locked ∧ s.client.state = .connected := by
  obtain ⟨rest, hreader⟩ := hlooked
  have hlooks : s.kind.looksFirst = true := by
    rw [hg.kind]
    rfl
  have hsound := hg.sound c hmem
  cases c with
  | called | looked =>
      simp only [ending?] at step
      grind [Ending.awaits]
  | locked =>
      by_cases hstate : s.client.state = .connected
      · simp only [ending?, Phase.exchange, hstate, if_true, Bool.not_true, Bool.and_false,
          Bool.false_eq_true, if_false] at step
        cases step
        simp [Ending.awaits, hstate]
      · simp only [ending?, update, hlooks, Phase.exchange, hstate, if_false, Bool.not_false,
          Bool.and_true, if_true] at step
        cases step
        simp [Ending.awaits, hstate]
  | tried won =>
      obtain ⟨rfl, -, hrecord⟩ := hsound
      obtain ⟨connection, hconnection⟩ := Option.isSome_iff_exists.mp hrecord
      simp only [ending?, hconnection] at step
      cases step
      simp [Ending.awaits]
  | waiting won => simp [ending?, hreader] at step
  | cleared | telling =>
      cases step
      simp [Ending.awaits]
  | returned => cases step

/-- The reader goes on to where it has looked only if it sees the client connected. -/
theorem looked_of_goOn (moved : s.goOn? = some t) :
    t.endings = s.endings ∧ (t.ReaderLooked → s.client.state = .connected) := by
  unfold goOn? at moved
  split at moved
  · split at moved
    · cases moved
      exact ⟨rfl, by simp [ReaderLooked]⟩
    · cases moved
  · cases moved
  · cases moved
    exact ⟨rfl, by simp [ReaderLooked]⟩
  · next frame rest _ =>
      cases moved
      refine ⟨rfl, ?_⟩
      rintro ⟨left, hreader⟩
      revert hreader
      dsimp only
      split <;> simp
  · cases moved
    exact ⟨rfl, by simp [ReaderLooked]⟩
  · next call rest _ hcalling =>
      split at moved
      · cases moved
      · next next u step =>
          cases moved
          refine ⟨(frame_ending step).2.2.1, ?_⟩
          rintro ⟨left, hreader⟩
          cases hreader
          cases call with
          | called =>
              simp only [ending?] at step
              grind [Client.isConnected]
          | looked | locked | tried won | waiting won =>
              simp only [ending?] at step
              grind
          | cleared | telling | returned => cases step
  · cases moved
    refine ⟨rfl, ?_⟩
    rintro ⟨left, hreader⟩
    revert hreader
    dsimp only
    split <;> simp
  · cases moved
    exact ⟨rfl, by simp [ReaderLooked]⟩
  · cases moved

/-- The reader does not get to see the client connected while a call waits for it, nor does it
get any further if it has. -/
theorem entangled_goOn {i : Nat} (hg : s.Guarded s.calls) (moved : s.goOn? = some t) :
    ¬ s.Entangled i ∧ ¬ t.Entangled i := by
  have hclosing : ∀ c, s.endings[i]? = some c → c.awaits = true →
      s.locked = true ∧ s.client.state = .closing := by
    intro c hc hawaits
    have hmem : c ∈ s.calls := List.mem_append_right _ (List.mem_of_getElem? hc)
    obtain ⟨hholds, hstate⟩ := (hg.sound c hmem).closing hawaits
    exact ⟨hg.locked hmem hholds, hstate⟩
  obtain ⟨hendings, hconnected⟩ := looked_of_goOn moved
  constructor
  · rintro ⟨⟨rest, hreader⟩, c, hc, hawaits⟩
    simp [goOn?, hreader, ending?, (hclosing c hc hawaits).1] at moved
  · rintro ⟨hlooked, c, hc, hawaits⟩
    cases (hconnected hlooked).symm.trans (hclosing c (hendings ▸ hc) hawaits).2

theorem not_readerLooked (hreader : s.reader.calls = []) : ¬ s.ReaderLooked := by
  rintro ⟨rest, hlooked⟩
  rw [hlooked] at hreader
  cases hreader

/-- Call `i` and the reader come to wait for each other when that call overtakes the reader's,
and then do so for good. -/
theorem entangled_move {m : ClientMove} {i : Nat} (hg : s.Guarded s.calls)
    (hnone : ∀ opened, m ≠ .callConnect opened) (moved : s.move? m = some t) :
    t.Entangled i ↔ s.Entangled i ∨ m = .disconnect i ∧ s.Overtaken i := by
  have hidle : s.reader.calls = [] → t.reader.calls = [] →
      (t.Entangled i ↔ s.Entangled i ∨ m = .disconnect i ∧ s.Overtaken i) := by
    intro hs ht
    simp [Entangled, Overtaken, not_readerLooked hs, not_readerLooked ht]
  cases m with
  | callConnect opened => exact absurd rfl (hnone opened)
  | connect j => cases (hg.connect_eq_none j).symm.trans moved
  | callDisconnect =>
      obtain rfl := Option.some.inj moved
      have hsame : (∃ c, (s.endings ++ [.called])[i]? = some c ∧ c.awaits = true) ↔
          ∃ c, s.endings[i]? = some c ∧ c.awaits = true := by
        grind [Ending.awaits]
      simp [Entangled, ReaderLooked, hsame]
  | disconnect j =>
      simp only [move?] at moved
      split at moved
      · cases moved
      · next call hcall =>
          split at moved
          · cases moved
          · next next u step =>
              obtain rfl := Option.some.inj moved
              obtain ⟨-, -, hendings, -, hreader⟩ := frame_ending step
              have hsame : ({ u with endings := u.endings.set j next } : ClientCalls).ReaderLooked
                  ↔ s.ReaderLooked := by
                simp [ReaderLooked, hreader]
              rw [Entangled, Entangled, Overtaken, hsame]
              by_cases hlooked : s.ReaderLooked
              · by_cases hij : j = i
                · subst hij
                  obtain ⟨hj, rfl⟩ := List.getElem?_eq_some_iff.mp hcall
                  have hmem : s.endings[j] ∈ s.calls :=
                    List.mem_append_right _ (List.getElem_mem hj)
                  simp [hlooked, hendings, hj, awaits_ending hg hmem hlooked step]
                · have hmove : ClientMove.disconnect j ≠ .disconnect i := by
                    simpa using hij
                  simp [hendings, List.getElem?_set_ne hij, hmove]
              · simp [hlooked]
  | goOn =>
      obtain ⟨hs, ht⟩ := entangled_goOn (i := i) hg moved
      simp [hs, ht]
  | read chunk =>
      simp only [move?] at moved
      split at moved
      · next hreading =>
          obtain rfl := Option.some.inj moved
          exact hidle (by rw [hreading]; rfl) rfl
      · cases moved
  | seeCancelled =>
      simp only [move?, Bool.and_eq_true, Bool.or_eq_true, decide_eq_true_eq] at moved
      split at moved
      · next hends =>
          obtain rfl := Option.some.inj moved
          refine hidle ?_ rfl
          rcases hends.2 with hr | hr <;> rw [hr] <;> rfl
      · cases moved
  | notice => cases hg.notice_eq_none.symm.trans moved

/-- So it is for whole plays: the two wait for each other if at some time of the play that call
overtook the reader's. -/
theorem entangled_play {moves : List ClientMove} {i : Nat} (hg : s.Guarded s.calls)
    (hnone : ∀ opened, .callConnect opened ∉ moves) (played : play move? s moves = some t) :
    t.Guarded t.calls ∧
      (t.Entangled i ↔ s.Entangled i ∨ ∃ before after u, moves = before ++ .disconnect i :: after ∧
        play move? s before = some u ∧ u.Overtaken i) := by
  induction moves generalizing s with
  | nil =>
      obtain rfl := Option.some.inj played
      refine ⟨hg, ?_⟩
      simp
  | cons m rest ih =>
      unfold play at played
      split at played
      · cases played
      · next v moved =>
          have hfirst : ∀ opened, m ≠ .callConnect opened :=
            fun opened heq => hnone opened (heq ▸ List.mem_cons_self)
          have hrest : ∀ opened, .callConnect opened ∉ rest :=
            fun opened hmem => hnone opened (List.mem_cons_of_mem _ hmem)
          obtain ⟨ht, hlater⟩ := ih (guarded_move hfirst hg moved) hrest played
          refine ⟨ht, ?_⟩
          rw [hlater, entangled_move hg hfirst moved, or_assoc]
          refine or_congr Iff.rfl ⟨?_, ?_⟩
          · rintro (⟨rfl, hovertaken⟩ | ⟨before, after, u, rfl, hu, hovertaken⟩)
            · exact ⟨[], rest, s, rfl, rfl, hovertaken⟩
            · refine ⟨m :: before, after, u, rfl, ?_, hovertaken⟩
              rw [play, moved]
              exact hu
          · rintro ⟨before, after, u, heq, hu, hovertaken⟩
            rcases List.cons_eq_append_iff.mp heq with ⟨rfl, hcons⟩ | ⟨tail, rfl, rfl⟩
            · obtain ⟨rfl, rfl⟩ := List.cons.inj hcons
              obtain rfl := Option.some.inj hu
              exact Or.inl ⟨rfl, hovertaken⟩
            · rw [play, moved] at hu
              exact Or.inr ⟨tail, after, u, rfl, hu, hovertaken⟩

/-! ### Nobody else gets stuck -/

/-- A call waits for the lock, or for the reader, or for nobody. -/
theorem isSome_ending {fromReader : Bool} (hg : s.Guarded calls) (hunder : c ≠ .returned)
    (hlock : c = .looked → s.locked = false)
    (hwait : ∀ won, c = .waiting won → s.reader = .ended ∨ fromReader = true) :
    (s.ending? fromReader c).isSome = true := by
  have hlooks : s.kind.looksFirst = true := by
    rw [hg.kind]
    rfl
  cases c with
  | called => simp [ending?, hlooks]
  | looked => simp [ending?, hlock rfl]
  | locked =>
      simp only [ending?]
      split <;> rfl
  | tried won =>
      simp only [ending?]
      split
      · rfl
      · split <;> rfl
  | waiting won =>
      have hends : (s.reader = .ended || fromReader) = true := by
        simpa using hwait won rfl
      simp only [ending?, hends, if_true]
      split <;> rfl
  | cleared | telling => rfl
  | returned => exact absurd rfl hunder

/-- A call of another thread that may go on does so. -/
theorem isSome_disconnect {i : Nat} (hc : s.endings[i]? = some c)
    (hsome : (s.ending? false c).isSome = true) : (s.move? (.disconnect i)).isSome = true := by
  obtain ⟨⟨next, t⟩, step⟩ := Option.isSome_iff_exists.mp hsome
  simp [move?, hc, step]

/-- The reader goes on while it makes a call, unless that call waits for the lock. -/
theorem isSome_goOn_calling (hg : s.Guarded calls) {rest : List Bytes}
    (hreader : s.reader = .calling c rest) (hlock : c = .looked → s.locked = false) :
    s.goOn?.isSome = true := by
  by_cases hreturned : c = .returned
  · simp [goOn?, hreader, hreturned]
  · have hsome : (s.ending? true c).isSome = true :=
      isSome_ending hg hreturned hlock fun _ _ => Or.inr rfl
    obtain ⟨⟨next, t⟩, step⟩ := Option.isSome_iff_exists.mp hsome
    unfold goOn?
    rw [hreader]
    cases c with
    | returned => exact absurd rfl hreturned
    | called | looked | locked | tried won | waiting won | cleared | telling => simp [step]

/-- A reader that is told to end goes on, unless it waits for the lock. -/
theorem exists_step_reader (hg : s.Guarded calls) (hunder : s.reader ≠ .ended)
    (hlock : s.ReaderLooked → s.locked = false) (hcancelled : s.cancelled = true) :
    ∃ m : ClientMove, m.isStep = true ∧ (s.move? m).isSome = true := by
  cases hreader : s.reader with
  | held => exact ⟨.goOn, rfl, by simp [move?, goOn?, hreader, hg.released]⟩
  | reading => exact ⟨.seeCancelled, rfl, by simp [move?, hreader, hcancelled]⟩
  | delivering rest =>
      refine ⟨.goOn, rfl, ?_⟩
      cases rest with
      | nil => simp [move?, goOn?, hreader]
      | cons frame rest => simp [move?, goOn?, hreader]
  | calling call rest =>
      refine ⟨.goOn, rfl, isSome_goOn_calling hg hreader ?_⟩
      rintro rfl
      exact hlock ⟨rest, hreader⟩
  | noticed => exact absurd hreader hg.reader.1
  | telling => exact absurd hreader hg.reader.2
  | ended => exact absurd hreader hunder

/-- As long as some call has not returned, somebody can go on, unless the reader and another call
wait for each other. -/
theorem exists_step (hg : s.Guarded s.calls) (hfree : ∀ i, ¬ s.Entangled i)
    (hopen : ∃ call ∈ s.calls, call ≠ .returned) :
    ∃ m : ClientMove, m.isStep = true ∧ (s.move? m).isSome = true := by
  -- The call to look at is the one that has the lock or, the lock being free, any.
  obtain ⟨call, hcall, hunder, hlock⟩ :
      ∃ call ∈ s.calls, call ≠ .returned ∧ (call = .looked → s.locked = false) := by
    cases hlocked : s.locked with
    | false =>
        obtain ⟨call, hcall, hunder⟩ := hopen
        exact ⟨call, hcall, hunder, fun _ => rfl⟩
    | true =>
        obtain ⟨call, hcall, hholds⟩ := hg.exists_holder hlocked
        refine ⟨call, hcall, ?_, ?_⟩ <;> rintro rfl <;> cases hholds
  rcases List.mem_append.mp hcall with hown | hother
  · -- It is the reader's.
    cases hreader : s.reader with
    | calling c rest =>
        rw [hreader, Reader.calls, List.mem_singleton] at hown
        exact ⟨.goOn, rfl, isSome_goOn_calling hg hreader fun heq => hlock (hown.trans heq)⟩
    | held | reading | delivering | noticed | telling | ended =>
        rw [hreader] at hown
        cases hown
  · obtain ⟨i, hi⟩ := List.mem_iff_getElem?.mp hother
    by_cases hwaits : s.reader ≠ .ended ∧ ∃ won, call = .waiting won
    · -- It waits for the reader, which then does not wait for it.
      obtain ⟨hgoes, won, rfl⟩ := hwaits
      obtain ⟨rfl, -, hcancelled⟩ := hg.sound _ hcall
      refine exists_step_reader hg hgoes ?_ hcancelled
      intro hlooked
      exact absurd ⟨hlooked, _, hi, rfl⟩ (hfree i)
    · refine ⟨.disconnect i, rfl, isSome_disconnect hi (isSome_ending hg hunder hlock ?_)⟩
      intro won heq
      exact Or.inl (Decidable.byContradiction fun hgoes => hwaits ⟨hgoes, won, heq⟩)

/-! ### From the first connection on -/

/-- A pooled client whose callback ends the connection on certain frames, after it has been
connected to a group and some moves have been made. -/
def afterConnect? (config : EngineConfig) (group : Group) (hangsUp : Bytes → Bool)
    (moves : List ClientMove) : Option ClientCalls :=
  play move? { start .pooledMulticast config with hangsUp }
    (connectMoves (.ok (.group group)) ++ moves)

/-- A client that has just been connected is guarded, and nobody ends the connection. -/
theorem guarded_afterConnect (config : EngineConfig) (group : Group) (hangsUp : Bytes → Bool) :
    ∃ c, afterConnect? config group hangsUp [] = some c ∧ c.Guarded c.calls ∧ c.endings = [] ∧
      ∀ moves, afterConnect? config group hangsUp moves = play move? c moves := by
  obtain ⟨c, hc⟩ : ∃ c, play move? { start .pooledMulticast config with hangsUp }
      (connectMoves (.ok (.group group))) = some c := ⟨_, rfl⟩
  refine ⟨c, ?_, ?_, ?_, ?_⟩
  · rw [afterConnect?, List.append_nil, hc]
  · obtain rfl := Option.some.inj hc
    refine ⟨rfl, ?_, rfl, ⟨nofun, nofun⟩, rfl, nofun, fun _ => rfl⟩
    intro call hcall
    exact ⟨.ok (), List.mem_singleton.mp hcall⟩
  · obtain rfl := Option.some.inj hc
    rfl
  · intro moves
    rw [afterConnect?, play_append, hc]
    rfl

/-- **Ending a pooled connection deadlocks when a call overtakes the reader's, and only then.**
The reader waits for the lock while call `i`, which holds it, waits for the reader or is about
to, if and only if at some time call `i` moved the phase of a client that the reader's call had
seen connected and had not locked yet.  Then the reader is stuck for good.  Unless that happens,
as long as some call has not returned somebody can go on. -/
theorem entangled_iff_overtaken (config : EngineConfig) (group : Group) (hangsUp : Bytes → Bool)
    {moves : List ClientMove} {s : ClientCalls}
    (hnone : ∀ opened, .callConnect opened ∉ moves)
    (reached : afterConnect? config group hangsUp moves = some s) :
    (∀ i, s.Entangled i ↔ ∃ before after u, moves = before ++ .disconnect i :: after ∧
      afterConnect? config group hangsUp before = some u ∧ u.Overtaken i) ∧
    (∀ i, s.Entangled i → s.goOn? = none ∧ ∀ later t, (∀ opened, .callConnect opened ∉ later) →
      play move? s later = some t → t.Entangled i) ∧
    ((∀ i, ¬ s.Entangled i) → (∃ call ∈ s.calls, call ≠ .returned) →
      ∃ m : ClientMove, m.isStep = true ∧ (s.move? m).isSome = true) := by
  obtain ⟨c, -, hc, hendings, hplay⟩ := guarded_afterConnect config group hangsUp
  rw [hplay] at reached
  have hs : s.Guarded s.calls := (entangled_play (i := 0) hc hnone reached).1
  refine ⟨?_, ?_, exists_step hs⟩
  · intro i
    have hfirst : ¬ c.Entangled i := by
      rintro ⟨-, call, hcall, -⟩
      simp [hendings] at hcall
    simp only [hplay, (entangled_play hc hnone reached).2, hfirst, false_or]
  · intro i hentangled
    constructor
    · cases hgoes : s.goOn? with
      | none => rfl
      | some t => exact absurd hentangled (entangled_goOn hs hgoes).1
    · exact fun later t hlater played =>
        (entangled_play hs hlater played).2.mpr (Or.inl hentangled)

/-- Where some moves lead from a client whose callback always ends the connection. -/
def hangingUp (moves : List ClientMove) : ClientCalls :=
  (afterConnect? {} ⟨⟨239, 255, 0, 1⟩, 9090, rfl⟩ (fun _ => true) moves).getD
    (start .pooledMulticast {})

/-- The reader hands out a frame.  The callback ends the connection and sees it connected.
Another call does the same and gets the lock first. -/
def overtaking : List ClientMove :=
  [.goOn, .read [97, 10], .goOn, .callDisconnect, .disconnect 0, .goOn, .disconnect 0]

theorem entangled_iff_overtaken_byOne :
    (hangingUp (overtaking ++ [.disconnect 0])).Entangled 0 ∧
      (hangingUp (overtaking ++ [.disconnect 0])).goOn? = none := by
  have hbefore : afterConnect? {} ⟨⟨239, 255, 0, 1⟩, 9090, rfl⟩ (fun _ => true) overtaking
      = some (hangingUp overtaking) := by cbv
  have hafter : afterConnect? {} ⟨⟨239, 255, 0, 1⟩, 9090, rfl⟩ (fun _ => true)
      (overtaking ++ [.disconnect 0]) = some (hangingUp (overtaking ++ [.disconnect 0])) := by cbv
  have hplace : (hangingUp overtaking).reader = .calling .looked [] ∧
      (hangingUp overtaking).endings[0]? = some .locked ∧
      (hangingUp overtaking).client.state = .connected := by cbv
  have hnone : ∀ opened, .callConnect opened ∉ overtaking ++ [.disconnect 0] := by
    simp [overtaking]
  obtain ⟨hiff, hstuck, -⟩ := entangled_iff_overtaken _ _ _ hnone hafter
  have hentangled := (hiff 0).mpr ⟨overtaking, [], _, rfl, hbefore, ⟨[], hplace.1⟩, hplace.2⟩
  exact ⟨hentangled, (hstuck 0 hentangled).1⟩

/-- The reader waits for the lock, the other call holds it and waits for the reader, and nobody
can go on. -/
theorem deadlock_reachable :
    ∃ s, afterConnect? {} ⟨⟨239, 255, 0, 1⟩, 9090, rfl⟩ (fun _ => true)
        (overtaking ++ List.replicate 2 (.disconnect 0)) = some s ∧
      s.reader = .calling .looked [] ∧ s.locked = true ∧ s.endings = [.waiting true] ∧
      ∀ m : ClientMove, m.isStep = true → s.move? m = none := by
  refine ⟨hangingUp (overtaking ++ List.replicate 2 (.disconnect 0)), by cbv, by cbv, by cbv,
    by cbv, ?_⟩
  intro m hm
  cases m with
  | goOn | seeCancelled => cbv
  | connect i =>
      cases i with
      | zero => cbv
      | succ i => cbv
  | disconnect i =>
      cases i with
      | zero => cbv
      | succ i => cbv
  | callConnect opened | callDisconnect | read chunk | notice => cases hm

end ClientCalls

end Interleaving

end Lifecast
