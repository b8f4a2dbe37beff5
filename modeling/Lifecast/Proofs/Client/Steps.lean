/-
What a step of a call leaves alone.

Hardly any step of a call touches what the reader works on or adds to the log (`Untouched`): a
connecting call sets up a new reader when it opens a connection and tells of it afterwards, and a
disconnecting call tells of the end.  Whatever is kept by all steps is proved for `Untouched`
once and for those three steps one by one.
-/
import Lifecast.Interleaving.ClientCalls

namespace Lifecast

/-- Does it tell of a new connection? -/
def ClientEvent.isConnected : ClientEvent → Bool
  | connected => true
  | disconnected | frame _ _ | calledConnect _ => false

namespace Interleaving

/-- Has the call made a connection and told so? -/
def Beginning.hasConnected : Beginning → Bool
  | releasing | returned (.ok _) => true
  | called _ | clearing _ | opening _ | telling | returned (.error _) => false

namespace ClientCalls

variable {s t : ClientCalls}

/-- A step that leaves alone what the reader works on and what has been told. -/
structure Untouched (s t : ClientCalls) : Prop where
  configured : t.client.config = s.client.config
  callback : t.client.callback = s.client.callback
  log : t.client.log = s.client.log
  hangsUp : t.hangsUp = s.hangsUp
  reader : t.reader = s.reader
  buffer : t.buffer = s.buffer
  reads : t.reads = s.reads

/-- What a connecting call does that opens a connection. -/
def opens (s : ClientCalls) (peer : Peer) : ClientCalls :=
  let buffer := FrameBuffer.empty s.client.config.delimiter
  { s.update fun c => { c with state := .connected, connection := some { peer, buffer } } with
    locked := false, reader := .held, released := false, cancelled := false, buffer
    reads := [] :: s.reads }

/-- The steps of a connecting call. -/
theorem beginning?_cases {call next : Beginning} (step : s.beginning? call = some (next, t)) :
    t.beginnings = s.beginnings ∧ t.endings = s.endings ∧
      (Untouched s t ∧ next.hasConnected = call.hasConnected ∨
        (∃ peer, call = .opening (.ok peer) ∧ next = .telling ∧ t = s.opens peer) ∨
        call = .telling ∧ next = .releasing ∧ t = s.update (·.note .connected)) := by
  cases call with
  | called opened =>
      simp only [beginning?] at step
      split at step
      · cases step
      · split at step <;>
          · cases step
            exact ⟨rfl, rfl, .inl ⟨⟨rfl, rfl, rfl, rfl, rfl, rfl, rfl⟩, rfl⟩⟩
  | clearing opened =>
      simp only [beginning?] at step
      split at step
      · cases step
        exact ⟨rfl, rfl, .inl ⟨⟨rfl, rfl, rfl, rfl, rfl, rfl, rfl⟩, rfl⟩⟩
      · split at step
        · cases step
          exact ⟨rfl, rfl, .inl ⟨⟨rfl, rfl, rfl, rfl, rfl, rfl, rfl⟩, rfl⟩⟩
        · cases step
  | opening opened =>
      cases opened with
      | error e =>
          cases step
          exact ⟨rfl, rfl, .inl ⟨⟨rfl, rfl, rfl, rfl, rfl, rfl, rfl⟩, rfl⟩⟩
      | ok peer =>
          cases step
          exact ⟨rfl, rfl, .inr (.inl ⟨peer, rfl, rfl, rfl⟩)⟩
  | telling =>
      cases step
      exact ⟨rfl, rfl, .inr (.inr ⟨rfl, rfl, rfl⟩)⟩
  | releasing =>
      cases step
      exact ⟨rfl, rfl, .inl ⟨⟨rfl, rfl, rfl, rfl, rfl, rfl, rfl⟩, rfl⟩⟩
  | returned result => cases step

/-- Only a call that has made a connection tells so. -/
theorem log_of_beginning? {call next : Beginning} (step : s.beginning? call = some (next, t)) :
    t.client.log = s.client.log ∧ next.hasConnected = call.hasConnected ∨
      call = .telling ∧ next = .releasing ∧ t.client.log = s.client.log.push .connected := by
  obtain ⟨-, -, ⟨hsame, hcall⟩ | ⟨peer, rfl, rfl, rfl⟩ | ⟨rfl, rfl, rfl⟩⟩ := beginning?_cases step
  · exact .inl ⟨hsame.log, hcall⟩
  · exact .inl ⟨rfl, rfl⟩
  · exact .inr ⟨rfl, rfl, rfl⟩

/-- The steps of a disconnecting call. -/
theorem ending?_cases {fromReader : Bool} {call next : Ending}
    (step : s.ending? fromReader call = some (next, t)) :
    t.beginnings = s.beginnings ∧ t.endings = s.endings ∧
      (Untouched s t ∨
        call = .telling ∧ next = .returned ∧ t = s.update (·.note .disconnected)) := by
  cases call with
  | called =>
      simp only [ending?] at step
      split at step
      · cases step
        exact ⟨rfl, rfl, .inl ⟨rfl, rfl, rfl, rfl, rfl, rfl, rfl⟩⟩
      · split at step
        · cases step
        · cases step
          exact ⟨rfl, rfl, .inl ⟨rfl, rfl, rfl, rfl, rfl, rfl, rfl⟩⟩
  | looked =>
      simp only [ending?] at step
      split at step
      · cases step
      · cases step
        exact ⟨rfl, rfl, .inl ⟨rfl, rfl, rfl, rfl, rfl, rfl, rfl⟩⟩
  | locked =>
      simp only [ending?] at step
      generalize Phase.exchange .connected .closing s.client.state = found at step
      split at step <;>
        · cases step
          exact ⟨rfl, rfl, .inl ⟨rfl, rfl, rfl, rfl, rfl, rfl, rfl⟩⟩
  | tried won =>
      simp only [ending?] at step
      split at step
      · cases step
        exact ⟨rfl, rfl, .inl ⟨rfl, rfl, rfl, rfl, rfl, rfl, rfl⟩⟩
      · split at step <;>
          · cases step
            exact ⟨rfl, rfl, .inl ⟨rfl, rfl, rfl, rfl, rfl, rfl, rfl⟩⟩
  | waiting won =>
      simp only [ending?] at step
      split at step
      · split at step <;>
          · cases step
            exact ⟨rfl, rfl, .inl ⟨rfl, rfl, rfl, rfl, rfl, rfl, rfl⟩⟩
      · cases step
  | cleared =>
      cases step
      exact ⟨rfl, rfl, .inl ⟨rfl, rfl, rfl, rfl, rfl, rfl, rfl⟩⟩
  | telling =>
      cases step
      exact ⟨rfl, rfl, .inr ⟨rfl, rfl, rfl⟩⟩
  | returned => cases step

theorem log_of_ending? {fromReader : Bool} {call next : Ending}
    (step : s.ending? fromReader call = some (next, t)) :
    t.client.log = s.client.log ∨ t.client.log = s.client.log.push .disconnected := by
  obtain ⟨-, -, hsame | ⟨-, -, rfl⟩⟩ := ending?_cases step
  · exact .inl hsame.log
  · exact .inr rfl

/-- A callback that has called `disconnect` goes on with the call. -/
theorem goOn?_calling {call : Ending} {rest : List Bytes} (hr : s.reader = .calling call rest)
    (hunder : call ≠ .returned) :
    s.goOn? = (s.ending? true call).map fun step =>
      { step.2 with reader := .calling step.1 rest } := by
  rw [goOn?, hr]
  cases call with
  | returned => exact absurd rfl hunder
  | _ =>
      dsimp only
      split
      · next hnone => rw [hnone, Option.map_none]
      · next hsome => rw [hsome, Option.map_some]

/-- The reader tells of no new connection. -/
theorem goOn?_cases (step : s.goOn? = some t) :
    t.beginnings = s.beginnings ∧ t.endings = s.endings ∧
      (t.client.log = s.client.log ∨
        ∃ e, e.isConnected = false ∧ t.client.log = s.client.log.push e) := by
  cases hr : s.reader with
  | held =>
      simp only [goOn?, hr] at step
      split at step
      · cases step
        exact ⟨rfl, rfl, Or.inl rfl⟩
      · cases step
  | reading => simp [goOn?, hr] at step
  | delivering frames =>
      cases frames with
      | nil =>
          simp only [goOn?, hr] at step
          cases step
          exact ⟨rfl, rfl, Or.inl rfl⟩
      | cons frame rest =>
          simp only [goOn?, hr] at step
          cases step
          exact ⟨rfl, rfl, Or.inr ⟨_, rfl, rfl⟩⟩
  | calling call rest =>
      by_cases hcall : call = .returned
      · subst hcall
        simp only [goOn?, hr] at step
        cases step
        exact ⟨rfl, rfl, Or.inl rfl⟩
      · rw [goOn?_calling hr hcall] at step
        obtain ⟨⟨next, u⟩, hstep, rfl⟩ := Option.map_eq_some_iff.mp step
        obtain ⟨hbeginnings, hendings, -⟩ := ending?_cases hstep
        exact ⟨hbeginnings, hendings,
          (log_of_ending? hstep).imp id fun hpush => ⟨_, rfl, hpush⟩⟩
  | noticed =>
      simp only [goOn?, hr] at step
      cases step
      exact ⟨rfl, rfl, Or.inl rfl⟩
  | telling =>
      simp only [goOn?, hr] at step
      cases step
      exact ⟨rfl, rfl, Or.inr ⟨_, rfl, rfl⟩⟩
  | ended => simp [goOn?, hr] at step

theorem move?_connect {i : Nat} (moved : s.move? (.connect i) = some t) :
    ∃ call next u, s.beginnings[i]? = some call ∧ s.beginning? call = some (next, u) ∧
      t = { u with beginnings := s.beginnings.set i next } := by
  simp only [move?] at moved
  split at moved
  · cases moved
  · next call hcall =>
      split at moved
      · cases moved
      · next next u step =>
          cases moved
          rw [(beginning?_cases step).1]
          exact ⟨call, next, u, hcall, step, rfl⟩

theorem move?_disconnect {i : Nat} (moved : s.move? (.disconnect i) = some t) :
    ∃ call next u, s.endings[i]? = some call ∧ s.ending? false call = some (next, u) ∧
      t = { u with endings := s.endings.set i next } := by
  simp only [move?] at moved
  split at moved
  · cases moved
  · next call hcall =>
      split at moved
      · cases moved
      · next next u step =>
          cases moved
          rw [(ending?_cases step).2.1]
          exact ⟨call, next, u, hcall, step, rfl⟩

/-- No move but that of a connecting call tells of a new connection or touches the connecting
calls made so far. -/
theorem quiet_move {m : ClientMove} (hnot : ∀ i, m ≠ .connect i) (moved : s.move? m = some t) :
    (∃ more, t.beginnings = s.beginnings ++ more ∧ more.countP Beginning.hasConnected = 0) ∧
      (t.client.log = s.client.log ∨
        ∃ e, e.isConnected = false ∧ t.client.log = s.client.log.push e) := by
  have hsame : ∀ u : ClientCalls, u.beginnings = s.beginnings →
      ∃ more, u.beginnings = s.beginnings ++ more ∧ more.countP Beginning.hasConnected = 0 :=
    fun u hu => ⟨[], hu.trans (List.append_nil _).symm, rfl⟩
  cases m with
  | callConnect opened =>
      cases moved
      exact ⟨⟨[.called opened], rfl, rfl⟩, Or.inl rfl⟩
  | connect i => exact absurd rfl (hnot i)
  | callDisconnect =>
      cases moved
      exact ⟨hsame _ rfl, Or.inl rfl⟩
  | disconnect i =>
      obtain ⟨call, next, u, hcall, step, rfl⟩ := move?_disconnect moved
      exact ⟨hsame u (ending?_cases step).1,
        (log_of_ending? step).imp id fun hpush => ⟨_, rfl, hpush⟩⟩
  | goOn =>
      obtain ⟨hbeginnings, -, hlog⟩ := goOn?_cases moved
      exact ⟨hsame t hbeginnings, hlog⟩
  | read | seeCancelled | notice =>
      obtain ⟨-, hafter⟩ := Option.ite_none_right_eq_some.mp moved
      cases hafter
      exact ⟨hsame _ rfl, Or.inl rfl⟩

end ClientCalls

end Interleaving

end Lifecast
