/-
How a client stands with its connection.

Two parties write the log of a client whose calls are made in turn, the caller and the
reader, and `Stands` says what each of them finds wherever the other has got to.
`Telling` is where the log itself has got to: a connection may be made and not told of yet,
told of, or told to have ended.  Each step of either party moves both on together
(`behaved_goOn`, `behaved_beginning`, `behaved_ending` and so on).

`due` is the one place where a connection is not told of although the reader could already
be on its way: the reader is held back there, and may at most be cancelled.  A connection
whose end the reader has yet to tell of still has its record, so a call that clears up
waits for it.
-/
import Lifecast.Proofs.Client.Steps
import Lifecast.Proofs.Client.Turns
import Lifecast.Proofs.Framing

namespace Lifecast

namespace Interleaving

/-- What has been told of the last connection. -/
inductive Telling where
  /-- Nothing is left to tell: it has ended, or there was none. -/
  | past
  /-- It has been made and not been told of. -/
  | due
  /-- It has been told of, but not its end. -/
  | begun
deriving DecidableEq

/-- Is the reader on its way, with the end of the connection not yet decided by it? -/
def Reader.isActive : Reader → Bool
  | held | reading | delivering _ | noticed => true
  | calling _ _ | telling | ended => false

/-- May the call under way be said to have done nothing, or all that it does? -/
def Turn.isCalm : Turn → Bool
  | nobody | connecting (.called _) | connecting .releasing => true
  | disconnecting .called | disconnecting .looked | disconnecting .locked => true
  | _ => false

namespace ClientCalls

/-- The reader has told of the end of the connection, or is about to. -/
def Told (s : ClientCalls) (telling : Telling) : Prop :=
  s.reader = .ended ∧ telling = .past ∨ s.reader = .telling ∧ telling = .begun

/-- The other side ended the connection, or there is none.  As long as its end has to be
told, its record is there. -/
structure Past (s : ClientCalls) (telling : Telling) : Prop where
  told : s.Told telling
  record : s.reader = .telling → s.client.connection.isSome = true

/-- The reader goes on or has ended, and has left the end of the connection to others. -/
def Follows (s : ClientCalls) : Prop :=
  s.reader.isActive = true ∨ s.reader = .ended

/-- How a client stands while a call has got to some place. -/
inductive Stands (s : ClientCalls) : Telling → Turn → Prop where
  | past {telling : Telling} {turn : Turn} (calm : turn.isCalm = true)
      (state : s.client.state = .disconnected) (past : s.Past telling) : Stands s telling turn
  | live {turn : Turn} (calm : turn.isCalm = true) (state : s.client.state = .connected)
      (record : s.client.connection.isSome = true) (follows : s.Follows) : Stands s .begun turn
  | clearing {telling : Telling} {opened : Except EngineError Peer}
      (state : s.client.state = .connecting) (past : s.Past telling) :
      Stands s telling (.connecting (.clearing opened))
  | opening {opened : Except EngineError Peer} (state : s.client.state = .connecting)
      (reader : s.reader = .ended) : Stands s .past (.connecting (.opening opened))
  | due (state : s.client.state = .connected) (record : s.client.connection.isSome = true)
      (reader : s.reader = .held ∨ s.reader = .ended) (released : s.released = false) :
      Stands s .due (.connecting .telling)
  | won (state : s.client.state = .closing) (record : s.client.connection.isSome = true)
      (follows : s.Follows) : Stands s .begun (.disconnecting (.tried true))
  | lost {telling : Telling} (state : s.client.state = .disconnected) (past : s.Past telling) :
      Stands s telling (.disconnecting (.tried false))
  | stopping (state : s.client.state = .closing) (follows : s.Follows) :
      Stands s .begun (.disconnecting (.waiting true))
  | tidying {telling : Telling} (state : s.client.state = .disconnected) (told : s.Told telling) :
      Stands s telling (.disconnecting (.waiting false))
  | cleared (state : s.client.state = .disconnected) (reader : s.reader = .ended) :
      Stands s .begun (.disconnecting .cleared)
  | telling (state : s.client.state = .disconnected) (reader : s.reader = .ended) :
      Stands s .begun (.disconnecting .telling)

/-! ### The log -/

/-- The frames that a new buffer makes of some reads. -/
def framesOf (d : UInt8) (chunks : List Bytes) : List Bytes :=
  ((FrameBuffer.empty d).feedAll chunks).2

/-- What is told of a connection before its end. -/
def openBlock (frames : List Bytes) : List ClientEvent :=
  .connected :: frames.map (.frame "")

/-- All that is told of some connections, the newest first, that have ended. -/
def closedBlocks (d : UInt8) (reads : List (List Bytes)) : List ClientEvent :=
  reads.reverse.flatMap fun chunks => openBlock (framesOf d chunks) ++ [.disconnected]

/-- The frames that the reader has yet to hand out. -/
def undelivered (s : ClientCalls) : List Bytes :=
  match s.reader with
  | .delivering rest => rest
  | _ => []

/-- What the log holds. -/
def Logged (s : ClientCalls) (d : UInt8) : Telling → Prop
  | .past => s.client.log.toList = closedBlocks d s.reads
  | .due => ∃ before, s.reads = [] :: before ∧ s.client.log.toList = closedBlocks d before
  | .begun => ∃ chunks before delivered, s.reads = chunks :: before ∧
      s.client.log.toList = closedBlocks d before ++ openBlock delivered ∧
      delivered ++ s.undelivered = framesOf d chunks

/-- What every step keeps of a client that is configured so and whose callbacks call
nothing. -/
structure Behaved (config : EngineConfig) (s : ClientCalls) (turn : Turn) (telling : Telling) :
    Prop where
  configured : s.client.config = config
  callback : s.client.callback = {}
  hangsUp : s.hangsUp = fun _ => false
  buffer : s.buffer = ((FrameBuffer.empty config.delimiter).feedAll (s.reads.headD [])).1
  stands : s.Stands telling turn
  logged : s.Logged config.delimiter telling

theorem closedBlocks_cons (d : UInt8) (chunks : List Bytes) (before : List (List Bytes)) :
    closedBlocks d (chunks :: before)
      = closedBlocks d before ++ openBlock (framesOf d chunks) ++ [.disconnected] := by
  simp [closedBlocks]

variable {config : EngineConfig} {s t : ClientCalls} {turn : Turn} {telling : Telling}

/-- The end of a connection that has been told of closes its block. -/
theorem Logged.close {d : UInt8} (hlogged : s.Logged d .begun) (hnone : s.undelivered = [])
    (hreads : t.reads = s.reads) (hlog : t.client.log = s.client.log.push .disconnected) :
    t.Logged d .past := by
  obtain ⟨chunks, before, delivered, hs, hbegun, hframes⟩ := hlogged
  rw [hnone, List.append_nil] at hframes
  show t.client.log.toList = closedBlocks d t.reads
  rw [hreads, hs, closedBlocks_cons, hlog, Array.toList_push, hbegun, hframes]

/-! ### Steps of the reader -/

theorem Told.not_isActive (htold : s.Told telling) : s.reader.isActive = false := by
  rcases htold with ⟨hr, -⟩ | ⟨hr, -⟩
  · rw [hr]
    rfl
  · rw [hr]
    rfl

theorem Told.eq_begun (htold : s.Told telling) (hr : s.reader = .telling) : telling = .begun := by
  rcases htold with ⟨hended, -⟩ | ⟨-, htelling⟩
  · rw [hr] at hended
    cases hended
  · exact htelling

theorem Follows.ne_telling (hfollows : s.Follows) : s.reader ≠ .telling := by
  intro hr
  rcases hfollows with hactive | hended
  · rw [hr] at hactive
    cases hactive
  · rw [hr] at hended
    cases hended

theorem Stands.told_or_follows (hstands : s.Stands telling turn) : s.Told telling ∨ s.Follows := by
  cases hstands with
  | past _ _ past | clearing _ past | lost _ past => exact Or.inl past.told
  | tidying _ told => exact Or.inl told
  | live _ _ _ follows | won _ _ follows | stopping _ follows => exact Or.inr follows
  | opening _ reader | cleared _ reader | telling _ reader => exact Or.inr (Or.inr reader)
  | due _ _ reader _ =>
      rcases reader with hheld | hended
      · exact Or.inr (Or.inl (by rw [hheld]; rfl))
      · exact Or.inr (Or.inr hended)

/-- A reader that is about to tell of the end tells of a connection that has been told of. -/
theorem Stands.begun_of_telling (hstands : s.Stands telling turn) (hr : s.reader = .telling) :
    telling = .begun := by
  rcases hstands.told_or_follows with htold | hfollows
  · exact htold.eq_begun hr
  · exact absurd hr hfollows.ne_telling

/-- A client that is connected has a connection. -/
theorem Stands.record_of_connected (hstands : s.Stands telling turn)
    (hconnected : s.client.state = .connected) : s.client.connection.isSome = true := by
  cases hstands with
  | live _ _ record _ | due _ record _ _ => exact record
  | past _ state _ | clearing state _ | opening state _ | won state _ _ | lost state _
  | stopping state _ | tidying state _ | cleared state _ | telling state _ =>
      rw [hconnected] at state
      cases state

/-- Callbacks that call nothing are not found in a call. -/
theorem Stands.ne_calling (hstands : s.Stands telling turn) (call : Ending) (rest : List Bytes) :
    s.reader ≠ .calling call rest := by
  intro hr
  rcases hstands.told_or_follows with (⟨hended, -⟩ | ⟨htelling, -⟩) | (hactive | hended)
  · rw [hr] at hended
    cases hended
  · rw [hr] at htelling
    cases htelling
  · rw [hr] at hactive
    cases hactive
  · rw [hr] at hended
    cases hended

/-- A reader that is on its way reads a connection that has been told of, or is held
back. -/
theorem Stands.of_isActive (hstands : s.Stands telling turn) (hactive : s.reader.isActive = true) :
    telling = .begun ∨
      telling = .due ∧ turn = .connecting .telling ∧ s.reader = .held ∧ s.released = false := by
  have htold : ¬ s.Told telling := by
    intro htold
    rw [htold.not_isActive] at hactive
    cases hactive
  have hended : s.reader ≠ .ended := by
    intro hr
    rw [hr] at hactive
    cases hactive
  cases hstands with
  | past _ _ past | clearing _ past | lost _ past => exact absurd past.told htold
  | tidying _ told => exact absurd told htold
  | opening _ reader | cleared _ reader | telling _ reader => exact absurd reader hended
  | live | won | stopping => exact Or.inl rfl
  | due state record reader released =>
      exact Or.inr ⟨rfl, rfl, reader.resolve_right hended, released⟩

/-- Where a reader that follows has got to is nobody else's business. -/
theorem Stands.of_follows (hstands : s.Stands .begun turn) (hactive : s.reader.isActive = true)
    (hfollows : t.Follows) (hstate : t.client.state = s.client.state)
    (hrecord : t.client.connection = s.client.connection) : t.Stands .begun turn := by
  have htold : ¬ s.Told .begun := by
    intro htold
    rw [htold.not_isActive] at hactive
    cases hactive
  cases hstands with
  | past _ _ past | clearing _ past | lost _ past => exact absurd past.told htold
  | tidying _ told => exact absurd told htold
  | cleared _ reader | telling _ reader =>
      rw [reader] at hactive
      cases hactive
  | live calm state record _ =>
      exact .live calm (hstate.trans state) (hrecord ▸ record) hfollows
  | won state record _ => exact .won (hstate.trans state) (hrecord ▸ record) hfollows
  | stopping state _ => exact .stopping (hstate.trans state) hfollows

/-- A reader that finds the client connected at the end of the connection is the one to tell
of it. -/
theorem Stands.of_connected (hstands : s.Stands .begun turn) (hactive : s.reader.isActive = true)
    (hconnected : s.client.state = .connected) (hreader : t.reader = .telling)
    (hstate : t.client.state = .disconnected)
    (hrecord : t.client.connection = s.client.connection) : t.Stands .begun turn := by
  cases hstands with
  | live calm _ record _ =>
      exact .past calm hstate ⟨Or.inr ⟨hreader, rfl⟩, fun _ => hrecord ▸ record⟩
  | past _ _ past =>
      rw [past.told.not_isActive] at hactive
      cases hactive
  | clearing state _ | won state _ _ | lost state _ | stopping state _ | tidying state _
  | cleared state _ | telling state _ =>
      rw [hconnected] at state
      cases state

/-- The reader tells of the end. -/
theorem Stands.of_telling (hstands : s.Stands telling turn) (hreader : s.reader = .telling)
    (hended : t.reader = .ended) (hstate : t.client.state = s.client.state) :
    telling = .begun ∧ t.Stands .past turn := by
  have hpast : t.Past .past := by
    refine ⟨Or.inl ⟨hended, rfl⟩, ?_⟩
    intro hr
    rw [hended] at hr
    cases hr
  cases hstands with
  | past calm state past =>
      exact ⟨past.told.eq_begun hreader, .past calm (hstate.trans state) hpast⟩
  | clearing state past =>
      exact ⟨past.told.eq_begun hreader, .clearing (hstate.trans state) hpast⟩
  | lost state past => exact ⟨past.told.eq_begun hreader, .lost (hstate.trans state) hpast⟩
  | tidying state told => exact ⟨told.eq_begun hreader, .tidying (hstate.trans state) hpast.told⟩
  | live _ _ _ follows | won _ _ follows | stopping _ follows =>
      exact absurd hreader follows.ne_telling
  | opening _ reader | cleared _ reader | telling _ reader =>
      exact absurd hreader (Follows.ne_telling (Or.inr reader))
  | due _ _ reader _ =>
      rw [hreader] at reader
      rcases reader with hr | hr
      · cases hr
      · cases hr

theorem Stands.begun_of_isActive (hstands : s.Stands telling turn)
    (hactive : s.reader.isActive = true) (hheld : s.reader ≠ .held) : telling = .begun := by
  rcases hstands.of_isActive hactive with htelling | ⟨-, -, hr, -⟩
  · exact htelling
  · exact absurd hr hheld

/-- The reader gets somewhere without handing out anything. -/
theorem Behaved.set_reader {reader : Reader} (h : Behaved config s turn .begun)
    (hactive : s.reader.isActive = true) (hfollows : reader.isActive = true ∨ reader = .ended)
    (hrest : ({ s with reader } : ClientCalls).undelivered = s.undelivered) :
    Behaved config { s with reader } turn .begun := by
  obtain ⟨chunks, before, delivered, hs, hbegun, hframes⟩ := h.logged
  rw [← hrest] at hframes
  exact ⟨h.configured, h.callback, h.hangsUp, h.buffer,
    h.stands.of_follows hactive hfollows rfl rfl, chunks, before, delivered, hs, hbegun, hframes⟩

/-- The reader goes on, where it has no choice. -/
theorem behaved_goOn (h : Behaved config s turn telling) (step : s.goOn? = some t) :
    ∃ telling, Behaved config t turn telling := by
  simp only [goOn?] at step
  cases hr : s.reader with
  | held =>
      simp only [hr] at step
      split at step
      · next hreleased =>
          have hactive : s.reader.isActive = true := by
            rw [hr]
            rfl
          obtain rfl := Option.some.inj step
          obtain rfl : telling = .begun := by
            rcases h.stands.of_isActive hactive with htelling | ⟨-, -, -, hheld⟩
            · exact htelling
            · rw [hreleased] at hheld
              cases hheld
          exact ⟨.begun, h.set_reader hactive (Or.inl rfl) (by rw [undelivered, undelivered, hr])⟩
      · cases step
  | reading => simp [hr] at step
  | delivering frames =>
      have hactive : s.reader.isActive = true := by
        rw [hr]
        rfl
      obtain rfl := h.stands.begun_of_isActive hactive (by simp [hr])
      cases frames with
      | nil =>
          simp only [hr] at step
          obtain rfl := Option.some.inj step
          exact ⟨.begun, h.set_reader hactive (Or.inl rfl) (by rw [undelivered, undelivered, hr])⟩
      | cons frame rest =>
          obtain ⟨chunks, before, delivered, hs, hbegun, hframes⟩ := h.logged
          rw [undelivered, hr] at hframes
          have hstays : (s.update fun c => c.note (.frame c.callback.mark frame)).hangsUp frame
              = false := by
            rw [update, h.hangsUp]
          simp only [hr, hstays, Bool.false_eq_true, if_false] at step
          obtain rfl := Option.some.inj step
          refine ⟨.begun, h.configured, h.callback, h.hangsUp, h.buffer,
            h.stands.of_follows hactive (Or.inl rfl) rfl rfl, chunks, before, delivered ++ [frame],
            hs, ?_, ?_⟩
          · show (s.client.log.push (.frame s.client.callback.mark frame)).toList = _
            rw [Array.toList_push, hbegun, h.callback, openBlock, openBlock, List.map_append,
              List.append_assoc]
            rfl
          · show (delivered ++ [frame]) ++ rest = _
            rw [← hframes, List.append_assoc]
            rfl
  | calling call rest => exact absurd hr (h.stands.ne_calling call rest)
  | noticed =>
      have hactive : s.reader.isActive = true := by
        rw [hr]
        rfl
      obtain rfl := h.stands.begun_of_isActive hactive (by simp [hr])
      by_cases hstate : s.client.state = .connected
      · simp only [hr, Phase.exchange, hstate, if_true] at step
        obtain rfl := Option.some.inj step
        obtain ⟨chunks, before, delivered, hs, hbegun, hframes⟩ := h.logged
        rw [undelivered, hr] at hframes
        exact ⟨.begun, h.configured, h.callback, h.hangsUp, h.buffer,
          h.stands.of_connected hactive hstate rfl rfl rfl, chunks, before, delivered, hs, hbegun,
          hframes⟩
      · simp only [hr, Phase.exchange, hstate, if_false] at step
        obtain rfl := Option.some.inj step
        have hset : Behaved config { s with reader := .ended } turn .begun :=
          h.set_reader hactive (Or.inr rfl) (by rw [undelivered, undelivered, hr])
        exact ⟨.begun, hset⟩
  | telling =>
      simp only [hr] at step
      obtain rfl := Option.some.inj step
      obtain ⟨rfl, hstands⟩ := h.stands.of_telling
        (t := { s.update (·.note .disconnected) with reader := .ended }) hr rfl rfl
      exact ⟨.past, h.configured, h.callback, h.hangsUp, h.buffer, hstands,
        h.logged.close (by rw [undelivered, hr]) rfl rfl⟩
  | ended => simp [hr] at step

/-- The reader reads some bytes. -/
theorem behaved_read (h : Behaved config s turn telling) (hr : s.reader = .reading)
    (chunk : Bytes) :
    Behaved config { s with
      buffer := (s.buffer.feed chunk).1, reader := .delivering (s.buffer.feed chunk).2
      reads := heard chunk s.reads } turn .begun := by
  have hactive : s.reader.isActive = true := by
    rw [hr]
    rfl
  obtain rfl := h.stands.begun_of_isActive hactive (by simp [hr])
  obtain ⟨chunks, before, delivered, hs, hbegun, hframes⟩ := h.logged
  have hbuffer : s.buffer = ((FrameBuffer.empty config.delimiter).feedAll chunks).1 := by
    rw [h.buffer, hs]
    rfl
  have hheard : heard chunk s.reads = (chunks ++ [chunk]) :: before := by
    rw [hs]
    rfl
  rw [undelivered, hr, List.append_nil] at hframes
  refine ⟨h.configured, h.callback, h.hangsUp, ?_, h.stands.of_follows hactive (Or.inl rfl) rfl rfl,
    chunks ++ [chunk], before, delivered, hheard, hbegun, ?_⟩
  · show (s.buffer.feed chunk).1 = _
    rw [hheard, List.headD_cons, FrameBuffer.feedAll_concat, ← hbuffer]
  · show delivered ++ (s.buffer.feed chunk).2 = _
    rw [hframes, framesOf, framesOf, FrameBuffer.feedAll_concat, ← hbuffer]

/-- The reader finds that it is to end. -/
theorem behaved_seeCancelled (h : Behaved config s turn telling)
    (hr : s.reader = .reading ∨ s.reader = .held) :
    Behaved config { s with reader := .ended } turn telling := by
  have hactive : s.reader.isActive = true := by
    rcases hr with hr | hr
    · rw [hr]
      rfl
    · rw [hr]
      rfl
  rcases h.stands.of_isActive hactive with rfl | ⟨rfl, rfl, -, hheld⟩
  · refine h.set_reader hactive (Or.inr rfl) ?_
    rcases hr with hr | hr
    · rw [undelivered, undelivered, hr]
    · rw [undelivered, undelivered, hr]
  · cases h.stands with
    | due state record _ released =>
        exact ⟨h.configured, h.callback, h.hangsUp, h.buffer,
          .due state record (Or.inr rfl) released, h.logged⟩
    | past calm => cases calm

/-- The reader notices that the other side has closed. -/
theorem behaved_notice (h : Behaved config s turn telling) (hr : s.reader = .reading) :
    Behaved config { s with reader := .noticed } turn .begun := by
  have hactive : s.reader.isActive = true := by
    rw [hr]
    rfl
  obtain rfl := h.stands.begun_of_isActive hactive (by simp [hr])
  exact h.set_reader hactive (Or.inl rfl) (by rw [undelivered, undelivered, hr])

/-! ### Steps of the calls -/

theorem Past.of_eq (hpast : s.Past telling) (hreader : t.reader = s.reader)
    (hrecord : t.client.connection = s.client.connection) : t.Past telling := by
  refine ⟨?_, ?_⟩
  · rw [Told, hreader]
    exact hpast.told
  · rw [hreader, hrecord]
    exact hpast.record

/-- Once the reader has ended there is nothing left to tell of. -/
theorem Told.past_of_ended (htold : s.Told telling) (hr : s.reader = .ended) : telling = .past := by
  rcases htold with ⟨-, htelling⟩ | ⟨hr', -⟩
  · exact htelling
  · rw [hr] at hr'
    cases hr'

/-- A connection whose end has not been told of still has its record. -/
theorem Past.ended_of_no_record (hpast : s.Past telling) (hnone : s.client.connection = none) :
    s.reader = .ended := by
  rcases hpast.told with ⟨hr, -⟩ | ⟨hr, -⟩
  · exact hr
  · have hsome := hpast.record hr
    rw [hnone] at hsome
    cases hsome

theorem past_of_ended (hr : s.reader = .ended) : s.Past .past := by
  refine ⟨Or.inl ⟨hr, rfl⟩, ?_⟩
  intro hr'
  rw [hr] at hr'
  cases hr'

/-- A call that has done nothing, or all that it does, may be left where it is. -/
theorem Stands.of_calm {turn' : Turn} (hstands : s.Stands telling turn)
    (hcalm : turn.isCalm = true) (hcalm' : turn'.isCalm = true)
    (hstate : t.client.state = s.client.state) (hreader : t.reader = s.reader)
    (hrecord : t.client.connection = s.client.connection) : t.Stands telling turn' := by
  cases hstands with
  | past _ state past => exact .past hcalm' (hstate.trans state) (past.of_eq hreader hrecord)
  | live _ state record follows =>
      refine .live hcalm' (hstate.trans state) (hrecord ▸ record) ?_
      rw [Follows, hreader]
      exact follows
  | clearing | opening | due | won | lost | stopping | tidying | cleared | telling => cases hcalm

/-- A step that leaves the reader and the log alone keeps what is said of them. -/
theorem Behaved.untouched {turn' : Turn} (h : Behaved config s turn telling)
    (hsame : Untouched s t) (hstands : t.Stands telling turn') :
    Behaved config t turn' telling := by
  have hundelivered : t.undelivered = s.undelivered := by
    rw [undelivered, undelivered, hsame.reader]
  have hlogged : t.Logged config.delimiter telling := by
    have hlogged := h.logged
    cases telling <;> simpa only [Logged, hsame.log, hsame.reads, hundelivered] using hlogged
  exact ⟨hsame.configured.trans h.configured, hsame.callback.trans h.callback,
    hsame.hangsUp.trans h.hangsUp, by rw [hsame.buffer, hsame.reads, h.buffer], hstands, hlogged⟩

/-- How a client stands after a step of a connecting call that neither opens a connection nor
tells of one. -/
theorem Stands.beginning {call next : Beginning} (h : s.Stands telling (.connecting call))
    (step : s.beginning? call = some (next, t)) (hopens : ∀ peer, call ≠ .opening (.ok peer))
    (htells : call ≠ .telling) : t.Stands telling (.ofBeginning next) := by
  cases call with
  | called opened =>
      simp only [beginning?, Phase.exchange] at step
      split at step
      · cases step
      · by_cases hstate : s.client.state = .disconnected
        · simp only [hstate, if_true] at step
          cases step
          cases h with
          | past _ _ past => exact .clearing rfl (past.of_eq rfl rfl)
          | live _ state =>
              rw [hstate] at state
              cases state
        · simp only [hstate, if_false] at step
          cases step
          exact h.of_calm rfl rfl rfl rfl rfl
  | clearing opened =>
      obtain ⟨state, past⟩ : s.client.state = .connecting ∧ s.Past telling := by
        cases h with
        | clearing state past => exact ⟨state, past⟩
        | past calm | live calm => cases calm
      simp only [beginning?] at step
      split at step
      · next hnone =>
          have hr := past.ended_of_no_record hnone
          obtain rfl := past.told.past_of_ended hr
          cases step
          exact .opening state hr
      · split at step
        · next hr =>
            obtain rfl := past.told.past_of_ended hr
            cases step
            exact .opening state hr
        · cases step
  | opening opened =>
      cases opened with
      | ok peer => exact absurd rfl (hopens peer)
      | error e =>
          simp only [beginning?] at step
          cases step
          cases h with
          | opening _ reader => exact .past rfl rfl (past_of_ended reader)
          | past calm | live calm => cases calm
  | telling => exact absurd rfl htells
  | releasing =>
      simp only [beginning?] at step
      cases step
      exact h.of_calm rfl rfl rfl rfl rfl
  | returned result => cases step

/-- The connecting call makes its next step. -/
theorem behaved_beginning {call next : Beginning} (h : Behaved config s (.connecting call) telling)
    (step : s.beginning? call = some (next, t)) :
    ∃ telling, Behaved config t (.ofBeginning next) telling := by
  obtain ⟨-, -, ⟨hsame, -⟩ | ⟨peer, rfl, rfl, rfl⟩ | ⟨rfl, rfl, rfl⟩⟩ := beginning?_cases step
  · refine ⟨telling, h.untouched hsame (h.stands.beginning step ?_ ?_)⟩
    · rintro peer rfl
      cases step
      exact absurd (congrArg List.length hsame.reads) (by simp [update])
    · rintro rfl
      cases step
      exact absurd (congrArg Array.size hsame.log) (by simp [update, Client.note])
  · have hpast : telling = .past := by
      cases h.stands with
      | opening => rfl
      | past calm | live calm => cases calm
    subst hpast
    refine ⟨.due, h.configured, h.callback, h.hangsUp, ?_, .due rfl rfl (Or.inl rfl) rfl, s.reads,
      rfl, h.logged⟩
    show FrameBuffer.empty s.client.config.delimiter = FrameBuffer.empty config.delimiter
    rw [h.configured]
  · cases h.stands with
    | due state record reader _ =>
        obtain ⟨before, hs, hlog⟩ := h.logged
        have hnone : s.undelivered = [] := by
          rcases reader with hr | hr
          · rw [undelivered, hr]
          · rw [undelivered, hr]
        have hfollows : s.Follows := by
          rcases reader with hr | hr
          · exact Or.inl (by rw [hr]; rfl)
          · exact Or.inr hr
        refine ⟨.begun, h.configured, h.callback, h.hangsUp, h.buffer,
          .live rfl state record hfollows, [], before, [], hs, ?_, hnone⟩
        show (s.client.log.push .connected).toList = _
        rw [Array.toList_push, hlog]
        rfl
    | past calm | live calm => cases calm

/-- How a client stands after a step of a disconnecting call that does not tell of the end. -/
theorem Stands.ending {call next : Ending} (h : s.Stands telling (.disconnecting call))
    (step : s.ending? false call = some (next, t)) (htells : call ≠ .telling) :
    t.Stands telling (.ofEnding next) := by
  cases call with
  | called =>
      simp only [ending?] at step
      split at step
      · cases step
        split <;> exact h.of_calm rfl rfl rfl rfl rfl
      · split at step
        · cases step
        · cases step
          exact h.of_calm rfl rfl rfl rfl rfl
  | looked =>
      simp only [ending?] at step
      split at step
      · cases step
      · cases step
        exact h.of_calm rfl rfl rfl rfl rfl
  | locked =>
      cases h with
      | past _ state past =>
          have hlost : Phase.exchange .connected .closing s.client.state
              = (false, s.client.state) := by
            rw [state]
            rfl
          simp only [ending?, hlost, Bool.not_false, Bool.and_true] at step
          split at step
          · cases step
            exact .past rfl state (past.of_eq rfl rfl)
          · cases step
            exact .lost state (past.of_eq rfl rfl)
      | live _ state record follows =>
          have hwon : Phase.exchange .connected .closing s.client.state = (true, .closing) := by
            rw [state]
            rfl
          simp only [ending?, hwon, Bool.not_true, Bool.and_false, Bool.false_eq_true, if_false]
            at step
          cases step
          exact .won rfl record follows
  | tried won =>
      simp only [ending?] at step
      split at step
      · cases step
        cases h with
        | won state _ follows => exact .stopping state follows
        | lost state past => exact .tidying state past.told
        | past calm | live calm => cases calm
      · next hnone =>
          cases h with
          | won _ record =>
              rw [hnone] at record
              cases record
          | lost state past =>
              simp only [Bool.false_eq_true, if_false] at step
              cases step
              exact .past rfl state (past.of_eq rfl rfl)
          | past calm | live calm => cases calm
  | waiting won =>
      simp only [ending?, Bool.or_false, decide_eq_true_eq] at step
      split at step
      · next hr =>
          cases h with
          | stopping =>
              simp only [if_true] at step
              cases step
              exact .cleared rfl hr
          | tidying state told =>
              simp only [Bool.false_eq_true, if_false] at step
              cases step
              obtain rfl := told.past_of_ended hr
              exact .past rfl state (past_of_ended hr)
          | past calm | live calm => cases calm
      · cases step
  | cleared =>
      simp only [ending?] at step
      cases step
      cases h with
      | cleared state reader => exact .telling state reader
      | past calm | live calm => cases calm
  | telling => exact absurd rfl htells
  | returned => cases step

/-- The disconnecting call makes its next step. -/
theorem behaved_ending {call next : Ending} (h : Behaved config s (.disconnecting call) telling)
    (step : s.ending? false call = some (next, t)) :
    ∃ telling, Behaved config t (.ofEnding next) telling := by
  obtain ⟨-, -, hsame | ⟨rfl, rfl, rfl⟩⟩ := ending?_cases step
  · refine ⟨telling, h.untouched hsame (h.stands.ending step ?_)⟩
    rintro rfl
    cases step
    exact absurd (congrArg Array.size hsame.log) (by simp [update, Client.note])
  · cases h.stands with
    | telling state reader =>
        exact ⟨.past, h.configured, h.callback, h.hangsUp, h.buffer,
          .past rfl state (past_of_ended reader),
          h.logged.close (by rw [undelivered, reader]) rfl rfl⟩
    | past calm | live calm => cases calm

/-! ### Calls that come and go -/

theorem Stands.of_eq (hstands : s.Stands telling turn) (hclient : t.client = s.client)
    (hreader : t.reader = s.reader) (hreleased : t.released = s.released) :
    t.Stands telling turn := by
  have hstate : t.client.state = s.client.state := by
    rw [hclient]
  have hrecord : t.client.connection = s.client.connection := by
    rw [hclient]
  have hfollows : s.Follows → t.Follows := by
    rw [Follows, Follows, hreader]
    exact id
  have htold : s.Told telling → t.Told telling := by
    rw [Told, Told, hreader]
    exact id
  cases hstands with
  | past calm state past => exact .past calm (hstate.trans state) (past.of_eq hreader hrecord)
  | live calm state record follows =>
      exact .live calm (hstate.trans state) (hrecord ▸ record) (hfollows follows)
  | clearing state past => exact .clearing (hstate.trans state) (past.of_eq hreader hrecord)
  | opening state reader => exact .opening (hstate.trans state) (hreader.trans reader)
  | due state record reader released =>
      exact .due (hstate.trans state) (hrecord ▸ record) (hreader ▸ reader)
        (hreleased.trans released)
  | won state record follows =>
      exact .won (hstate.trans state) (hrecord ▸ record) (hfollows follows)
  | lost state past => exact .lost (hstate.trans state) (past.of_eq hreader hrecord)
  | stopping state follows => exact .stopping (hstate.trans state) (hfollows follows)
  | tidying state told => exact .tidying (hstate.trans state) (htold told)
  | cleared state reader => exact .cleared (hstate.trans state) (hreader.trans reader)
  | telling state reader => exact .telling (hstate.trans state) (hreader.trans reader)

/-- The calls that have returned are of no account. -/
theorem Behaved.with_calls (h : Behaved config s turn telling) (beginnings : List Beginning)
    (endings : List Ending) :
    Behaved config { s with beginnings, endings } turn telling :=
  ⟨h.configured, h.callback, h.hangsUp, h.buffer, h.stands.of_eq rfl rfl rfl, h.logged⟩

/-- A call that has returned is not under way. -/
theorem Stands.ne_returned (hstands : s.Stands telling turn) :
    (∀ result, turn ≠ .connecting (.returned result)) ∧ turn ≠ .disconnecting .returned := by
  constructor
  · rintro result rfl
    cases hstands with
    | past calm | live calm => cases calm
  · rintro rfl
    cases hstands with
    | past calm | live calm => cases calm

/-- A client on which nothing has been called. -/
theorem behaved_start (kind : EngineKind) (config : EngineConfig) :
    Behaved config (start kind config) .nobody .past :=
  ⟨rfl, rfl, rfl, rfl, .past rfl rfl (past_of_ended rfl), rfl⟩

end ClientCalls

end Interleaving

end Lifecast
