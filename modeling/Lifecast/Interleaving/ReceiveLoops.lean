/-
A client and the receive loops of all its connections.

Each connection is read by a loop of its own.  A loop hands out the frames of one read
after the other and looks between two reads whether it is to end.  A call that ends the
connection waits for its loop.  It cannot if it is made by the callback of that very
loop.  The engines whose loops are tasks of a reactor wait through its executor, which
refuses on every thread that runs tasks, in callbacks as elsewhere
(`Executor.blockOn`), and gives up after a while.  A call that does not wait any longer
goes on (`LoopMove.giveUp`), the loop ends by itself, and by the time it does the client
may have another connection.

`Lifecast.Interleaving.ClientCalls` follows one loop at a time, and its calls wait.  Here
there are as many loops as there were connections, and a callback may make any calls, one
after the other.  As long as calls are made in turn and wait, the two systems agree
(`Lifecast.Proofs.Client.Mirror`).

With nothing in between, a first call to `connect` does what `Client.connect` says
(`play_joinMoves`), a read does what `Client.receive` says, on whatever frames the callback
ends the connection (`play_receive`), and a call that it makes for that does what
`Client.disconnect` says (`play_hangUpMoves`).
-/
import Lifecast.Interleaving.ClientCalls

namespace Lifecast

/-- May a call that ends a connection go on although its loop has not ended, because the
wait is refused or has taken too long?  `own` says that the call is made by a callback of
that loop. -/
def EngineKind.mayGiveUp (own : Bool) : EngineKind → Bool
  | .pooledMulticast => own
  | .multicast | .webSocket => true

namespace Interleaving

/-- What a receive loop is doing. -/
inductive LoopPlace where
  /-- It waits to be let go. -/
  | held
  /-- It has nothing in hand. -/
  | idle
  /-- It has seen that it is not to end, and waits for something to read. -/
  | awaiting
  /-- It hands out these frames. -/
  | handing (rest : List Bytes)
  /-- It is in the callback for a frame, with these frames left. -/
  | inCallback (rest : List Bytes)
  /-- It has noticed that the other side has closed. -/
  | noticed
  /-- It has ended this connection and has yet to tell. -/
  | telling (connection : Option Nat)
  /-- It has ended. -/
  | ended
deriving DecidableEq, Repr

/-- The frames that a loop has in hand. -/
def LoopPlace.rest : LoopPlace → List Bytes
  | handing rest | inCallback rest => rest
  | _ => []

/-- Has a loop yet to tell the end of a connection? -/
def LoopPlace.isTelling : LoopPlace → Bool
  | telling _ => true
  | held | idle | awaiting | handing _ | inCallback _ | noticed | ended => false

/-- The receive loop of a connection. -/
structure ReceiveLoop where
  /-- What it is doing. -/
  place : LoopPlace := .held
  /-- Its buffer. -/
  buffer : FrameBuffer
  /-- May it go? -/
  released : Bool := false
  /-- Is it to end? -/
  cancelled : Bool := false
deriving DecidableEq, Repr

/-- Who tells that a connection has ended. -/
inductive Farewell where
  /-- A call, by the callback of a loop or from outside, which had waited until the receive
  loop of the connection ended or had not. -/
  | call (caller : Option Nat) (waited : Bool)
  /-- A receive loop that noticed the other side closed, its own or that of another
  connection. -/
  | loop (own : Bool)
deriving DecidableEq, Repr

/-- Has the receive loop of the connection ended by then? -/
def Farewell.isLast : Farewell → Bool
  | call _ waited => waited
  | loop own => own

/-- What a client is told, with the connection it is told of, and what its loops read. -/
inductive LoopEvent where
  /-- A connection was made. -/
  | connected (connection : Nat)
  /-- Some bytes were read, which nobody is told. -/
  | read (connection : Nat) (chunk : Bytes)
  /-- A frame arrived. -/
  | frame (connection : Nat) (frame : Bytes)
  /-- A connection ended. -/
  | disconnected (connection : Option Nat) (farewell : Farewell)
deriving DecidableEq, Repr

/-- Where a call to `connect` has got to. -/
inductive Joining where
  /-- Nothing has been done; opening a connection will come to this. -/
  | called (opened : Except EngineError Unit)
  /-- It is the one that connects, and holds the lock. -/
  | clearing (opened : Except EngineError Unit)
  /-- Nothing is left of the connection before, and it holds the lock. -/
  | opening (opened : Except EngineError Unit)
  /-- It has made a connection, has given back the lock, and has yet to tell. -/
  | telling (connection : Nat)
  /-- It has told, and the loop has yet to be let go. -/
  | releasing (connection : Nat)
  /-- It has returned. -/
  | returned (result : Except EngineError Unit)

/-- Where a call to `disconnect` has got to. -/
inductive Leaving where
  /-- Nothing has been done. -/
  | called
  /-- It has seen the client connected, without the lock. -/
  | looked
  /-- It holds the lock. -/
  | locked
  /-- It has tried to be the one that closes, and still holds the lock. -/
  | tried (won : Bool)
  /-- It has taken a connection, holds the lock, and waits for its loop. -/
  | waiting (won : Bool) (connection : Nat)
  /-- Nothing is left of the connection, and it holds the lock. -/
  | cleared (connection : Option Nat) (farewell : Farewell)
  /-- It has given back the lock and has yet to tell that the connection ended. -/
  | telling (connection : Option Nat) (farewell : Farewell)
  /-- It has returned. -/
  | returned
deriving DecidableEq, Repr

/-- A call, with the loop in whose callback it is made; `none` for calls from outside. -/
structure MadeBy (α : Type) where
  caller : Option Nat
  place : α
deriving DecidableEq, Repr

/-- A client, its receive loops and all calls. -/
structure ReceiveLoops where
  /-- The engine. -/
  kind : EngineKind
  /-- The byte that ends a frame. -/
  delimiter : UInt8
  /-- Where the client stands. -/
  state : ConnectionState := .disconnected
  /-- Does a call hold the lock? -/
  locked : Bool := false
  /-- Its connection, by number. -/
  record : Option Nat := none
  /-- The receive loops of all connections ever made, in order. -/
  loops : List ReceiveLoop := []
  /-- The calls to `connect`. -/
  joins : List (MadeBy Joining) := []
  /-- The calls to `disconnect`. -/
  leaves : List (MadeBy Leaving) := []
  /-- What has happened, in order. -/
  log : List LoopEvent := []

/-- A step of one of the threads. -/
inductive LoopMove where
  /-- A call to `connect`, by the callback of a loop or from outside; opening a connection
  will come to this. -/
  | callConnect (caller : Option Nat) (opened : Except EngineError Unit)
  /-- Connecting call `i` makes its next step. -/
  | connect (i : Nat)
  /-- A call to `disconnect`, by the callback of a loop or from outside. -/
  | callDisconnect (caller : Option Nat)
  /-- Disconnecting call `i` makes its next step. -/
  | disconnect (i : Nat)
  /-- Disconnecting call `i` does not wait any longer. -/
  | giveUp (i : Nat)
  /-- Loop `k` goes on, where it has no choice. -/
  | goOn (k : Nat)
  /-- Loop `k` reads some bytes. -/
  | read (k : Nat) (chunk : Bytes)
  /-- Loop `k` finds that it is to end. -/
  | seeCancelled (k : Nat)
  /-- Loop `k` notices that the other side has closed. -/
  | notice (k : Nat)

namespace ReceiveLoops

/-- A client on which nothing has been called. -/
def start (kind : EngineKind) (delimiter : UInt8) : ReceiveLoops :=
  { kind, delimiter }

/-- Note an event down. -/
def note (s : ReceiveLoops) (e : LoopEvent) : ReceiveLoops :=
  { s with log := s.log ++ [e] }

/-- Tell a loop to end. -/
def cancel (s : ReceiveLoops) (k : Nat) : ReceiveLoops :=
  { s with loops := s.loops.modify k fun loop => { loop with cancelled := true } }

/-- Let a loop go. -/
def release (s : ReceiveLoops) (k : Nat) : ReceiveLoops :=
  { s with loops := s.loops.modify k fun loop => { loop with released := true } }

/-- Has a loop ended? -/
def hasEnded (s : ReceiveLoops) (k : Nat) : Bool :=
  s.loops[k]?.any (·.place = .ended)

/-- Is a loop in a callback? -/
def inCallback (s : ReceiveLoops) (k : Nat) : Bool :=
  s.loops[k]?.any fun loop => match loop.place with
    | .inCallback _ => true
    | _ => false

/-- Is a call under way that the callback of a loop has made? -/
def isCalling (s : ReceiveLoops) (k : Nat) : Bool :=
  (s.leaves.any fun call => call.caller = some k && call.place ≠ .returned)
    || s.joins.any fun call => call.caller = some k && match call.place with
      | .returned _ => false
      | _ => true

/-- May a call be made?  A callback makes one call at a time. -/
def mayCall (s : ReceiveLoops) : Option Nat → Bool
  | none => true
  | some k => s.inCallback k && !s.isCalling k

/-- What a call to `disconnect` does when it has waited, or has given up. -/
def afterWait (s : ReceiveLoops) (caller : Option Nat) (won : Bool) (k : Nat) (waited : Bool) :
    Leaving × ReceiveLoops :=
  if won then (.cleared (some k) (.call caller waited), { s with state := .disconnected })
  else (.returned, { s with locked := false })

/-- The next step of a call to `disconnect`, if it need not wait. -/
def leave? (s : ReceiveLoops) (caller : Option Nat) : Leaving → Option (Leaving × ReceiveLoops)
  | .called =>
    if s.kind.looksFirst then some (if s.state = .connected then .looked else .returned, s)
    else if s.locked then none
    else some (.locked, { s with locked := true })
  | .looked => if s.locked then none else some (.locked, { s with locked := true })
  | .locked =>
    let (won, state) := Phase.exchange .connected .closing s.state
    if s.kind.looksFirst && !won then some (.returned, { s with state, locked := false })
    else some (.tried won, { s with state })
  | .tried won =>
    match s.record with
    | some k => some (.waiting won k, { s.cancel k with record := none })
    | none =>
      if won then some (.cleared none (.call caller true), { s with state := .disconnected })
      else some (.returned, { s with locked := false })
  | .waiting won k => if s.hasEnded k then some (s.afterWait caller won k true) else none
  | .cleared connection farewell => some (.telling connection farewell, { s with locked := false })
  | .telling connection farewell => some (.returned, s.note (.disconnected connection farewell))
  | .returned => none

/-- What a call to `disconnect` does when it gives up waiting, if it may. -/
def giveUp? (s : ReceiveLoops) (caller : Option Nat) : Leaving → Option (Leaving × ReceiveLoops)
  | .waiting won k =>
    if s.kind.mayGiveUp (caller = some k) then some (s.afterWait caller won k false) else none
  | _ => none

/-- The next step of a call to `connect`, if it need not wait for the lock.  What is left
of a connection that the other side closed is told to end. -/
def join? (s : ReceiveLoops) : Joining → Option (Joining × ReceiveLoops)
  | .called opened =>
    if s.locked then none
    else
      match Phase.exchange .disconnected .connecting s.state with
      | (false, _) => some (.returned (.error .alreadyConnected), s)
      | (true, state) => some (.clearing opened, { s with state, locked := true })
  | .clearing opened =>
    match s.record with
    | none => some (.opening opened, s)
    | some k => some (.opening opened, { s.cancel k with record := none })
  | .opening (.error e) =>
    some (.returned (.error e), { s with state := .disconnected, locked := false })
  | .opening (.ok ()) =>
    some (.telling s.loops.length, { s with
      state := .connected, locked := false, record := some s.loops.length
      loops := s.loops ++ [{ buffer := .empty s.delimiter }] })
  | .telling k => some (.releasing k, s.note (.connected k))
  | .releasing k => some (.returned (.ok ()), s.release k)
  | .returned _ => none

/-- Put a loop in another place. -/
def put (s : ReceiveLoops) (k : Nat) (loop : ReceiveLoop) (place : LoopPlace) : ReceiveLoops :=
  { s with loops := s.loops.set k { loop with place } }

/-- A loop goes on, where it has no choice. -/
def goOn? (s : ReceiveLoops) (k : Nat) (loop : ReceiveLoop) : Option ReceiveLoops :=
  match loop.place with
  | .held => if loop.released then some (s.put k loop .idle) else none
  | .idle =>
    if s.kind = .pooledMulticast && !loop.cancelled then some (s.put k loop .awaiting) else none
  | .awaiting => some (s.put k loop .idle)
  | .handing [] => some (s.put k loop .idle)
  | .handing (frame :: rest) => some ((s.put k loop (.inCallback rest)).note (.frame k frame))
  | .inCallback rest => if s.isCalling k then none else some (s.put k loop (.handing rest))
  | .noticed =>
    let (won, state) := Phase.exchange .connected .disconnected s.state
    some { s.put k loop (if won then .telling s.record else .ended) with state }
  | .telling connection =>
    some ((s.put k loop .ended).note
      (.disconnected connection (.loop (connection = some k))))
  | .ended => none

/-- May a loop read?  The pooled engine's looks before each read whether it is to end; the
others are woken by either. -/
def mayRead (kind : EngineKind) (place : LoopPlace) : Bool :=
  match kind with
  | .pooledMulticast => place = .awaiting
  | .multicast | .webSocket => place = .idle

/-- May a loop find that it is to end?  Tasks of a reactor may be told so wherever they
wait for something. -/
def maySee (kind : EngineKind) (place : LoopPlace) : Bool :=
  match kind with
  | .pooledMulticast => place = .idle
  | .multicast | .webSocket => place = .held || place = .idle || place = .noticed

/-- A move of a loop. -/
def loopMove? (s : ReceiveLoops) (k : Nat) (loop : ReceiveLoop) : LoopMove → Option ReceiveLoops
  | .goOn _ => s.goOn? k loop
  | .read _ chunk =>
    if mayRead s.kind loop.place then
      let (buffer, frames) := loop.buffer.feed chunk
      some ((s.put k { loop with buffer } (.handing frames)).note (.read k chunk))
    else none
  | .seeCancelled _ =>
    if loop.cancelled && maySee s.kind loop.place then some (s.put k loop .ended) else none
  | .notice _ =>
    if s.kind.noticesClose && loop.place = .idle then some (s.put k loop .noticed) else none
  | _ => none

/-- Let loop `k` make a move, if there is such a loop. -/
def withLoop (s : ReceiveLoops) (k : Nat) (m : LoopMove) : Option ReceiveLoops :=
  match s.loops[k]? with
  | none => none
  | some loop => s.loopMove? k loop m

/-- Let disconnecting call `i` make a step. -/
def withLeave (s : ReceiveLoops) (i : Nat)
    (step : MadeBy Leaving → Option (Leaving × ReceiveLoops)) : Option ReceiveLoops :=
  match s.leaves[i]? with
  | none => none
  | some call =>
    match step call with
    | none => none
    | some (place, s) => some { s with leaves := s.leaves.set i { call with place } }

/-- Make a move. -/
def move? (s : ReceiveLoops) (m : LoopMove) : Option ReceiveLoops :=
  match m with
  | .callConnect caller opened =>
    if s.mayCall caller then some { s with joins := s.joins ++ [⟨caller, .called opened⟩] } else none
  | .connect i =>
    match s.joins[i]? with
    | none => none
    | some call =>
      match s.join? call.place with
      | none => none
      | some (place, s) => some { s with joins := s.joins.set i { call with place } }
  | .callDisconnect caller =>
    if s.mayCall caller then some { s with leaves := s.leaves ++ [⟨caller, .called⟩] } else none
  | .disconnect i => s.withLeave i fun call => s.leave? call.caller call.place
  | .giveUp i => s.withLeave i fun call => s.giveUp? call.caller call.place
  | .goOn k | .read k _ | .seeCancelled k | .notice k => s.withLoop k m

/-! ### Reads and calls that nothing comes between -/

end ReceiveLoops

/-- An event as the log of a client has it. -/
def LoopEvent.told? : LoopEvent → Option ClientEvent
  | connected _ => some .connected
  | read _ _ => none
  | frame _ bytes => some (.frame "" bytes)
  | disconnected _ _ => some .disconnected

namespace ReceiveLoops

/-- The client is the one that the engines run, and nobody acts on it but loop `k`. -/
structure Shows (s : ReceiveLoops) (k : Nat) (c : Client) : Prop where
  free : s.locked = false
  quiet : s.isCalling k = false
  state : s.state = c.state
  record : s.record = if c.state = .connected then some k else none
  there : c.connection.isSome = true ↔ c.state = .connected
  told : s.log.filterMap LoopEvent.told? = c.log.toList
  mark : c.callback.mark = ""

/-- The moves of a first call to `connect` and of the loop of the connection, which then may
read. -/
def joinMoves (kind : EngineKind) : List LoopMove :=
  .callConnect none (.ok ()) :: List.replicate 5 (.connect 0)
    ++ List.replicate (if kind = .pooledMulticast then 2 else 1) (.goOn 0)

/-- With nothing in between, such a call does what `Client.connect` does. -/
theorem play_joinMoves (kind : EngineKind) (config : EngineConfig) (peer : Peer) :
    ∃ t loop, play move? (start kind config.delimiter) (joinMoves kind) = some t ∧
      t.Shows 0 (Client.connect { config } (.ok peer)).2 ∧ t.loops[0]? = some loop ∧
      mayRead t.kind loop.place = true ∧
      (Client.connect { config } (.ok peer)).2.connection = some { peer, buffer := loop.buffer } := by
  cases kind <;>
    exact ⟨_, _, rfl, ⟨rfl, rfl, rfl, rfl, iff_of_true rfl rfl, rfl, rfl⟩, rfl, rfl, rfl⟩

/-- The moves of a call to `disconnect` that the callback of loop `k` makes, when `n` calls
have been made before. -/
def hangUpMoves (kind : EngineKind) (k n : Nat) (connected : Bool) : List LoopMove :=
  .callDisconnect (some k) ::
    if connected then
      List.replicate (if kind.looksFirst then 4 else 3) (.disconnect n)
        ++ .giveUp n :: List.replicate 2 (.disconnect n)
    else List.replicate (if kind.looksFirst then 1 else 3) (.disconnect n)

/-- With nothing in between, such a call does what `Client.disconnect` does. -/
theorem play_hangUpMoves {s : ReceiveLoops} {k : Nat} {c : Client} {loop : ReceiveLoop}
    {rest : List Bytes} (shown : s.Shows k c) (there : s.loops[k]? = some loop)
    (inside : loop.place = .inCallback rest) :
    ∃ t, play move? s (hangUpMoves s.kind k s.leaves.length c.isConnected) = some t ∧
      t.Shows k c.disconnect ∧ ∃ loop, t.loops[k]? = some loop ∧ loop.place = .inCallback rest := by
  obtain ⟨free, quiet, state, record, isThere, told, mark⟩ := shown
  have may : s.mayCall (some k) = true := by
    simp [mayCall, inCallback, there, inside, quiet]
  have done : ∀ t : ReceiveLoops, t.leaves = s.leaves ++ [⟨some k, .returned⟩] →
      t.joins = s.joins → t.isCalling k = false := by
    intro t leaves joins
    simpa [isCalling, leaves, joins] using quiet
  by_cases connected : c.state = .connected
  · rw [if_pos connected] at record
    rw [connected] at state
    refine ⟨{ s.cancel k with
      state := .disconnected, record := none
      leaves := s.leaves ++ [⟨some k, .returned⟩]
      log := s.log ++ [.disconnected (some k) (.call (some k) false)] }, ?_,
      ⟨?_, ?_, ?_, ?_, ?_, ?_, ?_⟩, ?_⟩
    · cases kind : s.kind <;>
        simp [hangUpMoves, Client.isConnected, connected, EngineKind.looksFirst, List.replicate,
          play, move?, withLeave, leave?, giveUp?, EngineKind.mayGiveUp, kind, may, free, state,
          record, Phase.exchange, afterWait, note, cancel]
    · exact free
    · exact done _ rfl rfl
    · simp [Client.disconnect, Phase.exchange, connected, Client.note]
    · simp [Client.disconnect, Phase.exchange, connected, Client.note]
    · simp [Client.disconnect, Phase.exchange, connected, Client.note]
    · simp [Client.disconnect, Phase.exchange, connected, Client.note, told, LoopEvent.told?]
    · simpa [Client.disconnect, Phase.exchange, connected, Client.note] using mark
    · exact ⟨{ loop with cancelled := true }, by simp [cancel, there], inside⟩
  · rw [if_neg connected] at record
    have closed : s.state ≠ .connected := fun e => connected (state.symm.trans e)
    refine ⟨{ s with leaves := s.leaves ++ [⟨some k, .returned⟩] }, ?_,
      ⟨free, done _ rfl rfl, ?_, ?_, ?_, ?_, ?_⟩, loop, there, inside⟩
    · cases kind : s.kind <;>
        simp [hangUpMoves, Client.isConnected, connected, EngineKind.looksFirst, List.replicate,
          play, move?, withLeave, leave?, kind, may, free, closed, record, Phase.exchange]
    · simp [Client.disconnect, Phase.exchange, connected, state]
    · simp [Client.disconnect, Phase.exchange, connected, record]
    · simp [Client.disconnect, Phase.exchange, connected]
    · simp [Client.disconnect, Phase.exchange, connected, told]
    · simpa [Client.disconnect, Phase.exchange, connected] using mark

/-- Does the callback do nothing but end the connection on some frames? -/
def onlyHangsUp (c : Client) : Bool :=
  c.callback.reactions.all (·.2 = .disconnect)

/-- What the callback for a frame does. -/
theorem deliver_eq {c : Client} (only : onlyHangsUp c = true) (reopened : Except EngineError Peer)
    (frame : Bytes) :
    c.deliver reopened frame = c.note (.frame c.callback.mark frame) ∨
      c.deliver reopened frame = (c.note (.frame c.callback.mark frame)).disconnect := by
  cases found : c.callback.reactions.lookup frame with
  | none => exact Or.inl (by simp [Client.deliver, Client.note, found])
  | some reaction =>
    have member : (frame, reaction) ∈ c.callback.reactions := by
      obtain ⟨before, after, split, -⟩ := List.lookup_eq_some_iff.mp found
      simp [split]
    have hangs : reaction = .disconnect := by
      simpa using List.all_eq_true.mp only _ member
    exact Or.inr (by simp [Client.deliver, Client.note, found, hangs])

theorem callback_disconnect (c : Client) : c.disconnect.callback = c.callback := by
  cases c with
  | mk config state connection callback log =>
    cases state <;> simp [Client.disconnect, Phase.exchange, Client.note]

/-- A callback that has made its calls returns. -/
theorem play_return {s : ReceiveLoops} {k : Nat} {c : Client} {loop : ReceiveLoop}
    {rest : List Bytes} (shown : s.Shows k c) (there : s.loops[k]? = some loop)
    (inside : loop.place = .inCallback rest) :
    ∃ t loop, s.move? (.goOn k) = some t ∧ t.Shows k c ∧ t.loops[k]? = some loop ∧
      loop.place = .handing rest := by
  have bound : k < s.loops.length := (List.getElem?_eq_some_iff.mp there).1
  refine ⟨s.put k loop (.handing rest), { loop with place := .handing rest }, ?_, { shown with },
    ?_, rfl⟩
  · simp [move?, withLoop, there, loopMove?, goOn?, inside, shown.quiet]
  · simp [put, bound]

/-- With nothing in between, a loop hands out its frames as `Client.deliver` does. -/
theorem play_handing (reopened : Except EngineError Peer) (k : Nat) (frames : List Bytes)
    {s : ReceiveLoops} {c : Client} {loop : ReceiveLoop} (shown : s.Shows k c)
    (there : s.loops[k]? = some loop) (handing : loop.place = .handing frames)
    (only : onlyHangsUp c = true) :
    ∃ moves t, play move? s moves = some t ∧ t.Shows k (frames.foldl (·.deliver reopened) c) := by
  induction frames generalizing s c loop with
  | nil => exact ⟨[], s, rfl, shown⟩
  | cons frame rest ih =>
    have inside : k < s.loops.length := (List.getElem?_eq_some_iff.mp there).1
    let told : ReceiveLoops := (s.put k loop (.inCallback rest)).note (.frame k frame)
    have goes : s.move? (.goOn k) = some told := by
      simp [move?, withLoop, there, loopMove?, goOn?, handing, told]
    have toldShown : told.Shows k (c.note (.frame c.callback.mark frame)) :=
      { shown with
        told := by
          simp [told, note, put, Client.note, shown.told, LoopEvent.told?, shown.mark] }
    have toldThere : told.loops[k]? = some { loop with place := .inCallback rest } := by
      simp [told, note, put, inside]
    rw [List.foldl_cons]
    rcases deliver_eq only reopened frame with plain | hangs
    · obtain ⟨t, loop, returns, shown, there, handing⟩ := play_return toldShown toldThere rfl
      obtain ⟨moves, u, played, final⟩ := ih shown there handing only
      refine ⟨.goOn k :: .goOn k :: moves, u, ?_, plain ▸ final⟩
      simp only [play, goes, returns, played]
    · obtain ⟨v, hung, shown, loop, there, inside⟩ := play_hangUpMoves toldShown toldThere rfl
      obtain ⟨t, loop, returns, shown, there, handing⟩ := play_return shown there inside
      have only : onlyHangsUp (c.note (.frame c.callback.mark frame)).disconnect = true := by
        rw [onlyHangsUp, callback_disconnect]
        exact only
      obtain ⟨moves, u, played, final⟩ := ih shown there handing only
      let calls := hangUpMoves told.kind k told.leaves.length
        (c.note (.frame c.callback.mark frame)).isConnected
      refine ⟨.goOn k :: (calls ++ .goOn k :: moves), u, ?_, hangs ▸ final⟩
      rw [play, goes]
      simp only [calls, play_append, hung, Option.bind_some, play, returns, played]

/-- With nothing in between, a read and all that the callback does about its frames is what
`Client.receive` says: also when the callback ends the connection, the frames behind are
still handed out. -/
theorem play_receive (reopened : Except EngineError Peer) {s : ReceiveLoops} {k : Nat}
    {c : Client} {loop : ReceiveLoop} {peer : Peer} (shown : s.Shows k c)
    (there : s.loops[k]? = some loop) (ready : mayRead s.kind loop.place = true)
    (reads : c.connection = some { peer, buffer := loop.buffer }) (only : onlyHangsUp c = true)
    (chunk : Bytes) :
    ∃ moves t, play move? s moves = some t ∧ t.Shows k (c.receive reopened chunk) := by
  have bound : k < s.loops.length := (List.getElem?_eq_some_iff.mp there).1
  let buffer := (loop.buffer.feed chunk).1
  let frames := (loop.buffer.feed chunk).2
  let read : ReceiveLoops :=
    (s.put k { loop with buffer } (.handing frames)).note (.read k chunk)
  have goes : s.move? (.read k chunk) = some read := by
    simp [move?, withLoop, there, loopMove?, ready, read, buffer, frames]
  have readShown : read.Shows k { c with connection := some { peer, buffer } } :=
    { shown with
      there := by
        rw [← shown.there, reads]
        rfl
      told := by simp [read, note, put, shown.told, LoopEvent.told?] }
  have readThere : read.loops[k]? = some { loop with place := .handing frames, buffer } := by
    simp [read, note, put, bound]
  obtain ⟨moves, t, played, final⟩ := play_handing reopened k frames readShown readThere rfl only
  refine ⟨.read k chunk :: moves, t, ?_, ?_⟩
  · rw [play, goes]
    exact played
  · simpa [Client.receive, reads, buffer, frames] using final

end ReceiveLoops

end Interleaving

end Lifecast
