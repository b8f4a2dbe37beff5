/-
A client between its reader and those who call it.

A connection is read by a thread of its own, the reader.  It is held back until the
callback for the connection has returned, hands out the frames of one read after the
other, and ends when it is cancelled.  A reader of the connection engine also ends when
the other side has closed, and then tells so itself, if nobody else has begun to end
the connection.

Calls take a lock, all but a look at the phase: the multicast engines look whether the
client is connected before `disconnect` waits for the lock.  A call that ends the
connection waits for the reader while it holds the lock, unless it is made by the
reader itself.  Every such wait takes place here and lasts as long as it has to, as it
does in the pooled engine, whose reader is a thread.  The other engines wait through an
executor, which may refuse; `Lifecast.Interleaving.ReceiveLoops` has that as a move.

With nothing in between, calls come to what `Client.connect` and `Client.disconnect`
say (`play_connectMoves`, `play_disconnectMoves`).
-/
import Lifecast.Engine.Client
import Lifecast.Engine.Kind
import Lifecast.Interleaving.Basic

namespace Lifecast

/-- Does `disconnect` look at the phase before it waits for the lock? -/
def EngineKind.looksFirst : EngineKind → Bool
  | .webSocket => false
  | .multicast | .pooledMulticast => true

/-- Does a reader notice that the other side has closed? -/
def EngineKind.noticesClose : EngineKind → Bool
  | .webSocket => true
  | .multicast | .pooledMulticast => false

namespace Interleaving

/-- Where a call to `disconnect` has got to. -/
inductive Ending where
  /-- Nothing has been done. -/
  | called
  /-- It has seen the client connected, without the lock. -/
  | looked
  /-- It holds the lock. -/
  | locked
  /-- It has tried to be the one that closes, and still holds the lock. -/
  | tried (won : Bool)
  /-- It has taken the connection, holds the lock, and waits for the reader. -/
  | waiting (won : Bool)
  /-- Nothing is left of the connection, and it holds the lock. -/
  | cleared
  /-- It has given back the lock and has yet to tell that the connection ended. -/
  | telling
  /-- It has returned. -/
  | returned
deriving DecidableEq, Repr

/-- Where a call to `connect` has got to. -/
inductive Beginning where
  /-- Nothing has been done; opening a connection will come to this. -/
  | called (opened : Except EngineError Peer)
  /-- It is the one that connects, holds the lock, and waits for the reader of the
  connection before. -/
  | clearing (opened : Except EngineError Peer)
  /-- Nothing is left of that connection, and it holds the lock. -/
  | opening (opened : Except EngineError Peer)
  /-- It is connected, has given back the lock, and has yet to tell. -/
  | telling
  /-- It has told, and the reader has yet to be let go. -/
  | releasing
  /-- It has returned. -/
  | returned (result : Except EngineError Unit)

/-- What the reader is doing. -/
inductive Reader where
  /-- It waits to be let go. -/
  | held
  /-- It reads. -/
  | reading
  /-- It hands out these frames. -/
  | delivering (rest : List Bytes)
  /-- It is in a callback that has called `disconnect`, with these frames left. -/
  | calling (call : Ending) (rest : List Bytes)
  /-- It has noticed that the other side has closed. -/
  | noticed
  /-- It has ended the connection and has yet to tell. -/
  | telling
  /-- It has ended. -/
  | ended
deriving DecidableEq, Repr

/-- A client, its reader and the calls made from outside. -/
structure ClientCalls where
  /-- The engine. -/
  kind : EngineKind
  /-- The client. -/
  client : Client
  /-- Does a call hold the lock? -/
  locked : Bool := false
  /-- The reader of the last connection. -/
  reader : Reader := .ended
  /-- May it go? -/
  released : Bool := false
  /-- Is it to end? -/
  cancelled : Bool := false
  /-- Its buffer. -/
  buffer : FrameBuffer
  /-- Does the callback for a frame call `disconnect`? -/
  hangsUp : Bytes → Bool := fun _ => false
  /-- The calls to `connect`. -/
  beginnings : List Beginning := []
  /-- The calls to `disconnect`. -/
  endings : List Ending := []
  /-- What was read of each connection, newest first. -/
  reads : List (List Bytes) := []

/-- A step of one of the threads. -/
inductive ClientMove where
  /-- A thread calls `connect`; opening a connection will come to this. -/
  | callConnect (opened : Except EngineError Peer)
  /-- Connecting call `i` makes its next step. -/
  | connect (i : Nat)
  /-- A thread calls `disconnect`. -/
  | callDisconnect
  /-- Disconnecting call `i` makes its next step. -/
  | disconnect (i : Nat)
  /-- The reader goes on, where it has no choice. -/
  | goOn
  /-- The reader reads some bytes. -/
  | read (chunk : Bytes)
  /-- The reader finds that it is to end. -/
  | seeCancelled
  /-- The reader notices that the other side has closed. -/
  | notice

namespace ClientCalls

/-- A client on which nothing has been called. -/
def start (kind : EngineKind) (config : EngineConfig) : ClientCalls :=
  { kind, client := { config }, buffer := .empty config.delimiter }

/-- Change the client. -/
def update (s : ClientCalls) (f : Client → Client) : ClientCalls :=
  { s with client := f s.client }

/-- The next step of a call to `disconnect`, if it need not wait.  `fromReader` says
that the reader makes the call. -/
def ending? (s : ClientCalls) (fromReader : Bool) : Ending → Option (Ending × ClientCalls)
  | .called =>
    if s.kind.looksFirst then
      some (if s.client.isConnected then .looked else .returned, s)
    else if s.locked then none
    else some (.locked, { s with locked := true })
  | .looked => if s.locked then none else some (.locked, { s with locked := true })
  | .locked =>
    let (won, state) := Phase.exchange .connected .closing s.client.state
    let s := s.update fun c => { c with state }
    if s.kind.looksFirst && !won then some (.returned, { s with locked := false })
    else some (.tried won, s)
  | .tried won =>
    match s.client.connection with
    | some _ =>
      some (.waiting won, { s.update fun c => { c with connection := none } with cancelled := true })
    | none =>
      if won then some (.cleared, s.update fun c => { c with state := .disconnected })
      else some (.returned, { s with locked := false })
  | .waiting won =>
    if s.reader = .ended || fromReader then
      if won then some (.cleared, s.update fun c => { c with state := .disconnected })
      else some (.returned, { s with locked := false })
    else none
  | .cleared => some (.telling, { s with locked := false })
  | .telling => some (.returned, s.update (·.note .disconnected))
  | .returned => none

/-- The next step of a call to `connect`, if it need not wait. -/
def beginning? (s : ClientCalls) : Beginning → Option (Beginning × ClientCalls)
  | .called opened =>
    if s.locked then none
    else
      match Phase.exchange .disconnected .connecting s.client.state with
      | (false, _) => some (.returned (.error .alreadyConnected), s)
      | (true, state) =>
        some (.clearing opened, { s.update fun c => { c with state } with locked := true })
  | .clearing opened =>
    match s.client.connection with
    | none => some (.opening opened, s)
    | some _ =>
      if s.reader = .ended then
        some (.opening opened, s.update fun c => { c with connection := none })
      else none
  | .opening (.error e) =>
    let s := s.update fun c => { c with state := .disconnected }
    some (.returned (.error e), { s with locked := false })
  | .opening (.ok peer) =>
    let buffer := FrameBuffer.empty s.client.config.delimiter
    let s := s.update fun c => { c with state := .connected, connection := some { peer, buffer } }
    some (.telling, { s with
      locked := false, reader := .held, released := false, cancelled := false, buffer
      reads := [] :: s.reads })
  | .telling => some (.releasing, s.update (·.note .connected))
  | .releasing => some (.returned (.ok ()), { s with released := true })
  | .returned _ => none

/-- The reader goes on, where it has no choice. -/
def goOn? (s : ClientCalls) : Option ClientCalls :=
  match s.reader with
  | .held => if s.released then some { s with reader := .reading } else none
  | .reading => none
  | .delivering [] => some { s with reader := .reading }
  | .delivering (frame :: rest) =>
    let s := s.update fun c => c.note (.frame c.callback.mark frame)
    some { s with
      reader := if s.hangsUp frame then .calling .called rest else .delivering rest }
  | .calling .returned rest => some { s with reader := .delivering rest }
  | .calling call rest =>
    match s.ending? true call with
    | none => none
    | some (call, s) => some { s with reader := .calling call rest }
  | .noticed =>
    let (won, state) := Phase.exchange .connected .disconnected s.client.state
    some { s.update fun c => { c with state } with reader := if won then .telling else .ended }
  | .telling => some { s.update (·.note .disconnected) with reader := .ended }
  | .ended => none

/-- Note down what was read. -/
def heard (chunk : Bytes) : List (List Bytes) → List (List Bytes)
  | [] => [[chunk]]
  | chunks :: before => (chunks ++ [chunk]) :: before

/-- Make a move. -/
def move? (s : ClientCalls) : ClientMove → Option ClientCalls
  | .callConnect opened => some { s with beginnings := s.beginnings ++ [.called opened] }
  | .connect i =>
    match s.beginnings[i]? with
    | none => none
    | some call =>
      match s.beginning? call with
      | none => none
      | some (call, s) => some { s with beginnings := s.beginnings.set i call }
  | .callDisconnect => some { s with endings := s.endings ++ [.called] }
  | .disconnect i =>
    match s.endings[i]? with
    | none => none
    | some call =>
      match s.ending? false call with
      | none => none
      | some (call, s) => some { s with endings := s.endings.set i call }
  | .goOn => s.goOn?
  | .read chunk =>
    if s.reader = .reading then
      let (buffer, frames) := s.buffer.feed chunk
      some { s with buffer, reader := .delivering frames, reads := heard chunk s.reads }
    else none
  | .seeCancelled =>
    if s.cancelled && (s.reader = .reading || s.reader = .held) then
      some { s with reader := .ended }
    else none
  | .notice =>
    if s.kind.noticesClose && s.reader = .reading then some { s with reader := .noticed } else none

/-- Have all calls returned? -/
def isQuiet (s : ClientCalls) : Bool :=
  s.endings.all (· = .returned)
    && s.beginnings.all fun call => match call with
      | .returned _ => true
      | _ => false

/-! ### Calls that nothing comes between -/

/-- The moves of a call to `disconnect` that nothing comes between but the end of the
reader. -/
def disconnectMoves (kind : EngineKind) : List ClientMove :=
  .callDisconnect :: List.replicate (if kind.looksFirst then 4 else 3) (.disconnect 0)
    ++ .seeCancelled :: List.replicate 3 (.disconnect 0)

/-- With nothing in between, a call to `disconnect` does what `Client.disconnect` does. -/
theorem play_disconnectMoves (s : ClientCalls) (quiet : s.endings = []) (free : s.locked = false)
    (reading : s.reader = .reading) (connected : s.client.state = .connected)
    (there : s.client.connection.isSome) :
    (play move? s (disconnectMoves s.kind)).map (·.client) = some s.client.disconnect := by
  obtain ⟨k, present⟩ := Option.isSome_iff_exists.1 there
  cases kind : s.kind <;>
    simp [disconnectMoves, EngineKind.looksFirst, List.replicate, play, move?, ending?, update,
      quiet, free, reading, connected, present, kind, Client.isConnected, Phase.exchange,
      Client.disconnect, Client.note]

/-- The moves of a call to `connect` that nothing comes between. -/
def connectMoves (opened : Except EngineError Peer) : List ClientMove :=
  match opened with
  | .ok _ => .callConnect opened :: List.replicate 5 (.connect 0)
  | .error _ => .callConnect opened :: List.replicate 3 (.connect 0)

/-- With nothing in between, a call to `connect` does what `Client.connect` does. -/
theorem play_connectMoves (s : ClientCalls) (quiet : s.beginnings = []) (free : s.locked = false)
    (ended : s.reader = .ended) (idle : s.client.state = .disconnected)
    (opened : Except EngineError Peer) :
    (play move? s (connectMoves opened)).map (·.client) = some (s.client.connect opened).2 := by
  cases present : s.client.connection <;> cases opened <;>
    simp [connectMoves, List.replicate, play, move?, beginning?, update,
      quiet, free, ended, idle, present, Phase.exchange, Client.connect, Client.note]

end ClientCalls

end Interleaving

end Lifecast
