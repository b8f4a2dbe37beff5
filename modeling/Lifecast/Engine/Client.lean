/-
The client of an engine.

All engines give their clients the same life.  A client connects, is told of every
complete frame, and is told once when the connection has ended, be it by its own
`disconnect` or because the other side closed it.  Frames are put together by a buffer
that starts empty with each connection.

What a client is told goes into its log, in order.  The callback for frames may itself
call the client.  It then runs in the middle of a read, and the frames which that read
has already completed are still delivered after the call.
-/
import Lifecast.Engine.Config
import Lifecast.Engine.Error
import Lifecast.Engine.Phase
import Lifecast.Net.Group
import Lifecast.Session.Hub

namespace Lifecast

/-- The other side of a connection. -/
inductive Peer where
  /-- All senders of a multicast group. -/
  | group (group : Group)
  /-- A session of a server. -/
  | session (handle : Handle)
deriving DecidableEq, Repr

/-- A connection of a client. -/
structure Connection where
  /-- The other side. -/
  peer : Peer
  /-- Puts frames together. -/
  buffer : FrameBuffer
  /-- Is the connection still read?  No longer once the other side has closed it. -/
  reading : Bool := true
deriving DecidableEq, Repr

/-- What a client was told, or what a call from inside a callback came to. -/
inductive ClientEvent where
  /-- A connection was made. -/
  | connected
  /-- A connection ended. -/
  | disconnected
  /-- A frame arrived; the mark says which callback was told. -/
  | frame (mark : String) (frame : Bytes)
  /-- A callback called `connect`. -/
  | calledConnect (result : Except EngineError Unit)
deriving Repr

/-- What the callback for frames does, besides logging the frame. -/
inductive Reaction where
  /-- It ends the connection. -/
  | disconnect
  /-- It tries to make another connection. -/
  | connect
  /-- It puts another callback in its place. -/
  | replace
deriving DecidableEq, Repr

/-- The callback for frames. -/
structure FrameCallback where
  /-- Put in front of the frames it logs. -/
  mark : String := ""
  /-- What it does on which frame. -/
  reactions : List (Bytes × Reaction) := []
deriving DecidableEq, Repr

/-- A client. -/
structure Client where
  /-- The settings of its engine. -/
  config : EngineConfig
  /-- Where it stands. -/
  state : ConnectionState := .disconnected
  /-- Its connection.  One that the other side closed stays until the next call. -/
  connection : Option Connection := none
  /-- Who is told of frames. -/
  callback : FrameCallback := {}
  /-- What it was told, in order. -/
  log : Array ClientEvent := #[]

namespace Client

/-- Is the client connected? -/
def isConnected (c : Client) : Bool :=
  c.state == .connected

/-- Log an event. -/
def note (c : Client) (e : ClientEvent) : Client :=
  { c with log := c.log.push e }

/-- Make a connection, to what opening one came to.  Refused unless the client is
disconnected. -/
def connect (c : Client) (opened : Except EngineError Peer) : Except EngineError Unit × Client :=
  match Phase.exchange .disconnected .connecting c.state with
  | (false, _) => (.error .alreadyConnected, c)
  | (true, _) =>
    match opened with
    | .error e => (.error e, { c with state := .disconnected, connection := none })
    | .ok peer =>
      let connection := { peer, buffer := FrameBuffer.empty c.config.delimiter }
      (.ok (), { c with state := .connected, connection := some connection }.note .connected)

/-- End the connection, if there is one. -/
def disconnect (c : Client) : Client :=
  match Phase.exchange .connected .closing c.state with
  | (false, _) => { c with connection := none }
  | (true, _) => { c with state := .disconnected, connection := none }.note .disconnected

/-- The other side has closed the connection. -/
def peerClosed (c : Client) : Client :=
  let c := { c with connection := c.connection.map fun k => { k with reading := false } }
  match Phase.exchange .connected .disconnected c.state with
  | (false, _) => c
  | (true, state) => { c with state }.note .disconnected

/-- Tell the callback of a frame.  `reopened` is what opening a connection from inside
the callback comes to. -/
def deliver (reopened : Except EngineError Peer) (c : Client) (frame : Bytes) : Client :=
  let c := c.note (.frame c.callback.mark frame)
  match c.callback.reactions.lookup frame with
  | none => c
  | some .disconnect => c.disconnect
  | some .connect =>
    let (result, c) := c.connect reopened
    c.note (.calledConnect result)
  | some .replace => { c with callback := { mark := "second:" } }

/-- Take in what one read returned, and tell the callback of each frame that is now
complete. -/
def receive (c : Client) (reopened : Except EngineError Peer) (chunk : Bytes) : Client :=
  match c.connection with
  | none => c
  | some k =>
    if k.reading then
      let (buffer, frames) := k.buffer.feed chunk
      frames.foldl (deliver reopened) { c with connection := some { k with buffer } }
    else c

/-- The other side of the connection, if it is still read. -/
def reads (c : Client) : Option Peer :=
  match c.connection with
  | some k => if k.reading then some k.peer else none
  | none => none

end Client

end Lifecast
