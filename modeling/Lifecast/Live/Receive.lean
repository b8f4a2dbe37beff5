/-
A client on real sockets.

What the client is and is told is kept in a `Client`; here its connection is opened and
read, and what it is told is handed on to whoever listens.
-/
import Lifecast.Engine.Client
import Lifecast.Engine.Kind
import Lifecast.Live.Sockets
import Lifecast.Net.Name
import Lifecast.Net.Url
import Lifecast.WebSocket.Message
import Lifecast.WebSocket.Upgrade
import Std.Async.DNS
import Std.Async.Select
import Std.Async.Timer
import Std.Sync.Channel

namespace Lifecast

open Std.Async

/-- A client and those who listen to it. -/
structure LiveClient where
  client : IO.Ref Client
  /-- Is told of every event. -/
  tell : ClientEvent → BaseIO Unit

namespace LiveClient

/-- Change the client and hand on what it is told. -/
def change (c : LiveClient) (f : Client → Client) : BaseIO Unit := do
  let news ← c.client.modifyGet fun client =>
    let client := f client
    (client.log, { client with log := #[] })
  for e in news do c.tell e

/-- What a call to connect from inside a callback comes to; the programs make none. -/
def reopened : Except EngineError Peer :=
  .error (.runtime "cannot block inside an async context")

/-- How much is read at a time. -/
def readSize : UInt64 := 0x10000

/-! ### Groups -/

/-- A socket that has joined a group. -/
def memberSocket (config : EngineConfig) (group : Group) : Async UDP.Socket := do
  let socket ← UDP.Socket.mk
  socket.bind (IpAddress.socketForm (.v4 Ipv4.unspecified) group.port)
  socket.setMembership (.v4 group.ip.socketForm) (some (.v4 config.multicastInterface.socketForm))
    .enterGroup
  return socket

/-- Read datagrams for good. -/
partial def readDatagrams (c : LiveClient) (config : EngineConfig) (socket : UDP.Socket) :
    Async Unit := do
  let (datagram, _) ← socket.recv (UInt64.ofNat config.recvBufferSize)
  c.change (·.receive reopened datagram.toList)
  c.readDatagrams config socket

/-! ### Sessions -/

/-- A mask or a key of random bytes. -/
def randomBytes (n : USize) : Async Bytes :=
  return (← IO.getRandomBytes n).toList

/-- Read until there is the head of a reply. -/
partial def readHead (server : TCP.Socket.Client) (read : Bytes) : Async (Option (Bytes × Bytes)) := do
  match Head.split? [] read with
  | some parts => return some parts
  | none =>
    match (← server.recv? readSize) with
    | none => return none
    | some chunk => readHead server (read ++ chunk.toList)

/-- Where a server is found. -/
def locate (target : Endpoint) : Async SocketAddress := do
  match SocketAddress.ofHost? target.host.toList target.port with
  | some address => return address
  | none =>
    match (← DNS.getAddrInfo target.host "").toList with
    | .v4 ip :: _ => return .v4 (Ipv4.ofSocketForm ip) target.port
    | .v6 ip :: _ => return .v6 ⟨ip.segments⟩ 0 target.port
    | [] => throw (IO.userError NameFault.notAName.message)

/-- Connect to a server and ask for an upgrade; the answer is the connection and what
was read behind the reply. -/
def upgrade (target : Endpoint) : Async (Except EngineError (TCP.Socket.Client × Bytes)) := do
  let address ← locate target
  let server ← TCP.Socket.Client.mk
  server.connect (address.ip.socketForm address.port)
  let key := Upgrade.keyOf (← randomBytes 16)
  server.send (Upgrade.request target key).encode.socketForm
  let refused (fault : ReplyFault) := return .error (.handshake fault.message)
  let some (head, rest) ← readHead server [] | refused .unfinished
  match Head.ofBytes? head with
  | none => refused .unreadable
  | some head =>
    match Upgrade.checkReply key head with
    | .error fault => refused fault
    | .ok () => return .ok (server, rest)

/-- Take in messages of the server; no if it says farewell. -/
def take (c : LiveClient) (server : TCP.Socket.Client) : List Message → Async Bool
  | [] => return true
  | .text bytes :: rest | .binary bytes :: rest => do
    c.change (·.receive reopened bytes)
    c.take server rest
  | .ping payload :: rest => do
    server.send ((Message.pong payload).encode (← randomBytes 4)).socketForm
    c.take server rest
  | .pong _ :: rest => c.take server rest
  | .close _ :: _ => return false

/-- Read messages until the server closes the connection. -/
partial def readMessages (c : LiveClient) (server : TCP.Socket.Client) (reader : Reader)
    (chunk : Bytes) : Async Unit := do
  let (messages, reader) := reader.feed chunk
  if (← c.take server messages) && !reader.broken then
    match (← server.recv? readSize) with
    | none => return
    | some chunk => c.readMessages server reader chunk.toList

/-- Say farewell and close a connection. -/
def closeSession (server : TCP.Socket.Client) : Async Unit := do
  try
    server.send ((Message.close none).encode (← randomBytes 4)).socketForm
    server.shutdown
  catch _ => pure ()

/-- Read a session to its end, and then say so. -/
def readSession (c : LiveClient) (server : TCP.Socket.Client) (rest : Bytes) : Async Unit := do
  try c.readMessages server { fromClient := false } rest catch _ => pure ()
  closeSession server
  c.change Client.peerClosed

/-! ### Connecting -/

/-- An open connection: the other side, and how it is read. -/
structure Opened where
  peer : Peer
  read : LiveClient → Async Unit
  close : Async Unit

/-- Run an action for a limited time. -/
def within {α : Type} (limit : Duration) (action : Async (Except EngineError α)) :
    Async (Except EngineError α) := do
  let outcome ← Std.CloseableChannel.new
  background do
    discard (outcome.send (← action))
  Selectable.one #[
    .case outcome.recvSelector fun result => return result.getD (.error (.timeout limit)),
    .case (← Selector.sleep (.ofNat limit.milliseconds)) fun _ => return .error (.timeout limit)]

/-- Open a connection. -/
def openPeer (kind : EngineKind) (config : EngineConfig) (address : String) (port : UInt16) :
    Async (Except EngineError Opened) := do
  match kind with
  | .webSocket =>
    let host := Text.trim address.toList
    if host.isEmpty then
      return .error (.invalidAddress AddressFault.emptyHost.message)
    match Endpoint.ofHost host port with
    | .error fault => return .error (.handshake fault.message)
    | .ok endpoint =>
      let upgraded ← within config.handshakeTimeout do
        return (← attempt (fun reason => .handshake s!"IO error: {reason}") (upgrade endpoint)).bind id
      return upgraded.map fun (server, rest) =>
        { peer := .session 0
          read := (·.readSession server rest)
          close := closeSession server }
  | _ =>
    match parseGroup address port with
    | .error fault => return .error (.invalidAddress fault.message)
    | .ok group =>
      attempt .transport do
        let socket ← memberSocket config group
        return { peer := .group group, read := (·.readDatagrams config socket), close := return }

/-- Connect a client; the answer closes the connection. -/
def connect (kind : EngineKind) (config : EngineConfig) (tell : ClientEvent → BaseIO Unit)
    (address : String) (port : UInt16) : Async (Except EngineError (Async Unit)) := do
  let opened ← openPeer kind config address port
  let (result, client) := ({ config } : Client).connect (opened.map (·.peer))
  match opened, result with
  | .ok opened, .ok () =>
    let c : LiveClient := { client := ← IO.mkRef client, tell }
    c.change id
    background (try opened.read c catch _ => pure ())
    return .ok do
      c.change Client.disconnect
      opened.close
  | .error e, _ | _, .error e => return .error e

end LiveClient

end Lifecast
