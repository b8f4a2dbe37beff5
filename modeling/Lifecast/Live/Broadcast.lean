/-
A server on real sockets.

What the server is and does is kept in a `Server`; here its datagrams are put on a
socket, its listener accepts connections, and the queues of its sessions are written
out.  A session is woken through a channel of its own whenever the server has changed.
-/
import Lifecast.Engine.Server
import Lifecast.Live.Sockets
import Lifecast.WebSocket.Message
import Lifecast.WebSocket.Upgrade
import Std.Async.Select
import Std.Async.Timer
import Std.Sync.Channel

namespace Lifecast

open Std.Async

/-- A server and the sockets it runs on. -/
structure LiveServer where
  server : IO.Ref Server
  /-- Puts a datagram on the wire. -/
  emit : Server.Datagram → Async Unit
  /-- Wakes the sessions, by handle. -/
  wakers : IO.Ref (List (Handle × Std.CloseableChannel Unit))

namespace LiveServer

/-- Wake all sessions. -/
def wake (s : LiveServer) : Async Unit := do
  for (_, waker) in (← s.wakers.get) do
    discard (waker.send ())

/-- Broadcast some bytes. -/
def broadcast (s : LiveServer) (data : Bytes) : Async Unit := do
  let datagrams ← s.server.modifyGet (·.broadcast data)
  for d in datagrams do
    try s.emit d catch _ => pure ()
  s.wake

/-- Write what waits in the queue of a session. -/
def writeQueue (s : LiveServer) (h : Handle) (peer : TCP.Socket.Client) : Async Unit := do
  let messages ← s.server.modifyGet fun server =>
    let waiting := (server.hub.sessions[h]?.map (·.queue.size)).getD 0
    let (messages, hub) := server.hub.receive h waiting
    let hub := messages.foldl (fun hub _ => hub.update h Session.countDown) hub
    (messages, { server with hub })
  for m in messages do
    peer.send (Message.encode [] (.text (Text.encode m))).socketForm

/-- Answer what a client sent; no if that ends the session. -/
def answer (peer : TCP.Socket.Client) : List Message → Async Bool
  | [] => return true
  | .close _ :: _ => return false
  | .ping payload :: rest => do
    peer.send (Message.encode [] (.pong payload)).socketForm
    answer peer rest
  | _ :: rest => answer peer rest

/-- How much is read at a time. -/
def readSize : UInt64 := 0x10000

/-- Run a session until it closes or its client has gone. -/
partial def runSession (s : LiveServer) (h : Handle) (peer : TCP.Socket.Client)
    (waker : Std.CloseableChannel Unit) (reader : Reader) : Async Unit := do
  if (← s.server.get).hub.isClosingAt h then return
  s.writeQueue h peer
  let arrived ← Selectable.one #[
    .case waker.recvSelector fun _ => return some none,
    .case (peer.recvSelector readSize) fun chunk => return chunk.map some]
  match arrived with
  | none => return
  | some none => s.runSession h peer waker reader
  | some (some chunk) =>
    let (messages, reader) := reader.feed chunk.toList
    if (← answer peer messages) && !reader.broken then s.runSession h peer waker reader

/-- Read until there is the head of a request. -/
partial def readHead (peer : TCP.Socket.Client) (read : Bytes) : Async (Option (Bytes × Bytes)) := do
  match Head.split? [] read with
  | some parts => return some parts
  | none =>
    match (← peer.recv? readSize) with
    | none => return none
    | some chunk => readHead peer (read ++ chunk.toList)

/-- Upgrade a connection and run the session on it. -/
def serve (s : LiveServer) (peer : TCP.Socket.Client) : Async Unit := do
  let some (head, rest) ← readHead peer [] | return
  let asked : Except Refusal String := match Head.ofBytes? head with
    | none => .error ⟨400, ""⟩
    | some head => Upgrade.keyOfRequest head
  match asked with
  | .error refusal => peer.send (Upgrade.reply refusal).socketForm
  | .ok key =>
    let remote := SocketAddress.ofSocketForm (← peer.getPeerName)
    match (← s.server.modifyGet (·.accept remote)) with
    | none => peer.send (Upgrade.reply ⟨503, "server is shutting down"⟩).socketForm
    | some h =>
      let waker ← Std.CloseableChannel.new
      s.wakers.modify ((h, waker) :: ·)
      try
        peer.send (Upgrade.agreement key).encode.socketForm
        let (messages, reader) := ({ fromClient := true } : Reader).feed rest
        if (← answer peer messages) && !reader.broken then s.runSession h peer waker reader
        peer.send (Message.encode [] (.close none)).socketForm
      catch _ => pure ()
      s.server.modify (·.endSession h)
      s.wakers.modify (·.filter (·.1 != h))
  try peer.shutdown catch _ => pure ()

/-- Accept connections for good. -/
partial def acceptAll (s : LiveServer) (listener : TCP.Socket.Server) : Async Unit := do
  let peer ← listener.accept
  background (try s.serve peer catch _ => pure ())
  s.acceptAll listener

/-- A socket that sends to a group. -/
def groupSocket (config : EngineConfig) (group : Group) : Async UDP.Socket := do
  let socket ← UDP.Socket.mk
  socket.bind (IpAddress.socketForm (.v4 Ipv4.unspecified) 0)
  socket.setMulticastTTL (UInt32.ofNat config.multicastTtl)
  socket.setMulticastLoop config.multicastLoop
  socket.setMembership (.v4 group.ip.socketForm) (some (.v4 config.multicastInterface.socketForm))
    .enterGroup
  return socket

/-- A socket that listens. -/
def listenerAt (ip : IpAddress) (port : UInt16) : Async TCP.Socket.Server := do
  let listener ← TCP.Socket.Server.mk
  listener.bind (ip.socketForm port)
  listener.listen 1024
  return listener

/-- What a launch comes to: what the server runs, how it sends, and where it
listens. -/
structure Launched where
  run : Run
  emit : Server.Datagram → Async Unit := fun _ => return
  listener : Option TCP.Socket.Server := none

/-- Open the sockets of a server. -/
def launch (kind : EngineKind) (config : EngineConfig) (address : String) (port : UInt16)
    (threads : Nat) : Async (Except EngineError Launched) := do
  match kind with
  | .webSocket =>
    match parseIp address with
    | .error fault => return .error (.invalidAddress fault.message)
    | .ok ip =>
      attempt .transport do
        let listener ← listenerAt ip port
        return { run := .listener 0 (.of ip port), listener := some listener }
  | _ =>
    match parseGroup address port with
    | .error fault => return .error (.invalidAddress fault.message)
    | .ok group =>
      attempt .transport do
        let socket ← groupSocket config group
        return {
          run := .sender group (.start "multicast-pool" (if kind = .multicast then 1 else threads))
          emit := fun d => socket.send d.data.socketForm
            (some (IpAddress.socketForm (.v4 d.group.ip) d.group.port)) }

/-- Start a server. -/
def start (kind : EngineKind) (config : EngineConfig) (address : String) (port : UInt16)
    (threads : Nat) : Async (Except EngineError LiveServer) := do
  let launched ← launch kind config address port threads
  let (result, server) := ({ kind } : Server).startWith (launched.map (·.run))
  match launched, result with
  | .ok launched, .ok () =>
    let s : LiveServer :=
      { server := ← IO.mkRef server, emit := launched.emit, wakers := ← IO.mkRef [] }
    if let some listener := launched.listener then
      background (try s.acceptAll listener catch _ => pure ())
    return .ok s
  | .error e, _ | _, .error e => return .error e

/-- How often it is looked whether all sessions have ended, every ten milliseconds. -/
def patience : Nat := 100

/-- Wait until all sessions have ended. -/
def awaitSessions (s : LiveServer) : Nat → Async Unit
  | 0 => return
  | n + 1 => do
    unless (← s.wakers.get).isEmpty do
      sleep 10
      s.awaitSessions n

/-- Stop the server. -/
def stop (s : LiveServer) : Async Unit := do
  s.server.modify (·.stop)
  s.wake
  s.awaitSessions patience

end LiveServer

end Lifecast
