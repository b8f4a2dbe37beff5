/-
A scene: one server and its clients on one host.

Every call is run to its end, until nothing moves any more: datagrams have reached the
members of their group, messages have reached the clients of their sessions, and a
session whose client has gone, or that is closing, has ended and its client has been
told.  On the way nothing is lost and nothing overtakes.
-/
import Lifecast.Engine.Client
import Lifecast.Engine.Server
import Lifecast.Net.Url

namespace Lifecast

/-- A server and its clients. -/
structure Scene where
  /-- The host they run on. -/
  host : Host
  /-- The settings of their engine. -/
  config : EngineConfig
  /-- The server. -/
  server : Server
  /-- The clients. -/
  clients : Array Client

namespace Scene

/-- A scene in which nothing has happened yet. -/
def new (host : Host) (kind : EngineKind) (config : EngineConfig) (clients : Nat) : Scene :=
  { host, config, server := { kind }, clients := Array.replicate clients { config } }

/-- Change one client. -/
def update (s : Scene) (i : Nat) (f : Client → Client) : Scene :=
  { s with clients := s.clients.modify i f }

/-! ### Opening connections -/

/-- Find the way to the server: the address that a host and a port lead to. -/
def locate (s : Scene) (address : String) (port : UInt16) :
    Except EngineError SocketAddress := do
  let host := Text.trim address.toList
  if host.isEmpty then
    throw (.invalidAddress AddressFault.emptyHost.message)
  match Endpoint.ofHost host port with
  | .error fault => throw (.handshake fault.message)
  | .ok endpoint =>
    match s.host.lookup endpoint.host endpoint.port with
    | .error fault => throw (.handshake s!"IO error: {fault.message}")
    | .ok target =>
      match s.host.reach target with
      | .error e => throw (.handshake s!"IO error: {e.message}")
      | .ok () => return target

/-- Open a connection to the server's group or to the server itself. -/
def openPeer (s : Scene) (address : String) (port : UInt16) : Except EngineError Peer × Server :=
  match s.server.kind with
  | .webSocket =>
    match s.locate address port with
    | .error e => (.error e, s.server)
    | .ok target =>
      let refused := EngineError.handshake s!"IO error: {OsError.connectionRefused.message}"
      match s.server.listening with
      | none => (.error refused, s.server)
      | some bound =>
        if bound.ip.covers target.ip && bound.port == target.port then
          match s.server.accept target with
          | (some h, server) => (.ok (.session h), server)
          | (none, server) => (.error (.handshake "HTTP error: 503 Service Unavailable"), server)
        else (.error refused, s.server)
  | _ => ((Server.openGroup s.host address port).map .group, s.server)

/-- What opening a connection to the same peer comes to from inside a callback: the
connection engine cannot wait there. -/
def reopen (s : Scene) (peer : Peer) : Except EngineError Peer :=
  match s.server.kind with
  | .webSocket => .error (.runtime "cannot block inside an async context")
  | _ => .ok peer

/-! ### Coming to rest -/

/-- Hand some bytes to every client that reads from a peer. -/
def handOver (s : Scene) (peer : Peer) (chunk : Bytes) : Scene :=
  { s with clients := s.clients.map fun c =>
      if c.reads = some peer then c.receive (s.reopen peer) chunk else c }

/-- Deliver one datagram.  A client takes in as much of it as fits its buffer. -/
def deliverDatagram (s : Scene) (d : Server.Datagram) : Scene :=
  s.handOver (.group d.group) (d.data.take s.config.recvBufferSize)

/-- Write what waits in the queue of a session. -/
def writeQueue (s : Scene) (h : Handle) : Scene :=
  let waiting := (s.server.hub.sessions[h]?.map (·.queue.size)).getD 0
  let (messages, hub) := s.server.hub.receive h waiting
  messages.foldl
    (fun s m =>
      let s := { s with server := { s.server with hub := s.server.hub.update h Session.countDown } }
      s.handOver (.session h) (Text.encode m))
    { s with server := { s.server with hub } }

/-- Does some client still read from a session? -/
def isRead (s : Scene) (h : Handle) : Bool :=
  s.clients.any fun c => c.reads = some (.session h)

/-- End a session that is closing or whose client has gone, and tell the client. -/
def reap (s : Scene) (h : Handle) : Scene :=
  match s.server.hub.sessions[h]? with
  | none => s
  | some session =>
    if session.state = .closed then s
    else if s.server.hub.isClosing session || !s.isRead h then
      { s with
        server := s.server.endSession h
        clients := s.clients.map fun c =>
          if c.reads = some (.session h) then c.peerClosed else c }
    else s

/-- Let everything come to rest: write what waits, then end what is over. -/
def rest (s : Scene) : Scene :=
  let handles := List.range s.server.hub.sessions.size
  handles.foldl reap (handles.foldl writeQueue s)

/-! ### Calls -/

/-- Start the server.  `holder` is where somebody else listens on the same port. -/
def start (s : Scene) (address : String) (port : UInt16) (holder : Option IpAddress)
    (threads : Nat) : Except EngineError Unit × Scene :=
  let (result, server) := s.server.start s.host address port holder threads
  (result, { s with server })

/-- Stop the server. -/
def stop (s : Scene) : Scene :=
  { s with server := s.server.stop }.rest

/-- Let client `i` connect. -/
def connect (s : Scene) (i : Nat) (address : String) (port : UInt16) :
    Except EngineError Unit × Scene :=
  match s.clients[i]? with
  | none => (.error .alreadyConnected, s)
  | some c =>
    if c.state = .disconnected then
      let (opened, server) := s.openPeer address port
      let (result, c) := c.connect opened
      (result, { s with server, clients := s.clients.setIfInBounds i c }.rest)
    else (.error .alreadyConnected, s)

/-- Let client `i` disconnect. -/
def disconnect (s : Scene) (i : Nat) : Scene :=
  (s.update i Client.disconnect).rest

/-- Let the server broadcast some bytes.  The answer is the datagrams that reached the
group on this host. -/
def broadcast (s : Scene) (data : Bytes) : List Bytes × Scene :=
  let (datagrams, server) := s.server.broadcast data
  let heard := if s.config.multicastLoop then datagrams else []
  (heard.map (·.data), (heard.foldl deliverDatagram { s with server }).rest)

/-- Tell client `i` what to do on a frame. -/
def react (s : Scene) (i : Nat) (frame : Bytes) (reaction : Reaction) : Scene :=
  s.update i fun c =>
    { c with callback := { c.callback with reactions := (frame, reaction) :: c.callback.reactions } }

end Scene

end Lifecast
