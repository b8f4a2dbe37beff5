/-
The servers of the three engines.

The two multicast engines join the group they send to and hand every broadcast to a
pool of workers as one datagram.  The plain one has a single worker, so its datagrams
leave in order; the other has as many as it is given.  The connection engine listens
at an address and queues every broadcast as one message on each session.

Stopping waits until all that was accepted has been sent, or closes all sessions.
-/
import Lifecast.Engine.Config
import Lifecast.Engine.Kind
import Lifecast.Engine.Service
import Lifecast.Net.Group
import Lifecast.Net.Host
import Lifecast.Session.Hub
import Lifecast.Text.Utf8
import Lifecast.WorkerPool

namespace Lifecast

/-- What a server runs. -/
inductive Run where
  /-- It sends to a group. -/
  | sender (group : Group) (pool : WorkerPool Bytes)
  /-- It listens at an address; runs are numbered. -/
  | listener (number : Nat) (address : SocketAddress)
deriving DecidableEq, Repr

/-- The longest datagram that can be sent. -/
def maxDatagram : Nat := 65507

/-- A server. -/
structure Server where
  /-- Its engine. -/
  kind : EngineKind
  /-- Its lifecycle. -/
  service : Service Run := {}
  /-- Its sessions. -/
  hub : Hub := {}
  /-- How many times it has come up. -/
  starts : Nat := 0
deriving DecidableEq, Repr

namespace Server

/-- Open a socket that sends to a group. -/
def openGroup (host : Host) (address : String) (port : UInt16) : Except EngineError Group := do
  match parseGroup address port with
  | .error fault => throw (.invalidAddress fault.message)
  | .ok group =>
    match host.join with
    | .error e => throw (.transport e.message)
    | .ok () => return group

/-- The port that the host hands out where it is asked for any: one that is not in
use. -/
def freePort (starts : Nat) : UInt16 :=
  UInt16.ofNat (32768 + starts % 16384)

/-- Open a socket that listens.  `holder` is where somebody else listens on the same
port. -/
def openListener (host : Host) (address : String) (port : UInt16) (holder : Option IpAddress)
    (starts : Nat) :
    Except EngineError SocketAddress := do
  match parseIp address with
  | .error fault => throw (.invalidAddress fault.message)
  | .ok ip =>
    match host.listen ip holder with
    | .error e => throw (.transport e.message)
    | .ok () => return .of ip (if port = 0 then freePort starts else port)

/-- Launch what the server runs. -/
def launch (s : Server) (host : Host) (address : String) (port : UInt16)
    (holder : Option IpAddress) (threads : Nat) : Except EngineError Run :=
  match s.kind with
  | .multicast => (openGroup host address port).map fun g => .sender g (.start "multicast-server" 1)
  | .pooledMulticast =>
    (openGroup host address port).map fun g => .sender g (.start "multicast-pool" threads)
  | .webSocket => (openListener host address port holder s.starts).map fun a => .listener s.starts a

/-- Start the server with what a launch came to. -/
def startWith (s : Server) (launched : Except EngineError Run) : Except EngineError Unit × Server :=
  match s.service.start launched with
  | (.ok (), service) => (.ok (), { s with service, starts := s.starts + 1 })
  | (.error e, service) => (.error e, { s with service })

/-- Start the server. -/
def start (s : Server) (host : Host) (address : String) (port : UInt16)
    (holder : Option IpAddress) (threads : Nat) : Except EngineError Unit × Server :=
  s.startWith (s.launch host address port holder threads)

/-- Stop the server. -/
def stop (s : Server) : Server :=
  let (run, service) := s.service.stop
  match run with
  | some (.listener number _) =>
    { s with service, hub := ((s.hub.cancelRun number).closeAll).2 }
  | _ => { s with service }

/-- Is the server running? -/
def isRunning (s : Server) : Bool :=
  s.service.isRunning

/-- Where the server listens. -/
def listening (s : Server) : Option SocketAddress :=
  match s.service.running with
  | some (.listener _ address) => some address
  | _ => none

/-- How many sessions are registered. -/
def sessionCount (s : Server) : Nat :=
  s.hub.size

/-- A datagram on its way to a group. -/
structure Datagram where
  group : Group
  data : Bytes
deriving DecidableEq, Repr

/-- Broadcast some bytes.  The answer is the datagrams that leave; messages to sessions
are queued in the hub. -/
def broadcast (s : Server) (data : Bytes) : List Datagram × Server :=
  match s.service.current with
  | none => ([], s)
  | some (.sender group pool) =>
    let after := (pool.submit (.leaves data)).2.settle true
    let sent := (after.log.drop pool.log.length).filter fun d => d.length ≤ maxDatagram
    (sent.map (⟨group, ·⟩), { s with service := s.service.keep (.sender group after) })
  | some (.listener _ _) =>
    ([], { s with hub := (s.hub.broadcast (Text.decode data)).2 })

/-- Accept a connection: make a session for it and register it.  Refused unless the
server is listening. -/
def accept (s : Server) (remote : SocketAddress) : Option Handle × Server :=
  match s.service.current with
  | some (.listener number _) =>
    let (id, hub) := s.hub.nextId
    let (h, hub) := hub.make id remote number
    let (registered, hub) := hub.register h
    let (opened, hub) := hub.updateWith h false Session.openUp
    if registered && opened then (some h, { s with hub })
    else (none, { s with hub := hub.close h })
  | _ => (none, s)

/-- End a session whose connection is over. -/
def endSession (s : Server) (h : Handle) : Server :=
  { s with hub := (((s.hub.close h).update h Session.finish).dropQueue h) }

end Server

end Lifecast
