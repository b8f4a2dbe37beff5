/-
A server and its clients with the network between them.

A scene runs every call to its end.  Here a broadcast does no more than its caller waits
for: it leaves a datagram to the workers or a message in the queue of each session.
Workers, sessions, the network and the clients go on when they please.  The network loses
nothing, and nothing on it overtakes.

With nothing in between, a broadcast does what `Scene.broadcast` does
(`play_broadcastMoves`).
-/
import Lifecast.Engine.Scene
import Lifecast.Interleaving.Basic

namespace Lifecast

/-- Take in a broadcast: queue a datagram for the workers or a message for each session. -/
def Server.takeIn (s : Server) (data : Bytes) : Server :=
  match s.service.current with
  | none => s
  | some (.sender group pool) =>
    { s with service := s.service.keep (.sender group (pool.submit (.leaves data)).2) }
  | some (.listener _ _) => { s with hub := (s.hub.broadcast (Text.decode data)).2 }

namespace Interleaving

/-- Some bytes on the network. -/
inductive Parcel where
  /-- To the members of a group. -/
  | datagram (d : Server.Datagram)
  /-- To the client of a session. -/
  | message (h : Handle) (bytes : Bytes)
deriving DecidableEq, Repr

/-- A server, its clients, and what is on its way from the one to the others. -/
structure Transit where
  /-- The server and its clients. -/
  scene : Scene
  /-- What is on the network, oldest first. -/
  wire : List Parcel := []

/-- A step of one of the threads or of the network. -/
inductive TransitMove where
  /-- The server is called to broadcast some bytes. -/
  | broadcast (data : Bytes)
  /-- Worker `i` of the server moves. -/
  | work (i : Nat)
  /-- The session with a handle writes the oldest message in its queue. -/
  | write (h : Handle)
  /-- What has been on the network longest arrives. -/
  | arrive
deriving DecidableEq, Repr

namespace Transit

/-- Change the server. -/
def withServer (s : Transit) (server : Server) : Transit :=
  { s with scene := { s.scene with server } }

/-- Put some parcels on the network. -/
def post (s : Transit) (parcels : List Parcel) : Transit :=
  { s with wire := s.wire ++ parcels }

/-- Worker `i` moves.  What it has sent reaches the group on this host if datagrams come
back to it. -/
def work? (s : Transit) (i : Nat) : Option Transit :=
  match s.scene.server.service.running with
  | some (.sender group pool) =>
    (pool.work? true i).map fun after =>
      let sent := (after.log.drop pool.log.length).filter fun d => d.length ≤ maxDatagram
      let heard := if s.scene.config.multicastLoop then sent else []
      let service := s.scene.server.service.keep (.sender group after)
      (s.withServer { s.scene.server with service }).post
        (heard.map fun data => .datagram ⟨group, data⟩)
  | _ => none

/-- A session takes the oldest message out of its queue, writes it and counts it down. -/
def write? (s : Transit) (h : Handle) : Option Transit :=
  match s.scene.server.hub.receive h 1 with
  | ([], _) => none
  | (messages, hub) =>
    some ((s.withServer { s.scene.server with hub := hub.update h Session.countDown }).post
      (messages.map fun m => .message h (Text.encode m)))

/-- Hand a parcel over. -/
def deliver (scene : Scene) : Parcel → Scene
  | .datagram d => scene.deliverDatagram d
  | .message h bytes => scene.handOver (.session h) bytes

/-- Make a move. -/
def move? (s : Transit) : TransitMove → Option Transit
  | .broadcast data => some (s.withServer (s.scene.server.takeIn data))
  | .work i => s.work? i
  | .write h => s.write? h
  | .arrive =>
    match s.wire with
    | [] => none
    | parcel :: rest => some { scene := deliver s.scene parcel, wire := rest }

/-- Is nothing on its way? -/
def isAtRest (s : Transit) : Bool :=
  s.wire.isEmpty
    && match s.scene.server.service.running with
      | some (.sender _ pool) => pool.isDrained
      | _ => s.scene.server.hub.sessions.all (·.queue.isEmpty)

end Transit

end Interleaving

end Lifecast
