/-
The engines are interchangeable.

A client that has connected to a server of its engine is told of the frames in what the
server broadcasts, and what these are does not depend on the engine (`delivered_eq_pieces`).
So it is when each broadcast is read before the next is made (`carries_broadcasts`), and also
however threads and network take turns.

It remains to show that the broadcasts flow from a server that has come up to a client that
has connected, which is where the engines differ: a client either joins the group that the
server sends to or gets a session of its own.
-/
import Mathlib
import Lifecast.Proofs.Engine.Flow

namespace Lifecast

namespace Interleaving

variable {config : EngineConfig} {peer : Peer}

/-! ### A server that has come up and a client that has connected -/

/-- A scene of one client, in which nothing has happened but that the server has come up. -/
def comeUp (host : Host) (kind : EngineKind) (config : EngineConfig) (run : Run) : Scene :=
  { host, config, server := { kind, service := runs run, starts := 1 }, clients := #[{ config }] }

variable {host : Host} {kind : EngineKind} {address clientAddress : String}
  {port clientPort : UInt16} {holder : Option IpAddress} {up joined : Scene}

/-- A server that has come up runs what was launched. -/
theorem start_new {threads : Nat}
    (hstart : (Scene.new host kind config 1).start address port holder threads = (.ok (), up)) :
    ∃ run, Server.launch { kind } host address port holder threads = .ok run ∧
      up = comeUp host kind config run := by
  simp only [Scene.start, Scene.new, Server.start, Server.startWith, Service.start, Phase.exchange,
    if_true] at hstart
  cases hlaunch : Server.launch { kind } host address port holder threads with
  | error e =>
      rw [hlaunch] at hstart
      cases hstart
  | ok run =>
      rw [hlaunch] at hstart
      cases hstart
      exact ⟨run, rfl, rfl⟩

/-- A client that has connected tells so, and has a connection to whom it was opened. -/
theorem connect_first {run : Run}
    (hconnect : (comeUp host kind config run).connect 0 clientAddress clientPort
      = (.ok (), joined)) :
    ∃ peer server, (comeUp host kind config run).openPeer clientAddress clientPort
        = (.ok peer, server) ∧
      joined = Scene.rest { host, config, server, clients := #[.afterReads config peer []] } := by
  have hclient : (comeUp host kind config run).clients[0]? = some ({ config } : Client) :=
    rfl
  simp only [Scene.connect, hclient, if_true] at hconnect
  cases hopen : (comeUp host kind config run).openPeer clientAddress clientPort with
  | mk opened server =>
      rw [hopen] at hconnect
      cases opened with
      | error e => cases hconnect
      | ok peer =>
          cases hconnect
          exact ⟨peer, server, rfl, rfl⟩

/-- In a scene without sessions there is nothing to write or to end. -/
theorem rest_of_no_sessions {scene : Scene} (h : scene.server.hub.sessions = #[]) :
    scene.rest = scene := by
  simp [Scene.rest, h]

/-- The client has joined the group that the server sends to. -/
theorem joined_group {pool : WorkerPool Bytes} {run : Run} (hkind : kind ≠ .webSocket)
    (hgroup : parseGroup clientAddress clientPort = parseGroup address port)
    (hlaunch : (Server.openGroup host address port).map (fun group => Run.sender group pool)
      = .ok run)
    (hconnect : (comeUp host kind config run).connect 0 clientAddress clientPort
      = (.ok (), joined)) :
    ∃ group, joined = { comeUp host kind config (.sender group pool) with
      clients := #[.afterReads config (.group group) []] } := by
  obtain ⟨peer, server, hopen, rfl⟩ := connect_first hconnect
  have hsame : Server.openGroup host clientAddress clientPort
      = Server.openGroup host address port := by
    unfold Server.openGroup
    rw [hgroup]
  have hopened : (Server.openGroup host address port).map Peer.group = .ok peer ∧
      server = (comeUp host kind config run).server := by
    rw [← hsame]
    cases kind with
    | webSocket => exact absurd rfl hkind
    | multicast | pooledMulticast =>
        obtain ⟨hpeer, hserver⟩ := Prod.mk.inj hopen
        exact ⟨hpeer, hserver.symm⟩
  obtain ⟨hpeer, rfl⟩ := hopened
  cases hjoined : Server.openGroup host address port with
  | error e =>
      rw [hjoined] at hpeer
      cases hpeer
  | ok group =>
      rw [hjoined] at hpeer hlaunch
      cases hpeer
      cases hlaunch
      exact ⟨group, rest_of_no_sessions rfl⟩

/-- So what a single worker sends gets to it. -/
theorem carries_joined_group {name : String} {run : Run} (hkind : kind ≠ .webSocket)
    (hgroup : parseGroup clientAddress clientPort = parseGroup address port)
    (hhears : config.multicastLoop = true ∧ maxDatagram ≤ config.recvBufferSize)
    (hlaunch : (Server.openGroup host address port).map
      (fun group => Run.sender group (.start name 1)) = .ok run)
    (hconnect : (comeUp host kind config run).connect 0 clientAddress clientPort
      = (.ok (), joined)) :
    ∃ peer, Carries config peer { scene := joined } {} := by
  obtain ⟨group, rfl⟩ := joined_group hkind hgroup hlaunch hconnect
  exact ⟨.group group, rfl, rfl, .sender rfl rfl, rfl, nofun, fun _ _ => hhears⟩

/-- The sessions of a server that has let in one client. -/
def oneMember (number : Nat) (remote : SocketAddress) : Hub :=
  { sessions := #[{ id := 1, remote, run := number, state := .opened }]
    members := [(1, 0)]
    lastId := 1 }

theorem accept_first (number : Nat) (address remote : SocketAddress) :
    (comeUp host kind config (.listener number address)).server.accept remote
      = (some 0, { kind, starts := 1, service := runs (.listener number address)
                   hub := oneMember number remote }) := by
  simp [Server.accept, comeUp, Service.current, Service.isRunning, runs, Hub.nextId, Hub.make,
    Hub.register, Hub.isClosing, Hub.isCancelled, Hub.updateWith, Hub.update, Hub.without,
    Session.openUp, Phase.exchange, oneMember]

/-- A connection to a server that listens is a session that it has let in. -/
theorem openPeer_listener {number : Nat} {bound : SocketAddress} {peer : Peer} {server : Server}
    (hopen : (comeUp host .webSocket config (.listener number bound)).openPeer clientAddress
      clientPort = (.ok peer, server)) :
    ∃ remote, peer = .session 0 ∧
      server = { kind := .webSocket, starts := 1, service := runs (.listener number bound)
                 hub := oneMember number remote } := by
  have hlistening : (comeUp host .webSocket config (.listener number bound)).server.listening
      = some bound := rfl
  have hkind : (comeUp host .webSocket config (.listener number bound)).server.kind
      = .webSocket := rfl
  simp only [Scene.openPeer, hkind, hlistening, accept_first] at hopen
  split at hopen
  · cases hopen
  · next remote _ =>
      split at hopen
      · cases hopen
        exact ⟨remote, rfl, rfl⟩
      · cases hopen

theorem rest_of_one_session {scene : Scene} {session : Session}
    (h : scene.server.hub.sessions = #[session]) :
    scene.rest = (scene.writeQueue 0).reap 0 := by
  simp [Scene.rest, h]

/-- A session that is open does not end as long as its client reads. -/
theorem reap_of_read {scene : Scene} {session : Session} {read : List Bytes}
    (sessions : scene.server.hub.sessions = #[session])
    (hopen : scene.server.hub.isClosing session = false)
    (hclients : scene.clients = #[.afterReads config (.session 0) read]) :
    scene.reap 0 = scene := by
  have hreads : scene.isRead 0 = true := by
    rw [Scene.isRead, hclients]
    simp [Client.reads, Client.afterReads]
  simp [Scene.reap, sessions, hopen, hreads]

/-- As long as its client reads, nothing is done to a session in whose queue nothing waits. -/
theorem rest_of_one_member (number : Nat) (remote : SocketAddress) (service : Service Run) :
    let scene : Scene :=
      { host, config, clients := #[.afterReads config (.session 0) []]
        server := { kind, starts := 1, service, hub := oneMember number remote } }
    scene.rest = scene := by
  intro scene
  have hwrite : scene.writeQueue 0 = scene := by
    simp [scene, Scene.writeQueue, Hub.receive, Hub.updateWith, Hub.update, Session.dequeue,
      oneMember]
  rw [rest_of_one_session rfl, hwrite]
  exact reap_of_read rfl rfl rfl

/-- The client has a session of its own that is open. -/
theorem joined_listener {run : Run}
    (hlaunch : (Server.openListener host address port holder 0).map (Run.listener 0) = .ok run)
    (hconnect : (comeUp host .webSocket config run).connect 0 clientAddress clientPort
      = (.ok (), joined)) :
    ∃ bound remote, joined =
      { host, config, clients := #[.afterReads config (.session 0) []]
        server := { kind := .webSocket, starts := 1, service := runs (.listener 0 bound)
                    hub := oneMember 0 remote } } := by
  obtain ⟨peer, server, hopen, rfl⟩ := connect_first hconnect
  cases hbound : Server.openListener host address port holder 0 with
  | error e =>
      rw [hbound] at hlaunch
      cases hlaunch
  | ok bound =>
      rw [hbound] at hlaunch
      cases hlaunch
      obtain ⟨remote, rfl, rfl⟩ := openPeer_listener hopen
      exact ⟨bound, remote, rest_of_one_member 0 remote _⟩

/-- So what is queued for the session gets to it. -/
theorem carries_joined_listener {run : Run}
    (hlaunch : (Server.openListener host address port holder 0).map (Run.listener 0) = .ok run)
    (hconnect : (comeUp host .webSocket config run).connect 0 clientAddress clientPort
      = (.ok (), joined)) :
    ∃ peer, Carries config peer { scene := joined } {} := by
  obtain ⟨bound, remote, rfl⟩ := joined_listener hlaunch hconnect
  exact ⟨.session 0, rfl, rfl, .listener rfl rfl rfl ⟨rfl, rfl⟩ rfl, rfl, nofun, nofun⟩

/-- Whichever the engine, the client that has connected is told of what arrives.  Datagrams of the
pooled engine arrive in order as long as one worker sends them. -/
theorem carries_joined {threads : Nat}
    (hstart : (Scene.new host kind config 1).start address port holder threads = (.ok (), up))
    (halone : kind = .pooledMulticast → threads = 1)
    (hconnect : up.connect 0 clientAddress clientPort = (.ok (), joined))
    (hgroup : kind ≠ .webSocket → parseGroup clientAddress clientPort = parseGroup address port ∧
      config.multicastLoop = true ∧ maxDatagram ≤ config.recvBufferSize) :
    ∃ peer, Carries config peer { scene := joined } {} := by
  obtain ⟨run, hlaunch, rfl⟩ := start_new hstart
  cases kind with
  | multicast =>
      have hkind : EngineKind.multicast ≠ .webSocket := nofun
      obtain ⟨hsame, hhears⟩ := hgroup hkind
      exact carries_joined_group hkind hsame hhears hlaunch hconnect
  | pooledMulticast =>
      have hkind : EngineKind.pooledMulticast ≠ .webSocket := nofun
      obtain ⟨hsame, hhears⟩ := hgroup hkind
      obtain rfl := halone rfl
      exact carries_joined_group hkind hsame hhears hlaunch hconnect
  | webSocket => exact carries_joined_listener hlaunch hconnect

/-! ### Broadcasts that nothing comes between -/

/-- The moves of a broadcast that nothing comes between. -/
def broadcastMoves (peer : Peer) (data : Bytes) : List TransitMove :=
  match peer with
  | .group _ => [.broadcast data, .work 0, .work 0, .arrive]
  | .session h => [.broadcast data, .write h, .arrive]

/-- A worker that has nothing else to do sends what is queued. -/
theorem settle_single (name : String) (log : List Bytes) (data : Bytes) :
    (WorkerPool.single name none [data] log).settle true
      = .single name none [] (log ++ [data]) := by
  have hmove : ∀ held queued log, (WorkerPool.single name held queued log).move? true
      = (WorkerPool.single name held queued log).work? true 0 := by
    intro held queued log
    simp [WorkerPool.move?, WorkerPool.single, List.range_succ]
  have hleft : (WorkerPool.single name none [data] log).movesLeft = 6 := rfl
  simp [WorkerPool.settle, hleft, WorkerPool.settleFor, hmove, WorkerPool.work?_single]

theorem broadcast_of_sender {server : Server} {group : Group} {name : String} {log : List Bytes}
    {data : Bytes} (service : server.service = runs (.sender group (.single name none [] log)))
    (hlength : data.length ≤ maxDatagram) :
    server.broadcast data = ([⟨group, data⟩], { server with
      service := runs (.sender group (.single name none [] (log ++ [data]))) }) := by
  have hsettled : ((WorkerPool.single name none [] log).submit (.leaves data)).2.settle true
      = .single name none [] (log ++ [data]) := by
    rw [WorkerPool.submit_single]
    exact settle_single name log data
  have hcurrent : server.service.current
      = some (.sender group (.single name none [] log)) := by
    rw [service]
    rfl
  have hlog : ∀ log, (WorkerPool.single name none [] log).log = log := fun _ => rfl
  simp only [Server.broadcast, hcurrent, hsettled, hlog, List.drop_left]
  simp [hlength, service, runs, Service.keep]

/-- What is queued for a group is taken, sent and handed over. -/
theorem play_broadcast_group {scene : Scene} {group : Group} {name : String} {log : List Bytes}
    {data : Bytes} (hloop : scene.config.multicastLoop = true)
    (service : scene.server.service = runs (.sender group (.single name none [] log)))
    (sessions : scene.server.hub.sessions = #[]) (hlength : data.length ≤ maxDatagram) :
    play Transit.move? { scene } (broadcastMoves (.group group) data)
      = some { scene := (scene.broadcast data).2 } := by
  let having (held : Option Bytes) (queued log : List Bytes) : Scene :=
    { scene with server := { scene.server with
      service := runs (.sender group (.single name held queued log)) } }
  have hqueued : Transit.move? { scene } (.broadcast data)
      = some { scene := having none [data] log } := by
    rw [Transit.move?, takeIn_of_sender service, WorkerPool.submit_single]
    rfl
  have htaken : Transit.move? { scene := having none [data] log } (.work 0)
      = some { scene := having (some data) [] log } := by
    rw [Transit.move?, work?_eq hloop rfl, WorkerPool.work?_single]
    simp [having, WorkerPool.single, Transit.withServer, Transit.post]
  have hsent : Transit.move? { scene := having (some data) [] log } (.work 0)
      = some { scene := having none [] (log ++ [data]), wire := [.datagram ⟨group, data⟩] } := by
    rw [Transit.move?, work?_eq hloop rfl, WorkerPool.work?_single]
    simp [having, WorkerPool.single, Transit.withServer, Transit.post, hlength, Parcel.to]
  have hscene : (scene.broadcast data).2
      = Scene.deliverDatagram (having none [] (log ++ [data])) ⟨group, data⟩ := by
    simp only [Scene.broadcast, broadcast_of_sender service hlength, hloop, if_true]
    exact rest_of_no_sessions sessions
  simp only [broadcastMoves, play, hqueued, htaken, hsent, hscene]
  rfl

/-- What is queued for a session is written and handed over. -/
theorem play_broadcast_session {scene : Scene} {number : Nat} {address : SocketAddress}
    {session : Session} {read : List Bytes} {data : Bytes}
    (hclients : scene.clients = #[.afterReads config (.session 0) read])
    (service : scene.server.service = runs (.listener number address))
    (sessions : scene.server.hub.sessions = #[session])
    (members : scene.server.hub.members = [(session.id, 0)])
    (receives : scene.server.hub.isClosing session = false ∧ session.receiving = true)
    (queue : session.queue = #[]) :
    play Transit.move? { scene } (broadcastMoves (.session 0) data)
      = some { scene := (scene.broadcast data).2 } := by
  let having (hub : Hub) : Scene := { scene with server := { scene.server with hub } }
  let message := Text.decode data
  let full : Hub := { scene.server.hub with sessions := #[{ session with
    pending := session.pending + 1, queue := #[message] }] }
  let empty : Hub := (full.update 0 fun session => (session.dequeue 1).2).update 0
    Session.countDown
  have hfull : (scene.server.hub.broadcast message).2 = full := by
    rw [broadcast_of_member sessions members receives, queue]
    rfl
  have hreceive : full.receive 0 1
      = ([message], full.update 0 fun session => (session.dequeue 1).2) := by
    simp [full, Hub.receive, Hub.updateWith, Session.dequeue]
  have hqueued : Transit.move? { scene } (.broadcast data) = some { scene := having full } := by
    rw [Transit.move?, takeIn_of_listener service, hfull]
    rfl
  have hwritten : Transit.move? { scene := having full } (.write 0)
      = some { scene := having empty, wire := [.message 0 (Text.encode message)] } := by
    show Transit.write? { scene := having full } 0 = _
    simp only [Transit.write?, having, hreceive]
    rfl
  have hbroadcast : scene.server.broadcast data = ([], { scene.server with hub := full }) := by
    have hcurrent : scene.server.service.current = some (.listener number address) := by
      rw [service]
      rfl
    simp only [Server.broadcast, hcurrent]
    rw [hfull]
  have hwrite : (having full).writeQueue 0
      = (having empty).handOver (.session 0) (Text.encode message) := rfl
  have hreap : ((having empty).handOver (.session 0) (Text.encode message)).reap 0
      = (having empty).handOver (.session 0) (Text.encode message) := by
    have hempty : empty.sessions = #[{ session with
        pending := session.pending + 1 - 1, queue := #[] }] := by
      simp [empty, full, Hub.update, Session.dequeue, Session.countDown]
    exact reap_of_read hempty receives.1 (clients_handOver hclients _)
  have hscene : (scene.broadcast data).2
      = (having empty).handOver (.session 0) (Text.encode message) := by
    have hrest : (scene.broadcast data).2 = (having full).rest := by
      simp only [Scene.broadcast, hbroadcast, ite_self]
      rfl
    rw [hrest, rest_of_one_session rfl, hwrite, hreap]
  simp only [broadcastMoves, play, hqueued, hwritten, hscene]
  rfl

/-- With nothing in between, a broadcast does what `Scene.broadcast` does. -/
theorem play_broadcastMoves {scene : Scene} {read : List Bytes} {data : Bytes}
    (h : Carries config peer { scene } { read }) (hlength : data.length ≤ maxDatagram) :
    play Transit.move? { scene } (broadcastMoves peer data)
      = some { scene := (scene.broadcast data).2 } := by
  cases h.server with
  | @sender group _ _ _ _ service sessions =>
      have hloop : scene.config.multicastLoop = true := by
        rw [h.configured]
        exact (h.hears group rfl).1
      exact play_broadcast_group hloop service sessions hlength
  | listener service sessions members receives queue =>
      have hempty := Array.toList_eq_nil_iff.mp (List.map_eq_nil_iff.mp queue)
      exact play_broadcast_session h.clients service sessions members receives hempty

/-- It has been read when the call returns. -/
theorem flow_broadcastMoves {scene : Scene} {read : List Bytes}
    (h : Carries config peer { scene } { read }) (data : Bytes) :
    play (Flow.move? · peer) { read } (broadcastMoves peer data)
      = some { read := read ++ [data] } := by
  cases h.server with
  | sender => rfl
  | listener => rfl

/-- What is broadcast by calls that run to their end has been read. -/
theorem carries_broadcasts {scene : Scene} {read : List Bytes}
    (h : Carries config peer { scene } { read }) {broadcasts : List Bytes}
    (hdata : ∀ data ∈ broadcasts, data.toByteArray.IsValidUTF8 ∧ data.length ≤ maxDatagram) :
    Carries config peer
      { scene := broadcasts.foldl (fun scene data => (scene.broadcast data).2) scene }
      { read := read ++ broadcasts } := by
  induction broadcasts generalizing scene read with
  | nil =>
      rw [List.append_nil]
      exact h
  | cons data rest ih =>
      obtain ⟨hvalid, hlength⟩ := hdata data List.mem_cons_self
      have hbrings : (broadcastMoves peer data).flatMap TransitMove.brings = [data] := by
        cases peer <;> rfl
      have hplay : Option.Rel (Carries config peer)
          (play Transit.move? { scene } (broadcastMoves peer data))
          (play (Flow.move? · peer) { read } (broadcastMoves peer data)) := by
        refine carries_play h ?_
        rw [hbrings]
        exact List.forall_mem_singleton.mpr ⟨hvalid, hlength⟩
      rw [play_broadcastMoves h hlength, flow_broadcastMoves h] at hplay
      obtain ⟨_, heq, hone⟩ := exists_right_of_rel hplay
      obtain rfl := Option.some.inj heq
      have hrest := ih hone fun other hother => hdata other (List.mem_cons_of_mem _ hother)
      rwa [List.append_assoc] at hrest

/-- **Whichever the engine, a client is told of the frames in what was broadcast, in order, and
once everything has come to rest of all of them.**  The order is kept by one worker, which only the
pooled engine can have more of. -/
theorem delivered_eq_pieces (host : Host) (kind : EngineKind) (config : EngineConfig)
    {address clientAddress : String} {port clientPort : UInt16} {holder : Option IpAddress}
    {threads : Nat} {up joined : Scene} {broadcasts : List Bytes}
    (hstart : (Scene.new host kind config 1).start address port holder threads = (.ok (), up))
    (halone : kind = .pooledMulticast → threads = 1)
    (hconnect : up.connect 0 clientAddress clientPort = (.ok (), joined))
    (hgroup : kind ≠ .webSocket → parseGroup clientAddress clientPort = parseGroup address port ∧
      config.multicastLoop = true ∧ maxDatagram ≤ config.recvBufferSize)
    (hdata : ∀ data ∈ broadcasts, data.toByteArray.IsValidUTF8 ∧ data.length ≤ maxDatagram) :
    (broadcasts.foldl (fun scene data => (scene.broadcast data).2) joined).clients[0]?.map
        (·.log.toList)
      = some (.connected :: (Bytes.pieces config.delimiter broadcasts.flatten).map (.frame "")) ∧
    ∀ moves s, moves.flatMap TransitMove.brings = broadcasts →
      play Transit.move? { scene := joined } moves = some s →
      (∃ read unread, broadcasts = read ++ unread ∧
        s.scene.clients[0]?.map (·.log.toList)
          = some (.connected :: (Bytes.pieces config.delimiter read.flatten).map (.frame "")) ∧
        (s.isAtRest = true → unread = [])) ∧
      ∃ later t, later.flatMap TransitMove.brings = [] ∧ play Transit.move? s later = some t ∧
        t.isAtRest = true := by
  obtain ⟨peer, hjoined⟩ := carries_joined hstart halone hconnect hgroup
  constructor
  · have hall := carries_broadcasts hjoined hdata
    exact log_of_carries hall
  · rintro moves s rfl played
    have hplay := carries_play hjoined hdata
    rw [played] at hplay
    obtain ⟨f, hf, hs⟩ := exists_right_of_rel hplay
    refine ⟨⟨f.read, f.ahead, (Flow.all_play hf).symm, log_of_carries hs, (isAtRest_iff hs).mp⟩, ?_⟩
    exact exists_rest hs

/-- The first server of the pooled engine. -/
def pooledServer : Scene :=
  ((Scene.new .looped .pooledMulticast {} 1).start "239.1.2.3" 9000 none 1).2

/-- A client that has joined its group. -/
def pooledMember : Scene :=
  (pooledServer.connect 0 " 239.1.2.3" 9000).2

/-- An accented letter and the first half of a frame, then nothing, then the other half.  The
last is broadcast while the second is in the worker's hands and the first has arrived. -/
def halves : List TransitMove :=
  [.broadcast [195, 169, 10, 98], .broadcast [], .work 0, .work 0, .work 0, .arrive,
    .broadcast [99, 10], .work 0, .work 0, .arrive, .work 0, .arrive]

/-- Where they lead. -/
def afterHalves : Transit :=
  (play Transit.move? { scene := pooledMember } halves).getD { scene := pooledMember }

theorem delivered_eq_pieces_halves :
    afterHalves.scene.clients[0]?.map (·.log.toList)
      = some [.connected, .frame "" [195, 169], .frame "" [98, 99]] := by
  have hstart : (Scene.new .looped .pooledMulticast {} 1).start "239.1.2.3" 9000 none 1
      = (.ok (), pooledServer) := by cbv
  have hconnect : pooledServer.connect 0 " 239.1.2.3" 9000 = (.ok (), pooledMember) := by cbv
  have hgroup : parseGroup " 239.1.2.3" 9000 = parseGroup "239.1.2.3" 9000 := by cbv
  have hplay : play Transit.move? { scene := pooledMember } halves = some afterHalves := by cbv
  have hchecked : (halves.flatMap TransitMove.brings).all (fun data =>
      data.toByteArray.validateUTF8 && data.length ≤ maxDatagram) = true := by cbv
  have hdata : ∀ data ∈ halves.flatMap TransitMove.brings,
      data.toByteArray.IsValidUTF8 ∧ data.length ≤ maxDatagram := by
    intro data hmem
    have hone := List.all_eq_true.mp hchecked data hmem
    rwa [Bool.and_eq_true, decide_eq_true_eq, ByteArray.validateUTF8_eq_true_iff] at hone
  obtain ⟨-, hplays⟩ := delivered_eq_pieces .looped .pooledMulticast {} hstart
    (fun _ => rfl) hconnect (fun _ => ⟨hgroup, rfl, by decide⟩) hdata
  obtain ⟨⟨read, unread, hall, hlog, hlast⟩, -⟩ := hplays halves afterHalves rfl hplay
  have hrest : afterHalves.isAtRest = true := by cbv
  have hread : [[195, 169, 10, 98], [], [99, 10]] = read := by
    rw [hlast hrest, List.append_nil] at hall
    exact hall
  have hpieces : Bytes.pieces ({} : EngineConfig).delimiter read.flatten = [[195, 169], [98, 99]] := by
    rw [← hread]
    decide
  rw [hlog, hpieces]
  rfl

end Interleaving

end Lifecast
