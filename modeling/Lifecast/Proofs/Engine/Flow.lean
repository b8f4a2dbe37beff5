/-
How broadcasts get from a server to its client.

On its way to a client a broadcast is queued, put on the network and read.  A `Flow` says
where all broadcasts are that have been made: read, on the network, in a worker's hands or
queued, in this order.  `Carries` says that a server and its client have them there, and
`carries_move` that the moves they can make are those of the flow.  None of these changes what
the four make together but a broadcast, which is put at the end (`Flow.all_move`).

The multicast engines pass bytes on as they are.  The connection engine turns them into text
and back, which well-formed bytes survive (`encode_decode`), and its sessions have their own
queues in place of the workers'.
-/
import Lifecast.Interleaving.Transit
import Lifecast.Proofs.Framing
import Lifecast.Proofs.Text.Utf8

namespace Lifecast

/-! ### A client that is told of frames -/

namespace Client

/-- A client that has made a connection and read so much of it. -/
def afterReads (config : EngineConfig) (peer : Peer) (reads : List Bytes) : Client :=
  let (buffer, frames) := (FrameBuffer.empty config.delimiter).feedAll reads
  { config, state := .connected, connection := some { peer, buffer }
    log := (.connected :: frames.map (.frame "")).toArray }

theorem foldl_deliver (reopened : Except EngineError Peer) (frames : List Bytes) (c : Client)
    (hc : c.callback = {}) :
    frames.foldl (deliver reopened) c
      = { c with log := c.log ++ (frames.map (.frame "")).toArray } := by
  induction frames generalizing c with
  | nil => simp
  | cons frame rest ih =>
      have hone : deliver reopened c frame = c.note (.frame "" frame) := by
        simp [deliver, note, hc]
      rw [List.foldl_cons, hone, ih (c.note (.frame "" frame)) hc]
      simp [note]

/-- It reads on as one that has read more. -/
theorem receive_afterReads (reopened : Except EngineError Peer) (config : EngineConfig)
    (peer : Peer) (reads : List Bytes) (chunk : Bytes) :
    (afterReads config peer reads).receive reopened chunk
      = afterReads config peer (reads ++ [chunk]) := by
  have hall := FrameBuffer.feedAll_concat (.empty config.delimiter) reads chunk
  simp only [afterReads, receive, if_true]
  rw [foldl_deliver _ _ _ rfl, hall]
  simp

end Client

/-! ### A pool of one worker -/

namespace WorkerPool

/-- A pool whose one worker holds some bytes or none, with others in the queue. -/
def single (name : String) (held : Option Bytes) (queued log : List Bytes) : WorkerPool Bytes :=
  { name, workers := [held.elim .idle (.busy <| .leaves ·)], queue := queued.map .leaves, log }

theorem submit_single (name : String) (held : Option Bytes) (queued log : List Bytes)
    (data : Bytes) :
    ((single name held queued log).submit (.leaves data)).2
      = single name held (queued ++ [data]) log := by
  simp [submit, single]

/-- The worker ends what it holds or takes what has waited longest. -/
theorem work?_single (name : String) (held : Option Bytes) (queued log : List Bytes) (i : Nat) :
    (single name held queued log).work? true i
      = match i, held, queued with
        | 0, some data, _ => some (single name none queued (log ++ [data]))
        | 0, none, data :: rest => some (single name (some data) rest log)
        | _, _, _ => none := by
  cases i with
  | zero =>
      cases held with
      | some data => simp [work?, finish, single, setWorker]
      | none =>
          cases queued with
          | nil => simp [work?, finish, take, leave, single]
          | cons data rest => simp [work?, finish, take, single, setWorker]
  | succ i => simp [work?, finish, take, leave, single]

end WorkerPool

namespace Interleaving

/-! ### Two systems that make the same moves -/

section Rel

variable {σ τ μ : Type} {R : σ → τ → Prop}

theorem exists_right_of_rel {s : σ} {y : Option τ} (h : Option.Rel R (some s) y) :
    ∃ t, y = some t ∧ R s t := by
  cases h with
  | some hst => exact ⟨_, rfl, hst⟩

theorem exists_left_of_rel {x : Option σ} {t : τ} (h : Option.Rel R x (some t)) :
    ∃ s, x = some s ∧ R s t := by
  cases h with
  | some hst => exact ⟨_, rfl, hst⟩

/-- Two systems that match move by move match play by play. -/
theorem rel_play {move? : σ → μ → Option σ} {other? : τ → μ → Option τ} {P : μ → Prop}
    (matched : ∀ s t m, R s t → P m → Option.Rel R (move? s m) (other? t m)) {moves : List μ}
    (hmoves : ∀ m ∈ moves, P m) {s : σ} {t : τ} (h : R s t) :
    Option.Rel R (play move? s moves) (play other? t moves) := by
  induction moves generalizing s t with
  | nil => exact .some h
  | cons m rest ih =>
      have hstep := matched s t m h (hmoves m List.mem_cons_self)
      rw [play, play]
      cases hs : move? s m with
      | none =>
          cases ht : other? t m with
          | none => exact .none
          | some v =>
              rw [hs, ht] at hstep
              cases hstep
      | some u =>
          rw [hs] at hstep
          obtain ⟨v, hv, huv⟩ := exists_right_of_rel hstep
          rw [hv]
          exact ih (fun m hm => hmoves m (List.mem_cons_of_mem _ hm)) huv

end Rel

/-- The bytes that a move brings in. -/
def TransitMove.brings : TransitMove → List Bytes
  | broadcast data => [data]
  | work _ | write _ | arrive => []

/-! ### Where the broadcasts are -/

/-- All that has been broadcast, by how far it has got. -/
structure Flow where
  /-- What the client has read. -/
  read : List Bytes := []
  /-- What is on the network. -/
  onWire : List Bytes := []
  /-- What a worker holds. -/
  held : Option Bytes := none
  /-- What is queued. -/
  queued : List Bytes := []

namespace Flow

/-- All of it, oldest first. -/
def all (f : Flow) : List Bytes :=
  f.read ++ (f.onWire ++ (f.held.toList ++ f.queued))

/-- What has yet to be read. -/
def ahead (f : Flow) : List Bytes :=
  f.onWire ++ (f.held.toList ++ f.queued)

/-- A move of one of the threads or of the network, for those who read from a peer. -/
def move? (f : Flow) : Peer → TransitMove → Option Flow
  | _, .broadcast data => some { f with queued := f.queued ++ [data] }
  | .group _, .work 0 =>
    match f.held, f.queued with
    | some data, _ => some { f with held := none, onWire := f.onWire ++ [data] }
    | none, data :: rest => some { f with held := some data, queued := rest }
    | none, [] => none
  | .session _, .write 0 =>
    match f.held, f.queued with
    | none, data :: rest => some { f with queued := rest, onWire := f.onWire ++ [data] }
    | _, _ => none
  | _, .arrive =>
    match f.onWire with
    | data :: rest => some { f with read := f.read ++ [data], onWire := rest }
    | [] => none
  | _, _ => none

end Flow

/-! ### Every move takes the broadcasts further -/

/-- The lifecycle of a server that runs. -/
def runs (run : Run) : Service Run :=
  { state := .running, running := some run }

/-- The server has yet to send this to a peer: a worker holds some bytes or none, and the
rest is queued. -/
inductive Holds (server : Server) : Peer → Option Bytes → List Bytes → Prop where
  | sender {group : Group} {name : String} {held : Option Bytes} {queued log : List Bytes}
      (service : server.service = runs (.sender group (.single name held queued log)))
      (sessions : server.hub.sessions = #[]) : Holds server (.group group) held queued
  | listener {number : Nat} {address : SocketAddress} {session : Session} {queued : List Bytes}
      (service : server.service = runs (.listener number address))
      (sessions : server.hub.sessions = #[session])
      (members : server.hub.members = [(session.id, 0)])
      (receives : server.hub.isClosing session = false ∧ session.receiving = true)
      (queue : session.queue.toList.map Text.encode = queued) :
      Holds server (.session 0) none queued

theorem takeIn_of_sender {server : Server} {group : Group} {pool : WorkerPool Bytes} {data : Bytes}
    (service : server.service = runs (.sender group pool)) :
    server.takeIn data = { server with
      service := runs (.sender group (pool.submit (.leaves data)).2) } := by
  simp [Server.takeIn, Service.current, Service.isRunning, Service.keep, service, runs]

theorem takeIn_of_listener {server : Server} {number : Nat} {address : SocketAddress} {data : Bytes}
    (service : server.service = runs (.listener number address)) :
    server.takeIn data
      = { server with hub := (server.hub.broadcast (Text.decode data)).2 } := by
  simp [Server.takeIn, Service.current, Service.isRunning, service, runs]

/-- A broadcast to one session that takes messages puts one into its queue. -/
theorem broadcast_of_member {hub : Hub} {session : Session} (sessions : hub.sessions = #[session])
    (members : hub.members = [(session.id, 0)])
    (receives : hub.isClosing session = false ∧ session.receiving = true) (message : String) :
    (hub.broadcast message).2 = { hub with sessions := #[{ session with
      pending := session.pending + 1, queue := session.queue.push message }] } := by
  simp [Hub.broadcast, Hub.snapshot, Hub.sendAll, Hub.send, Hub.isClosingAt, Hub.update,
    Hub.accept, Session.countUp, Session.enqueue, sessions, members, receives.1, receives.2]

theorem Holds.takeIn {server : Server} {peer : Peer} {held : Option Bytes} {queued : List Bytes}
    (h : Holds server peer held queued) {data : Bytes} (hdata : data.toByteArray.IsValidUTF8) :
    Holds (server.takeIn data) peer held (queued ++ [data]) := by
  cases h with
  | sender service sessions =>
      rw [takeIn_of_sender service, WorkerPool.submit_single]
      exact .sender rfl sessions
  | @listener number address session _ service sessions members receives queue =>
      rw [takeIn_of_listener service, broadcast_of_member sessions members receives]
      refine .listener service rfl members receives ?_
      show (session.queue.push (Text.decode data)).toList.map Text.encode = _
      rw [Array.toList_push, List.map_append, queue, List.map_singleton,
        Text.encode_decode hdata]

/-- How bytes travel to those who read from a peer. -/
def Parcel.to : Peer → Bytes → Parcel
  | .group group, data => .datagram ⟨group, data⟩
  | .session h, data => .message h data

/-- A server and its one client, who reads from a peer, with the broadcasts where the flow has
them. -/
structure Carries (config : EngineConfig) (peer : Peer) (s : Transit) (f : Flow) : Prop where
  configured : s.scene.config = config
  clients : s.scene.clients = #[.afterReads config peer f.read]
  server : Holds s.scene.server peer f.held f.queued
  wire : s.wire = f.onWire.map (Parcel.to peer)
  fits : ∀ data ∈ f.ahead, data.length ≤ maxDatagram
  hears : ∀ group, peer = .group group →
    config.multicastLoop = true ∧ maxDatagram ≤ config.recvBufferSize

variable {config : EngineConfig} {peer : Peer} {s : Transit} {f : Flow}

theorem clients_handOver {scene : Scene} {read : List Bytes}
    (hclients : scene.clients = #[.afterReads config peer read]) (chunk : Bytes) :
    (scene.handOver peer chunk).clients = #[.afterReads config peer (read ++ [chunk])] := by
  have hreads : (Client.afterReads config peer read).reads = some peer := rfl
  simp [Scene.handOver, hclients, hreads, Client.receive_afterReads]

/-- What arrives is read. -/
theorem clients_deliver (scene : Scene) (read : List Bytes) {data : Bytes}
    (hclients : scene.clients = #[.afterReads config peer read])
    (hroom : ∀ group, peer = .group group → data.length ≤ scene.config.recvBufferSize) :
    (Transit.deliver scene (Parcel.to peer data)).clients
      = #[.afterReads config peer (read ++ [data])] := by
  cases peer with
  | group group =>
      show (scene.handOver (.group group) (data.take scene.config.recvBufferSize)).clients = _
      rw [List.take_of_length_le (hroom group rfl)]
      exact clients_handOver hclients data
  | session h => exact clients_handOver hclients data

theorem server_deliver (scene : Scene) (parcel : Parcel) :
    (Transit.deliver scene parcel).server = scene.server ∧
      (Transit.deliver scene parcel).config = scene.config := by
  cases parcel with
  | datagram d => exact ⟨rfl, rfl⟩
  | message h bytes => exact ⟨rfl, rfl⟩

theorem carries_broadcast (h : Carries config peer s f) {data : Bytes}
    (hvalid : data.toByteArray.IsValidUTF8) (hlength : data.length ≤ maxDatagram) :
    Option.Rel (Carries config peer) (s.move? (.broadcast data))
      (f.move? peer (.broadcast data)) := by
  have hflow : f.move? peer (.broadcast data) = some { f with queued := f.queued ++ [data] } := by
    cases peer <;> rfl
  rw [hflow]
  refine .some ⟨h.configured, h.clients, h.server.takeIn hvalid, h.wire, ?_, h.hears⟩
  intro other hother
  rw [Flow.ahead, ← List.append_assoc, ← List.append_assoc, List.mem_append,
    List.append_assoc] at hother
  rcases hother with hbefore | hnew
  · exact h.fits other hbefore
  · rw [List.mem_singleton.mp hnew]
    exact hlength

theorem carries_arrive (h : Carries config peer s f) :
    Option.Rel (Carries config peer) (s.move? .arrive) (f.move? peer .arrive) := by
  cases hwire : f.onWire with
  | nil =>
      have hflow : f.move? peer .arrive = none := by
        cases peer <;> simp [Flow.move?, hwire]
      have hnone : s.move? .arrive = none := by
        simp [Transit.move?, h.wire, hwire]
      rw [hflow, hnone]
      exact .none
  | cons data rest =>
      have hflow : f.move? peer .arrive
          = some { f with read := f.read ++ [data], onWire := rest } := by
        cases peer <;> simp [Flow.move?, hwire]
      have hsome : s.move? .arrive = some
          { scene := Transit.deliver s.scene (Parcel.to peer data)
            wire := rest.map (Parcel.to peer) } := by
        simp [Transit.move?, h.wire, hwire]
      obtain ⟨hserver, hconfig⟩ := server_deliver s.scene (Parcel.to peer data)
      have hdata : data.length ≤ maxDatagram := h.fits data (by rw [Flow.ahead, hwire]; simp)
      rw [hflow, hsome]
      refine .some ⟨hconfig.trans h.configured, ?_, ?_, rfl, ?_, h.hears⟩
      · refine clients_deliver s.scene f.read h.clients fun group hgroup => ?_
        rw [h.configured]
        exact hdata.trans (h.hears group hgroup).2
      · rw [hserver]
        exact h.server
      · intro other hother
        refine h.fits other ?_
        rw [Flow.ahead, hwire]
        exact List.mem_cons_of_mem _ hother

theorem work?_eq (hloop : s.scene.config.multicastLoop = true) {group : Group}
    {pool : WorkerPool Bytes} (service : s.scene.server.service = runs (.sender group pool))
    (i : Nat) :
    s.work? i = (pool.work? true i).map fun after =>
      (s.withServer { s.scene.server with service := runs (.sender group after) }).post
        (((after.log.drop pool.log.length).filter fun d => d.length ≤ maxDatagram).map
          (Parcel.to (.group group))) := by
  simp only [Transit.work?, service, hloop, if_true]
  rfl

/-- A worker takes a datagram or sends it. -/
theorem carries_work (h : Carries config peer s f) (i : Nat) :
    Option.Rel (Carries config peer) (s.move? (.work i)) (f.move? peer (.work i)) := by
  obtain ⟨read, onWire, held, queued⟩ := f
  cases h.server with
  | listener service =>
      have hnone : s.move? (.work i) = none := by
        simp [Transit.move?, Transit.work?, service, runs]
      rw [hnone]
      cases i <;> exact .none
  | @sender group name _ _ log service sessions =>
      have hloop : s.scene.config.multicastLoop = true := by
        rw [h.configured]
        exact (h.hears group rfl).1
      show Option.Rel _ (s.work? i) _
      rw [work?_eq hloop service, WorkerPool.work?_single]
      match i, held, queued with
      | 0, some data, queued =>
          have hdata : data.length ≤ maxDatagram := h.fits data (by simp [Flow.ahead])
          have hsent : ((log ++ [data]).drop log.length).filter (fun d => d.length ≤ maxDatagram)
              = [data] := by
            rw [List.drop_left]
            simp [hdata]
          refine .some ⟨h.configured, h.clients, .sender rfl sessions, ?_, ?_, h.hears⟩
          · show s.wire ++ (((log ++ [data]).drop log.length).filter _).map _ = _
            rw [hsent, h.wire, List.map_append]
          · simpa [Flow.ahead] using h.fits
      | 0, none, data :: rest =>
          refine .some ⟨h.configured, h.clients, .sender rfl sessions, ?_, ?_, h.hears⟩
          · show s.wire ++ ((log.drop log.length).filter _).map _ = _
            rw [List.drop_length, h.wire]
            exact List.append_nil _
          · simpa [Flow.ahead] using h.fits
      | 0, none, [] => exact .none
      | i + 1, _, _ => exact .none

/-- A session writes what has waited longest. -/
theorem carries_write (h : Carries config peer s f) (i : Handle) :
    Option.Rel (Carries config peer) (s.move? (.write i)) (f.move? peer (.write i)) := by
  obtain ⟨read, onWire, held, queued⟩ := f
  cases h.server with
  | sender service sessions =>
      have hnone : s.move? (.write i) = none := by
        simp [Transit.move?, Transit.write?, Hub.receive, Hub.updateWith, sessions]
      rw [hnone]
      cases i <;> exact .none
  | @listener number address session _ service sessions members receives queue =>
      show Option.Rel _ (s.write? i) _
      match i, queued with
      | 0, [] =>
          have hempty : session.queue = #[] :=
            Array.toList_eq_nil_iff.mp (List.map_eq_nil_iff.mp queue)
          have hnone : s.write? 0 = none := by
            simp [Transit.write?, Hub.receive, Hub.updateWith, Session.dequeue, sessions, hempty]
          rw [hnone]
          exact .none
      | 0, data :: rest =>
          obtain ⟨message, messages, hqueue, hmessage, hmessages⟩ := List.map_eq_cons_iff.mp queue
          have hreceive : s.scene.server.hub.receive 0 1 = ([message],
              s.scene.server.hub.update 0 fun session => (session.dequeue 1).2) := by
            simp [Hub.receive, Hub.updateWith, Session.dequeue, sessions, hqueue]
          have hwritten : s.write? 0 = some ((s.withServer { s.scene.server with
              hub := (s.scene.server.hub.update 0 fun session => (session.dequeue 1).2).update 0
                Session.countDown }).post [Parcel.to (.session 0) data]) := by
            rw [Transit.write?, hreceive, ← hmessage]
            rfl
          have hleft : (session.dequeue 1).2.queue.toList = messages := by
            have hsize : session.queue.size = messages.length + 1 := by
              rw [← Array.length_toList, hqueue, List.length_cons]
            simp [Session.dequeue, hqueue, hsize]
          have hsessions : ((s.scene.server.hub.update 0 fun session =>
              (session.dequeue 1).2).update 0 Session.countDown).sessions
                = #[(session.dequeue 1).2.countDown] := by
            simp [Hub.update, sessions]
          rw [hwritten]
          refine .some ⟨h.configured, h.clients,
            .listener service hsessions members receives ?_, ?_, ?_, h.hears⟩
          · show (session.dequeue 1).2.queue.toList.map Text.encode = rest
            rw [hleft, hmessages]
          · show s.wire ++ _ = _
            rw [h.wire, List.map_append]
            rfl
          · simpa [Flow.ahead] using h.fits
      | i + 1, _ =>
          have hnone : s.write? (i + 1) = none := by
            simp [Transit.write?, Hub.receive, Hub.updateWith, sessions]
          rw [hnone]
          exact .none

/-- **Each move is a move of the broadcasts, and each of those can be made.** -/
theorem carries_move (h : Carries config peer s f) (m : TransitMove)
    (hm : ∀ data ∈ m.brings, data.toByteArray.IsValidUTF8 ∧ data.length ≤ maxDatagram) :
    Option.Rel (Carries config peer) (s.move? m) (f.move? peer m) := by
  cases m with
  | broadcast data =>
      obtain ⟨hvalid, hlength⟩ := hm data (List.mem_singleton_self data)
      exact carries_broadcast h hvalid hlength
  | arrive => exact carries_arrive h
  | work i => exact carries_work h i
  | write i => exact carries_write h i

/-! ### Whole plays -/

/-- How many moves what has not been read needs at most. -/
def Flow.movesLeft (f : Flow) : Nat :=
  f.onWire.length + 2 * f.held.toList.length + 3 * f.queued.length

/-- Nothing is lost on the way, and nothing overtakes. -/
theorem Flow.all_move {g : Flow} {m : TransitMove} (moved : f.move? peer m = some g) :
    g.all = f.all ++ m.brings ∧ (m.brings = [] → g.movesLeft < f.movesLeft) := by
  obtain ⟨read, onWire, held, queued⟩ := f
  cases m with
  | broadcast data =>
      cases peer <;> cases moved <;> exact ⟨by simp [Flow.all, TransitMove.brings], nofun⟩
  | arrive =>
      cases onWire with
      | nil => cases peer <;> cases moved
      | cons data rest =>
          cases peer <;> cases moved <;>
            exact ⟨by simp [Flow.all, TransitMove.brings], fun _ => by simp [Flow.movesLeft]⟩
  | work i =>
      match peer, i, held, queued with
      | .group _, 0, some data, queued =>
          cases moved
          exact ⟨by simp [Flow.all, TransitMove.brings], fun _ => by simp [Flow.movesLeft]⟩
      | .group _, 0, none, data :: rest =>
          cases moved
          exact ⟨by simp [Flow.all, TransitMove.brings], fun _ => by simp [Flow.movesLeft]; omega⟩
      | .group _, 0, none, [] | .group _, i + 1, _, _ | .session _, 0, _, _
      | .session _, i + 1, _, _ => cases moved
  | write i =>
      match peer, i, held, queued with
      | .session _, 0, none, data :: rest =>
          cases moved
          exact ⟨by simp [Flow.all, TransitMove.brings], fun _ => by simp [Flow.movesLeft]; omega⟩
      | .session _, 0, none, [] | .session _, 0, some _, _ | .session _, i + 1, _, _
      | .group _, 0, _, _ | .group _, i + 1, _, _ => cases moved

theorem Flow.all_play {g : Flow} {moves : List TransitMove}
    (played : play (Flow.move? · peer) f moves = some g) :
    g.all = f.all ++ moves.flatMap TransitMove.brings := by
  induction moves generalizing f with
  | nil =>
      obtain rfl := Option.some.inj played
      exact (List.append_nil _).symm
  | cons m rest ih =>
      rw [play] at played
      split at played
      · cases played
      · next e moved =>
          rw [ih played, (Flow.all_move moved).1, List.flatMap_cons, List.append_assoc]

theorem carries_play {moves : List TransitMove} (h : Carries config peer s f)
    (hdata : ∀ data ∈ moves.flatMap TransitMove.brings,
      data.toByteArray.IsValidUTF8 ∧ data.length ≤ maxDatagram) :
    Option.Rel (Carries config peer) (play Transit.move? s moves)
      (play (Flow.move? · peer) f moves) := by
  refine rel_play (P := fun m => ∀ data ∈ m.brings,
    data.toByteArray.IsValidUTF8 ∧ data.length ≤ maxDatagram) ?_ ?_ h
  · exact fun s f m h hm => carries_move h m hm
  · exact fun m hm data hin => hdata data (List.mem_flatMap.mpr ⟨m, hm, hin⟩)

theorem isAtRest_iff (h : Carries config peer s f) : s.isAtRest = true ↔ f.ahead = [] := by
  have hwire : s.wire.isEmpty = true ↔ f.onWire = [] := by
    rw [h.wire, List.isEmpty_iff, List.map_eq_nil_iff]
  obtain ⟨read, onWire, held, queued⟩ := f
  rw [Transit.isAtRest, Bool.and_eq_true, hwire, Flow.ahead, List.append_eq_nil_iff,
    List.append_eq_nil_iff]
  cases h.server with
  | sender service =>
      cases held <;>
        simp [service, runs, WorkerPool.isDrained, WorkerPool.single, Worker.isBusy]
  | @listener _ _ session _ service sessions members receives queue =>
      have hempty : queued = [] ↔ session.queue = #[] := by
        obtain rfl : session.queue.toList.map Text.encode = queued := queue
        rw [List.map_eq_nil_iff, Array.toList_eq_nil_iff]
      simp [service, runs, sessions, hempty]

/-- As long as something is on its way, somebody can move. -/
theorem exists_move (h : Carries config peer s f) (hahead : f.ahead ≠ []) :
    ∃ m g, m.brings = [] ∧ f.move? peer m = some g := by
  obtain ⟨read, onWire, held, queued⟩ := f
  cases onWire with
  | cons data rest =>
      refine ⟨.arrive, { read := read ++ [data], onWire := rest, held, queued }, rfl, ?_⟩
      cases peer <;> rfl
  | nil =>
      cases h.server with
      | sender =>
          match held, queued with
          | some data, queued => exact ⟨.work 0, _, rfl, rfl⟩
          | none, data :: rest => exact ⟨.work 0, _, rfl, rfl⟩
          | none, [] => exact absurd rfl hahead
      | listener =>
          match queued with
          | data :: rest => exact ⟨.write 0, _, rfl, rfl⟩
          | [] => exact absurd rfl hahead

/-- Whatever is on its way arrives if everybody goes on. -/
theorem exists_rest (h : Carries config peer s f) :
    ∃ moves t, moves.flatMap TransitMove.brings = [] ∧ play Transit.move? s moves = some t ∧
      t.isAtRest = true := by
  induction hn : f.movesLeft using Nat.strong_induction_on generalizing s f with
  | _ n ih =>
      by_cases hahead : f.ahead = []
      · exact ⟨[], s, rfl, rfl, (isAtRest_iff h).mpr hahead⟩
      · obtain ⟨m, g, hm, hg⟩ := exists_move h hahead
        have hstep := carries_move h m (by rw [hm]; exact nofun)
        rw [hg] at hstep
        obtain ⟨u, hu, hcarries⟩ := exists_left_of_rel hstep
        have hless := (Flow.all_move hg).2 hm
        obtain ⟨moves, t, hmoves, played, hrest⟩ := ih _ (hn ▸ hless) hcarries rfl
        refine ⟨m :: moves, t, ?_, ?_, hrest⟩
        · rw [List.flatMap_cons, hm, hmoves]
          rfl
        · rw [play, hu]
          exact played

/-- The client has been told of the frames in what it has read. -/
theorem log_of_carries (h : Carries config peer s f) :
    s.scene.clients[0]?.map (·.log.toList)
      = some (.connected :: (Bytes.pieces config.delimiter f.read.flatten).map (.frame "")) := by
  rw [h.clients, ← (FrameBuffer.feedAll_eq_pieces config.delimiter f.read).1]
  rfl

end Interleaving

end Lifecast
