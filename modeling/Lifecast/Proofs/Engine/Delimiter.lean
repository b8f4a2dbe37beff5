/-
Which delimiters an engine can be used with.

The multicast engines pass on the bytes of a broadcast as they are, so a frame arrives whatever
byte ends it.  The connection engine turns them into text first.  A delimiter that is no
character of its own is replaced on the way, and the client, which looks for the delimiter that
is configured, does not find the end of the frame where it was (`delivered_iff`).

One frame is broadcast and followed to the client.  `Place` is how far it has got and `Bears`
says that a server and its client have it there; every move takes it one place further, and
there is a move as long as it has not been read (`bears_move`, `exists_bears_move`).  There may
be several workers, since a single frame cannot be overtaken.
-/
import Mathlib
import Lifecast.Proofs.Engine.Interchange

namespace Lifecast

/-- What becomes of some bytes on their way to those who read from a peer. -/
def Peer.passes : Peer → Bytes → Bytes
  | group _, data => data
  | session _, data => Text.encode (Text.decode data)

namespace Interleaving

/-- How far the frame has got. -/
inductive Place where
  /-- It has yet to be broadcast. -/
  | unmade
  /-- It is queued. -/
  | queued
  /-- Worker `i` holds it. -/
  | held (i : Nat)
  /-- It is on the network. -/
  | onWire
  /-- It has been read. -/
  | read
deriving DecidableEq

namespace Place

/-- How many moves are left until it has been read. -/
def movesLeft : Peer → Place → Nat
  | _, unmade => 0
  | .group _, queued => 3
  | .session _, queued => 2
  | _, held _ => 2
  | _, onWire => 1
  | _, read => 0

/-- What has been read, of what arrives. -/
def reads (arrives : Bytes) : Place → List Bytes
  | read => [arrives]
  | _ => []

/-- Where worker `i` takes it. -/
def worked (i : Nat) : Place → Option Place
  | queued => some (held i)
  | held j => if i = j then some onWire else none
  | _ => none

/-- The pool of `n` workers that is to send it. -/
def pool (name : String) (n : Nat) (data : Bytes) : Place → WorkerPool Bytes
  | unmade => { name, workers := List.replicate n .idle }
  | queued => { name, workers := List.replicate n .idle, queue := [.leaves data] }
  | held i => { name, workers := (List.replicate n .idle).set i (.busy (.leaves data)) }
  | onWire | read => { name, workers := List.replicate n .idle, log := [data] }

/-- A worker takes the frame from the queue, and then sends it. -/
theorem work?_pool (name : String) (n : Nat) (data : Bytes) (place : Place) (i : Nat) :
    (place.pool name n data).work? true i
      = (if i < n then place.worked i else none).map (pool name n data) := by
  by_cases hi : i < n
  · cases place with
    | unmade | onWire | read =>
        simp [WorkerPool.work?, WorkerPool.finish, WorkerPool.take, WorkerPool.leave, pool,
          worked, hi]
    | queued =>
        simp [WorkerPool.work?, WorkerPool.finish, WorkerPool.take, WorkerPool.setWorker, pool,
          worked, hi]
    | held j =>
        by_cases hij : i = j
        · subst hij
          simp [WorkerPool.work?, WorkerPool.finish, WorkerPool.setWorker, pool, worked, hi,
            List.set_set]
        · have hji : j ≠ i := fun heq => hij heq.symm
          simp [WorkerPool.work?, WorkerPool.finish, WorkerPool.take, WorkerPool.leave, pool,
            worked, hi, hij, hji]
  · cases place with
    | unmade | onWire | read | queued =>
        simp [WorkerPool.work?, WorkerPool.finish, WorkerPool.take, WorkerPool.leave, pool, hi]
    | held j =>
        simp [WorkerPool.work?, WorkerPool.finish, WorkerPool.take, WorkerPool.leave, pool, hi]

end Place

/-! ### A server and its client on the way -/

/-- The server has the frame in a place before or behind its own. -/
inductive Keeps (server : Server) (data : Bytes) : Peer → Place → Prop where
  | sender {group : Group} {name : String} {n : Nat} {place : Place}
      (service : server.service = runs (.sender group (place.pool name n data)))
      (sessions : server.hub.sessions = #[]) (some_worker : 0 < n)
      (worker : ∀ i, place = .held i → i < n) : Keeps server data (.group group) place
  | listener {number : Nat} {address : SocketAddress} {session : Session} {place : Place}
      (service : server.service = runs (.listener number address))
      (sessions : server.hub.sessions = #[session])
      (members : server.hub.members = [(session.id, 0)])
      (receives : server.hub.isClosing session = false ∧ session.receiving = true)
      (queue : session.queue = if place = .queued then #[Text.decode data] else #[])
      (no_worker : ∀ i, place ≠ .held i) : Keeps server data (.session 0) place

/-- A server and its one client, who reads from a peer, with the frame in some place. -/
structure Bears (config : EngineConfig) (peer : Peer) (data : Bytes) (s : Transit)
    (place : Place) : Prop where
  configured : s.scene.config = config
  clients : s.scene.clients = #[.afterReads config peer (place.reads (peer.passes data))]
  server : Keeps s.scene.server data peer place
  wire : s.wire = if place = .onWire then [Parcel.to peer (peer.passes data)] else []
  hears : ∀ group, peer = .group group →
    config.multicastLoop = true ∧ data.length ≤ maxDatagram ∧
      data.length ≤ config.recvBufferSize

variable {config : EngineConfig} {peer : Peer} {data : Bytes} {s t : Transit} {place : Place}

/-- The call to broadcast it queues it. -/
theorem bears_broadcast (h : Bears config peer data s .unmade) :
    ∃ t, s.move? (.broadcast data) = some t ∧ Bears config peer data t .queued := by
  refine ⟨_, rfl, h.configured, h.clients, ?_, h.wire, h.hears⟩
  cases h.server with
  | @sender group name n _ service sessions some_worker =>
      show Keeps (s.scene.server.takeIn data) data _ _
      rw [takeIn_of_sender service]
      exact .sender rfl sessions some_worker nofun
  | @listener number address session _ service sessions members receives queue =>
      show Keeps (s.scene.server.takeIn data) data _ _
      rw [takeIn_of_listener service, broadcast_of_member sessions members receives]
      refine .listener service rfl members receives ?_ nofun
      show session.queue.push (Text.decode data) = _
      rw [queue]
      rfl

/-- What is on the network is read. -/
theorem bears_arrive (h : Bears config peer data s .onWire) :
    ∃ t, s.move? .arrive = some t ∧ Bears config peer data t .read := by
  have hwire : s.wire = [Parcel.to peer (peer.passes data)] := h.wire
  obtain ⟨hserver, hconfig⟩ := server_deliver s.scene (Parcel.to peer (peer.passes data))
  refine ⟨{ scene := Transit.deliver s.scene (Parcel.to peer (peer.passes data)) }, ?_,
    hconfig.trans h.configured, ?_, ?_, rfl, h.hears⟩
  · simp [Transit.move?, hwire]
  · refine clients_deliver s.scene [] h.clients ?_
    rintro group rfl
    rw [h.configured]
    exact (h.hears group rfl).2.2
  · show Keeps (Transit.deliver s.scene _).server _ _ _
    rw [hserver]
    cases h.server with
    | sender service sessions some_worker => exact .sender service sessions some_worker (by simp)
    | listener service sessions members receives queue =>
        exact .listener service sessions members receives queue (by simp)

/-- A worker takes it or sends it. -/
theorem bears_work {i : Nat} (h : Bears config peer data s place)
    (moved : s.move? (.work i) = some t) :
    ∃ next, place.worked i = some next ∧ (∃ group, peer = .group group) ∧
      Bears config peer data t next := by
  cases h.server with
  | listener service => simp [Transit.move?, Transit.work?, service, runs] at moved
  | @sender group name n _ service sessions some_worker worker =>
      obtain ⟨hloop, hlength, -⟩ := h.hears group rfl
      rw [← h.configured] at hloop
      rw [Transit.move?, work?_eq hloop service, Place.work?_pool] at moved
      split at moved
      · next hi =>
          cases place with
          | unmade | onWire | read => cases moved
          | queued =>
              cases moved
              refine ⟨.held i, rfl, ⟨group, rfl⟩, h.configured, h.clients, ?_, ?_, h.hears⟩
              · exact .sender rfl sessions some_worker fun j hj => Place.held.inj hj ▸ hi
              · show s.wire ++ [] = _
                rw [h.wire]
                rfl
          | held j =>
              by_cases hij : i = j
              · simp only [Place.worked, hij, if_true] at moved
                cases moved
                refine ⟨.onWire, by simp [Place.worked, hij], ⟨group, rfl⟩, h.configured,
                  h.clients, .sender rfl sessions some_worker (by simp), ?_, h.hears⟩
                show s.wire ++ _ = _
                simp [h.wire, Place.pool, Peer.passes, hlength]
              · simp [Place.worked, hij] at moved
      · cases moved

/-- A session writes it. -/
theorem bears_write {i : Handle} (h : Bears config peer data s place)
    (moved : s.move? (.write i) = some t) :
    place = .queued ∧ peer = .session 0 ∧ Bears config peer data t .onWire := by
  cases h.server with
  | sender service sessions =>
      simp [Transit.move?, Transit.write?, Hub.receive, Hub.updateWith, sessions] at moved
  | @listener number address session _ service sessions members receives queue =>
      by_cases hqueued : place = .queued
      · subst hqueued
        have hqueue : session.queue = #[Text.decode data] := queue
        cases i with
        | zero =>
            have hreceive : s.scene.server.hub.receive 0 1 = ([Text.decode data],
                s.scene.server.hub.update 0 fun session => (session.dequeue 1).2) := by
              simp [Hub.receive, Hub.updateWith, Session.dequeue, sessions, hqueue]
            rw [Transit.move?, Transit.write?, hreceive] at moved
            cases moved
            refine ⟨rfl, rfl, h.configured, h.clients, ?_, ?_, h.hears⟩
            · have hsessions : ((s.scene.server.hub.update 0 fun session =>
                  (session.dequeue 1).2).update 0 Session.countDown).sessions
                    = #[(session.dequeue 1).2.countDown] := by
                simp [Hub.update, sessions]
              refine .listener service hsessions members receives ?_ (by simp)
              show (session.dequeue 1).2.queue = #[]
              simp [Session.dequeue, hqueue]
            · show s.wire ++ _ = _
              rw [h.wire]
              rfl
        | succ i =>
            simp [Transit.move?, Transit.write?, Hub.receive, Hub.updateWith, sessions] at moved
      · have hqueue : session.queue = #[] := by
          rw [queue, if_neg hqueued]
        cases i with
        | zero =>
            simp [Transit.move?, Transit.write?, Hub.receive, Hub.updateWith, Session.dequeue,
              sessions, hqueue] at moved
        | succ i =>
            simp [Transit.move?, Transit.write?, Hub.receive, Hub.updateWith, sessions] at moved

/-- **Each move takes the frame one place further.** -/
theorem bears_move {m : TransitMove} (h : Bears config peer data s place) (hm : m.brings = [])
    (moved : s.move? m = some t) :
    ∃ next, Bears config peer data t next ∧ next ≠ .unmade ∧
      next.movesLeft peer + 1 = place.movesLeft peer := by
  cases m with
  | broadcast data => cases hm
  | arrive =>
      by_cases hwire : place = .onWire
      · subst hwire
        obtain ⟨u, harrive, hread⟩ := bears_arrive h
        obtain rfl := Option.some.inj (moved.symm.trans harrive)
        refine ⟨.read, hread, by simp, ?_⟩
        cases peer <;> rfl
      · simp [Transit.move?, h.wire, hwire] at moved
  | work i =>
      obtain ⟨next, hworked, ⟨group, rfl⟩, hnext⟩ := bears_work h moved
      refine ⟨next, hnext, ?_⟩
      cases place with
      | unmade | onWire | read => cases hworked
      | queued =>
          cases hworked
          exact ⟨by simp, rfl⟩
      | held j =>
          simp only [Place.worked] at hworked
          split at hworked
          · cases hworked
            exact ⟨by simp, rfl⟩
          · cases hworked
  | write i =>
      obtain ⟨rfl, rfl, hnext⟩ := bears_write h moved
      exact ⟨.onWire, hnext, by simp, rfl⟩

/-- As long as the frame has not been read somebody can move. -/
theorem exists_bears_move (h : Bears config peer data s place)
    (hleft : place.movesLeft peer ≠ 0) :
    ∃ m t, m.brings = [] ∧ s.move? m = some t := by
  cases h.server with
  | @sender group name n _ service sessions some_worker worker =>
      obtain ⟨hloop, -, -⟩ := h.hears group rfl
      rw [← h.configured] at hloop
      have hwork : ∀ i, i < n → place.worked i ≠ none → ∃ t, s.move? (.work i) = some t := by
        intro i hi hworked
        obtain ⟨next, hnext⟩ := Option.ne_none_iff_exists'.mp hworked
        rw [Transit.move?, work?_eq hloop service, Place.work?_pool, if_pos hi, hnext]
        exact ⟨_, rfl⟩
      cases place with
      | unmade | read => exact absurd rfl hleft
      | queued =>
          obtain ⟨t, ht⟩ := hwork 0 some_worker (Option.some_ne_none _)
          exact ⟨.work 0, t, rfl, ht⟩
      | held i =>
          obtain ⟨t, ht⟩ := hwork i (worker i rfl) (by simp [Place.worked])
          exact ⟨.work i, t, rfl, ht⟩
      | onWire =>
          obtain ⟨t, ht, -⟩ := bears_arrive h
          exact ⟨.arrive, t, rfl, ht⟩
  | @listener number address session _ service sessions members receives queue no_worker =>
      cases place with
      | unmade | read => exact absurd rfl hleft
      | held i => exact absurd rfl (no_worker i)
      | queued =>
          have hqueue : session.queue = #[Text.decode data] := queue
          refine ⟨.write 0, ?_⟩
          simp [TransitMove.brings, Transit.move?, Transit.write?, Hub.receive, Hub.updateWith,
            Session.dequeue, sessions, hqueue]
      | onWire =>
          obtain ⟨t, ht, -⟩ := bears_arrive h
          exact ⟨.arrive, t, rfl, ht⟩

/-- Everything is at rest when the frame has been read, or has yet to be broadcast. -/
theorem bears_isAtRest (h : Bears config peer data s place) :
    s.isAtRest = true ↔ place.movesLeft peer = 0 := by
  rw [Transit.isAtRest, h.wire]
  cases h.server with
  | @sender group name n _ service sessions some_worker worker =>
      cases place with
      | held i =>
          have hi : i < n := worker i rfl
          have hbusy : (Place.held i |>.pool name n data).workers.any Worker.isBusy = true := by
            rw [List.any_eq_true]
            refine ⟨.busy (.leaves data), ?_, rfl⟩
            exact List.mem_set (by simpa using hi) _
          simp [service, runs, WorkerPool.isDrained, hbusy, Place.movesLeft]
      | unmade | queued | onWire | read =>
          simp [service, runs, WorkerPool.isDrained, Place.pool, Place.movesLeft, Worker.isBusy]
  | listener service sessions members receives queue no_worker =>
      cases place with
      | held i => exact absurd rfl (no_worker i)
      | unmade | queued | onWire | read =>
          simp [service, runs, sessions, queue, Place.movesLeft]

/-! ### Whole plays -/

theorem bears_play {moves : List TransitMove} (h : Bears config peer data s place)
    (hmade : place ≠ .unmade) (hmoves : moves.flatMap TransitMove.brings = [])
    (played : play Transit.move? s moves = some t) :
    ∃ next, Bears config peer data t next ∧ next ≠ .unmade ∧
      next.movesLeft peer + moves.length = place.movesLeft peer := by
  induction moves generalizing s place with
  | nil =>
      obtain rfl := Option.some.inj played
      exact ⟨place, h, hmade, rfl⟩
  | cons m rest ih =>
      rw [List.flatMap_cons, List.append_eq_nil_iff] at hmoves
      rw [play] at played
      split at played
      · cases played
      · next u moved =>
          obtain ⟨next, hnext, hnextMade, hfirst⟩ := bears_move h hmoves.1 moved
          obtain ⟨last, hlast, hlastMade, hrest⟩ := ih hnext hnextMade hmoves.2 played
          refine ⟨last, hlast, hlastMade, ?_⟩
          rw [List.length_cons]
          omega

/-- Whoever goes on brings the frame to where it is read. -/
theorem exists_bears_rest (h : Bears config peer data s place) :
    ∃ moves t, moves.flatMap TransitMove.brings = [] ∧ play Transit.move? s moves = some t ∧
      t.isAtRest = true := by
  induction hn : place.movesLeft peer generalizing s place with
  | zero => exact ⟨[], s, rfl, rfl, (bears_isAtRest h).mpr hn⟩
  | succ n ih =>
      obtain ⟨m, u, hm, moved⟩ := exists_bears_move h (by omega)
      obtain ⟨next, hnext, -, hless⟩ := bears_move h hm moved
      obtain ⟨moves, t, hmoves, played, hrest⟩ := ih hnext (by omega)
      refine ⟨m :: moves, t, ?_, ?_, hrest⟩
      · rw [List.flatMap_cons, hm, hmoves]
        rfl
      · rw [play, moved]
        exact played

/-- A play in which only the frame is broadcast begins with its broadcast, as there is nothing
else to be moved. -/
theorem bears_play_broadcast {moves : List TransitMove} (h : Bears config peer data s .unmade)
    (hmoves : moves.flatMap TransitMove.brings = [data])
    (played : play Transit.move? s moves = some t) :
    ∃ place, Bears config peer data t place ∧
      (t.isAtRest = true → t.scene.clients = #[.afterReads config peer [peer.passes data]]) := by
  cases moves with
  | nil => cases hmoves
  | cons m rest =>
      rw [play] at played
      split at played
      · cases played
      · next u moved =>
          obtain ⟨rfl, hrest⟩ : m = .broadcast data ∧ rest.flatMap TransitMove.brings = [] := by
            by_cases hm : m.brings = []
            · -- A move of anybody else would leave less than nothing to be done.
              obtain ⟨next, -, -, hleft⟩ := bears_move h hm moved
              cases peer <;> cases hleft
            · cases m with
              | broadcast other => simpa [TransitMove.brings] using hmoves
              | work i | write i | arrive => exact absurd rfl hm
          obtain ⟨v, hv, hqueued⟩ := bears_broadcast h
          obtain rfl := Option.some.inj (moved.symm.trans hv)
          obtain ⟨place, hplace, hmade, -⟩ := bears_play hqueued (by simp) hrest played
          refine ⟨place, hplace, fun hatRest => ?_⟩
          have hleft := (bears_isAtRest hplace).mp hatRest
          rw [hplace.clients]
          cases place with
          | unmade => exact absurd rfl hmade
          | read => rfl
          | queued | held | onWire => cases peer <;> cases hleft

/-! ### A broadcast that nothing comes between -/

/-- With a single frame to send, the first worker takes it and sends it. -/
theorem settle_pool (name : String) {n : Nat} (hn : 0 < n) (data : Bytes) :
    (Place.queued.pool name n data).settle true = Place.read.pool name n data := by
  have hlength : ∀ place, (Place.pool name n data place).workers.length = n := by
    intro place
    cases place <;> simp [Place.pool]
  have hfirst : ∀ place next, place.worked 0 = some next →
      (Place.pool name n data place).move? true = some (next.pool name n data) := by
    intro place next hworked
    obtain ⟨k, rfl⟩ := Nat.exists_eq_add_of_lt hn
    rw [WorkerPool.move?, hlength, Nat.zero_add, List.range_succ_eq_map, List.findSome?_cons,
      Place.work?_pool, if_pos (Nat.zero_lt_succ k), hworked]
    rfl
  have hnobody : (Place.onWire.pool name n data).move? true = none := by
    rw [WorkerPool.move?, List.findSome?_eq_none_iff]
    intro i _
    rw [Place.work?_pool]
    simp [Place.worked]
  have hleft : (Place.queued.pool name n data).movesLeft = 3 * n + 3 := by
    rw [WorkerPool.movesLeft, hlength, Nat.add_comm]
    rfl
  rw [WorkerPool.settle, hleft, WorkerPool.settleFor, hfirst .queued (.held 0) rfl]
  show WorkerPool.settleFor true (3 * n + 2) _ = _
  rw [WorkerPool.settleFor, hfirst (.held 0) .onWire rfl]
  show WorkerPool.settleFor true (3 * n + 1) _ = _
  rw [WorkerPool.settleFor, hnobody]
  rfl

/-- What is queued for a group is taken, sent and handed over. -/
theorem play_frame_group {scene : Scene} {group : Group} {name : String} {n : Nat} (hn : 0 < n)
    (hloop : scene.config.multicastLoop = true)
    (service : scene.server.service
      = runs (.sender group (Place.unmade.pool name n data)))
    (sessions : scene.server.hub.sessions = #[]) (hlength : data.length ≤ maxDatagram) :
    play Transit.move? { scene } (broadcastMoves (.group group) data)
      = some { scene := (scene.broadcast data).2 } := by
  let having (place : Place) : Scene := { scene with server := { scene.server with
    service := runs (.sender group (place.pool name n data)) } }
  have hqueued : Transit.move? { scene } (.broadcast data)
      = some { scene := having .queued } := by
    rw [Transit.move?, takeIn_of_sender service]
    rfl
  have htaken : Transit.move? { scene := having .queued } (.work 0)
      = some { scene := having (.held 0) } := by
    rw [Transit.move?, work?_eq hloop rfl, Place.work?_pool, if_pos hn]
    simp [Place.worked, having, Place.pool, Transit.withServer, Transit.post]
  have hsent : Transit.move? { scene := having (.held 0) } (.work 0)
      = some { scene := having .onWire, wire := [.datagram ⟨group, data⟩] } := by
    rw [Transit.move?, work?_eq hloop rfl, Place.work?_pool, if_pos hn]
    simp [Place.worked, having, Place.pool, Transit.withServer, Transit.post, hlength, Parcel.to]
  have hbroadcast : scene.server.broadcast data
      = ([⟨group, data⟩], (having .onWire).server) := by
    have hcurrent : scene.server.service.current
        = some (.sender group (Place.unmade.pool name n data)) := by
      rw [service]
      rfl
    have hsettled : ((Place.unmade.pool name n data).submit (.leaves data)).2.settle true
        = Place.read.pool name n data := settle_pool name hn data
    simp only [Server.broadcast, hcurrent, hsettled]
    simp [having, Place.pool, hlength, service, runs, Service.keep]
  have hscene : (scene.broadcast data).2
      = Scene.deliverDatagram (having .onWire) ⟨group, data⟩ := by
    simp only [Scene.broadcast, hbroadcast, hloop, if_true]
    exact rest_of_no_sessions sessions
  simp only [broadcastMoves, play, hqueued, htaken, hsent, hscene]
  rfl

/-- With nothing in between, a broadcast of a frame does what `Scene.broadcast` does. -/
theorem play_broadcast_frame {scene : Scene} (h : Bears config peer data { scene } .unmade) :
    play Transit.move? { scene } (broadcastMoves peer data)
      = some { scene := (scene.broadcast data).2 } := by
  cases h.server with
  | @sender group name n _ service sessions some_worker =>
      obtain ⟨hloop, hlength, -⟩ := h.hears group rfl
      have hconfig : scene.config = config := h.configured
      exact play_frame_group some_worker (hconfig ▸ hloop) service sessions hlength
  | listener service sessions members receives queue =>
      exact play_broadcast_session h.clients service sessions members receives queue

/-- Nothing is left to be done when the call returns. -/
theorem isAtRest_broadcast {scene : Scene} (h : Bears config peer data { scene } .unmade) :
    ({ scene := (scene.broadcast data).2 } : Transit).isAtRest = true := by
  have played := play_broadcast_frame h
  obtain ⟨u, hu, hqueued⟩ := bears_broadcast h
  cases peer with
  | group group =>
      rw [broadcastMoves, play, hu] at played
      obtain ⟨next, hnext, -, hleft⟩ := bears_play hqueued (by simp) rfl played
      exact (bears_isAtRest hnext).mpr (Nat.add_right_cancel hleft)
  | session handle =>
      rw [broadcastMoves, play, hu] at played
      obtain ⟨next, hnext, -, hleft⟩ := bears_play hqueued (by simp) rfl played
      exact (bears_isAtRest hnext).mpr (Nat.add_right_cancel hleft)

/-- So the client has then read what became of the frame. -/
theorem clients_broadcast {scene : Scene} (h : Bears config peer data { scene } .unmade) :
    (scene.broadcast data).2.clients = #[.afterReads config peer [peer.passes data]] := by
  have hbrings : (broadcastMoves peer data).flatMap TransitMove.brings = [data] := by
    cases peer <;> rfl
  obtain ⟨_, _, hread⟩ := bears_play_broadcast h hbrings (play_broadcast_frame h)
  exact hread (isAtRest_broadcast h)

/-! ### What the client makes of it -/

/-- Since it connected the first client has been told of this frame and of no other, and nothing
waits in its buffer. -/
def DeliveredOnly (scene : Scene) (payload : Bytes) : Prop :=
  ∃ client connection, scene.clients[0]? = some client ∧
    client.log.toList = [.connected, .frame "" payload] ∧ client.connection = some connection ∧
    connection.buffer.pending = 0

/-- So it is if what it has read is this frame and nothing else. -/
theorem deliveredOnly_iff {scene : Scene} {arrives payload : Bytes}
    (hclients : scene.clients = #[.afterReads config peer [arrives]]) :
    DeliveredOnly scene payload ↔ Bytes.pieces config.delimiter arrives = [payload] ∧
      Bytes.afterLast config.delimiter arrives = [] := by
  obtain ⟨hframes, hunfinished⟩ := FrameBuffer.feedAll_eq_pieces config.delimiter [arrives]
  rw [List.flatten_singleton] at hframes hunfinished
  have hlog : (Client.afterReads config peer [arrives]).log.toList
      = .connected :: (Bytes.pieces config.delimiter arrives).map (.frame "") := by
    rw [← hframes]
    rfl
  have hpending : ((FrameBuffer.empty config.delimiter).feedAll [arrives]).1.pending = 0
      ↔ Bytes.afterLast config.delimiter arrives = [] := by
    rw [FrameBuffer.pending_eq, hunfinished, List.length_eq_zero_iff]
  have hone : (Bytes.pieces config.delimiter arrives).map (ClientEvent.frame "")
      = [.frame "" payload] ↔ Bytes.pieces config.delimiter arrives = [payload] := by
    rw [List.map_eq_singleton_iff]
    grind
  constructor
  · rintro ⟨client, connection, hclient, hlogged, hconnection, hnone⟩
    rw [hclients] at hclient
    obtain rfl : Client.afterReads config peer [arrives] = client := Option.some.inj hclient
    obtain rfl := Option.some.inj hconnection
    rw [hlog] at hlogged
    exact ⟨hone.mp (List.cons.inj hlogged).2, hpending.mp hnone⟩
  · rintro ⟨hpieces, hlast⟩
    refine ⟨.afterReads config peer [arrives], _, by rw [hclients]; rfl, ?_, rfl,
      hpending.mpr hlast⟩
    rw [hlog, hpieces]
    rfl

/-- A frame is found where its delimiter is. -/
theorem pieces_frame {d : UInt8} {payload : Bytes} (hne : payload ≠ []) (hd : d ∉ payload) :
    Bytes.pieces d (payload ++ [d]) = [payload] ∧ Bytes.afterLast d (payload ++ [d]) = [] := by
  rw [Bytes.pieces_append_cons hd, Bytes.afterLast_append_cons, if_neg hne,
    Bytes.pieces_of_not_mem List.not_mem_nil]
  exact ⟨rfl, rfl⟩

/-- It is not found where the delimiter has been replaced, whatever else may look like one. -/
theorem pieces_replaced {d : UInt8} {payload : Bytes} (hd : d ∉ payload) :
    ¬ (Bytes.pieces d (payload ++ [0xEF, 0xBF, 0xBD]) = [payload] ∧
      Bytes.afterLast d (payload ++ [0xEF, 0xBF, 0xBD]) = []) := by
  rintro ⟨hpieces, hlast⟩
  -- The frame ends at the first byte that looks like the delimiter, if there is one.
  by_cases hfirst : d = 0xEF
  · subst hfirst
    rw [Bytes.afterLast_append_cons] at hlast
    revert hlast
    decide
  have hsecond : d ∉ payload ++ [0xEF] := by
    simpa [hd] using hfirst
  by_cases hmiddle : d = 0xBF
  · subst hmiddle
    rw [List.append_cons, Bytes.pieces_append_cons hsecond, if_neg (by simp)] at hpieces
    have := (List.cons.inj hpieces).1
    simp at this
  have hthird : d ∉ payload ++ [0xEF] ++ [0xBF] := by
    simpa [hd, hfirst] using hmiddle
  rw [List.append_cons, List.append_cons] at hpieces hlast
  by_cases hend : d = 0xBD
  · subst hend
    rw [Bytes.pieces_append_cons hthird, if_neg (by simp)] at hpieces
    have := (List.cons.inj hpieces).1
    simp at this
  · rw [Bytes.pieces_of_not_mem (by simpa [hd, hfirst, hmiddle] using hend)] at hpieces
    cases hpieces

/-! ### From a server that has come up to a client that has connected -/

variable {host : Host} {kind : EngineKind} {address clientAddress : String}
  {port clientPort : UInt16} {holder : Option IpAddress} {threads : Nat} {up joined : Scene}

/-- A client of the connection engine reads from its session, all others read from a group. -/
theorem bears_joined (data : Bytes)
    (hstart : (Scene.new host kind config 1).start address port holder threads = (.ok (), up))
    (hconnect : up.connect 0 clientAddress clientPort = (.ok (), joined))
    (hgroup : kind ≠ .webSocket → parseGroup clientAddress clientPort = parseGroup address port ∧
      config.multicastLoop = true ∧ data.length ≤ config.recvBufferSize)
    (hlength : data.length ≤ maxDatagram) :
    ∃ peer, Bears config peer data { scene := joined } .unmade ∧
      (kind = .webSocket ∧ peer = .session 0 ∨
        kind ≠ .webSocket ∧ ∃ group, peer = .group group) := by
  obtain ⟨run, hlaunch, rfl⟩ := start_new hstart
  have hsends : ∀ (name : String) (workers : Nat), kind ≠ .webSocket →
      (Server.openGroup host address port).map
        (fun group => Run.sender group (.start name workers)) = .ok run →
      ∃ peer, Bears config peer data { scene := joined } .unmade ∧
        (kind = .webSocket ∧ peer = .session 0 ∨
          kind ≠ .webSocket ∧ ∃ group, peer = .group group) := by
    intro name workers hkind hsender
    obtain ⟨hsame, hloop, hroom⟩ := hgroup hkind
    obtain ⟨group, rfl⟩ := joined_group hkind hsame hsender hconnect
    refine ⟨.group group, ⟨rfl, rfl, ?_, rfl, fun _ _ => ⟨hloop, hlength, hroom⟩⟩,
      Or.inr ⟨hkind, group, rfl⟩⟩
    exact .sender (n := clampThreads workers) rfl rfl (clampThreads_pos workers) nofun
  cases kind with
  | multicast => exact hsends _ _ nofun hlaunch
  | pooledMulticast => exact hsends _ _ nofun hlaunch
  | webSocket =>
      obtain ⟨bound, remote, rfl⟩ := joined_listener hlaunch hconnect
      refine ⟨.session 0, ⟨rfl, rfl, ?_, rfl, nofun⟩, Or.inl ⟨rfl, rfl⟩⟩
      exact .listener rfl rfl rfl ⟨rfl, rfl⟩ rfl nofun

/-- What the client is told once it has read what became of the frame. -/
theorem deliveredOnly_passes {scene : Scene} {payload : Bytes}
    (hclients : scene.clients = #[.afterReads config peer
      [peer.passes (encodeFrame payload config.delimiter)]])
    (hpeer : kind = .webSocket ∧ peer = .session 0 ∨
      kind ≠ .webSocket ∧ ∃ group, peer = .group group)
    (hne : payload ≠ []) (hvalid : payload.toByteArray.IsValidUTF8)
    (hd : config.delimiter ∉ payload) :
    DeliveredOnly scene payload ↔ (kind = .webSocket → config.delimiter.toNat < 128) := by
  rw [deliveredOnly_iff hclients]
  rcases hpeer with ⟨hkind, rfl⟩ | ⟨hkind, group, rfl⟩
  · rw [Peer.passes, encodeFrame, Text.encode_decode_concat hvalid]
    by_cases hascii : config.delimiter.toNat < 128
    · rw [if_pos hascii]
      exact iff_of_true (pieces_frame hne hd) fun _ => hascii
    · rw [if_neg hascii]
      exact iff_of_false (pieces_replaced hd) fun himplies => hascii (himplies hkind)
  · exact iff_of_true (pieces_frame hne hd) fun heq => absurd heq hkind

/-- **The multicast engines work with every delimiter, the connection engine with those that are
a character of their own.**  A frame is broadcast to a client that has connected.  When it has
come to rest, and if the network keeps going it does, the client has been told of the payload
and of nothing else, and nothing waits in its buffer, unless the engine is the connection engine
and the delimiter is not below 128. -/
theorem delivered_iff (host : Host) (kind : EngineKind) (config : EngineConfig)
    {address clientAddress : String} {port clientPort : UInt16} {holder : Option IpAddress}
    {threads : Nat} {up joined : Scene} {payload : Bytes}
    (hstart : (Scene.new host kind config 1).start address port holder threads = (.ok (), up))
    (hconnect : up.connect 0 clientAddress clientPort = (.ok (), joined))
    (hgroup : kind ≠ .webSocket → parseGroup clientAddress clientPort = parseGroup address port ∧
      config.multicastLoop = true ∧ payload.length < config.recvBufferSize)
    (hne : payload ≠ []) (hvalid : payload.toByteArray.IsValidUTF8)
    (hd : config.delimiter ∉ payload) (hlength : payload.length ≤ 65506) :
    (DeliveredOnly (joined.broadcast (encodeFrame payload config.delimiter)).2 payload ↔
      (kind = .webSocket → config.delimiter.toNat < 128)) ∧
    ∀ moves s, moves.flatMap TransitMove.brings = [encodeFrame payload config.delimiter] →
      play Transit.move? { scene := joined } moves = some s →
      (s.isAtRest = true → (DeliveredOnly s.scene payload ↔
        (kind = .webSocket → config.delimiter.toNat < 128))) ∧
      ∃ later t, later.flatMap TransitMove.brings = [] ∧ play Transit.move? s later = some t ∧
        t.isAtRest = true := by
  have hframe : (encodeFrame payload config.delimiter).length = payload.length + 1 :=
    List.length_append
  obtain ⟨peer, hjoined, hpeer⟩ := bears_joined (encodeFrame payload config.delimiter) hstart
    hconnect
    (fun hkind => ⟨(hgroup hkind).1, (hgroup hkind).2.1, hframe ▸ (hgroup hkind).2.2⟩)
    (by rw [hframe]; exact Nat.succ_le_succ hlength)
  constructor
  · exact deliveredOnly_passes (clients_broadcast hjoined) hpeer hne hvalid hd
  · intro moves s hmoves played
    obtain ⟨place, hplace, hread⟩ := bears_play_broadcast hjoined hmoves played
    exact ⟨fun hrest => deliveredOnly_passes (hread hrest) hpeer hne hvalid hd,
      exists_bears_rest hplace⟩

/-- A server whose frames end with the byte 255. -/
def highServer (kind : EngineKind) (address : String) : Scene :=
  ((Scene.new .looped kind { delimiter := 255 } 1).start address 9000 none 3).2

/-- A client that has connected to it. -/
def highMember (kind : EngineKind) (address clientAddress : String) : Scene :=
  ((highServer kind address).connect 0 clientAddress 9000).2

theorem delivered_iff_highPooled :
    DeliveredOnly ((highMember .pooledMulticast "239.1.2.3" "239.1.2.3").broadcast [65, 255]).2
      [65] := by
  have hstart : (Scene.new .looped .pooledMulticast { delimiter := 255 } 1).start "239.1.2.3" 9000
      none 3 = (.ok (), highServer .pooledMulticast "239.1.2.3") := by cbv
  have hconnect : (highServer .pooledMulticast "239.1.2.3").connect 0 "239.1.2.3" 9000
      = (.ok (), highMember .pooledMulticast "239.1.2.3" "239.1.2.3") := by cbv
  have hvalid : ([65] : Bytes).toByteArray.IsValidUTF8 :=
    ByteArray.validateUTF8_eq_true_iff.mp (by cbv)
  have hall := delivered_iff .looped .pooledMulticast { delimiter := 255 } hstart hconnect
    (fun _ => ⟨rfl, rfl, by decide⟩) (by decide) hvalid (by decide) (by decide)
  exact hall.1.mpr (by simp)

/-- The host finds itself by its name. -/
theorem locate_localhost (scene : Scene) (hhost : scene.host = .looped) :
    scene.locate "localhost" 9000 = .ok (.v4 .localhost 9000) := by
  have hendpoint : Endpoint.ofHost "localhost".toList 9000 = .ok ⟨"localhost", 9000⟩ := by
    have haddress : Endpoint.addressOf "localhost".toList 9000 = "localhost:9000/".toList := by cbv
    have hsize : "ws://".utf8ByteSize + (String.ofList "localhost:9000/".toList).utf8ByteSize
        = 20 := by cbv
    have hshort : ¬ Endpoint.maxAddressLength < 20 := by decide
    have hauthority : "localhost:9000/".toList.takeWhile (fun c => !Endpoint.endsAuthority c)
        = "localhost:9000".toList := by cbv
    have hport : Endpoint.portOf "localhost:9000".toList = 9000 := by decide
    unfold Endpoint.ofHost
    simp only [haddress, hsize, hshort, if_false, hauthority, hport]
    cbv
  have htrim : Text.trim "localhost".toList = "localhost".toList := by cbv
  have hsome : "localhost".toList.isEmpty = false := by cbv
  have hlookup : Host.looped.lookup "localhost" 9000 = .ok (.v4 .localhost 9000) := by cbv
  have hreach : Host.looped.reach (.v4 .localhost 9000) = .ok () := by cbv
  unfold Scene.locate
  simp only [htrim, hsome, hendpoint, hhost, hlookup, hreach]
  rfl

theorem connect_localhost :
    (highServer .webSocket "127.0.0.1").connect 0 "localhost" 9000
      = (.ok (), highMember .webSocket "127.0.0.1" "localhost") := by
  have hserver : highServer .webSocket "127.0.0.1"
      = comeUp .looped .webSocket { delimiter := 255 } (.listener 0 (.v4 .localhost 9000)) := by cbv
  have hopen : ((highServer .webSocket "127.0.0.1").openPeer "localhost" 9000).1
      = .ok (.session 0) := by
    have hlocate := locate_localhost (highServer .webSocket "127.0.0.1") (by cbv)
    rw [hserver] at hlocate ⊢
    have hlistening : (comeUp .looped .webSocket { delimiter := 255 }
        (.listener 0 (.v4 .localhost 9000))).server.listening = some (.v4 .localhost 9000) := rfl
    have hkind : (comeUp .looped .webSocket { delimiter := 255 }
        (.listener 0 (.v4 .localhost 9000))).server.kind = .webSocket := rfl
    have hcovers : (IpAddress.v4 .localhost).covers (.v4 .localhost) = true := by decide
    simp only [Scene.openPeer, hkind, hlocate, hlistening, accept_first]
    rw [if_pos (by simpa [SocketAddress.ip] using hcovers)]
  have hclient : (highServer .webSocket "127.0.0.1").clients[0]?
      = some { config := { delimiter := 255 } } := by
    rw [hserver]
    rfl
  refine Prod.ext ?_ rfl
  cases hpeer : (highServer .webSocket "127.0.0.1").openPeer "localhost" 9000 with
  | mk opened server =>
      rw [hpeer] at hopen
      obtain rfl : opened = .ok (.session 0) := hopen
      simp only [Scene.connect, hclient, hpeer, if_true]
      rfl

/-- The connection engine does not get the same frame across. -/
theorem undelivered_highSession :
    (Scene.new .looped .webSocket { delimiter := 255 } 1).start "127.0.0.1" 9000 none 3
      = (.ok (), highServer .webSocket "127.0.0.1") ∧
    (highServer .webSocket "127.0.0.1").connect 0 "localhost" 9000
      = (.ok (), highMember .webSocket "127.0.0.1" "localhost") ∧
    ([65] : Bytes).toByteArray.IsValidUTF8 ∧
    ((highMember .webSocket "127.0.0.1" "localhost").broadcast (encodeFrame [65] 255)).2.clients
      = #[.afterReads { delimiter := 255 } (.session 0) [[65, 239, 191, 189]]] ∧
    ¬ DeliveredOnly ((highMember .webSocket "127.0.0.1" "localhost").broadcast
      (encodeFrame [65] 255)).2 [65] := by
  have hstart : (Scene.new .looped .webSocket { delimiter := 255 } 1).start "127.0.0.1" 9000
      none 3 = (.ok (), highServer .webSocket "127.0.0.1") := by cbv
  have hvalid : ([65] : Bytes).toByteArray.IsValidUTF8 :=
    ByteArray.validateUTF8_eq_true_iff.mp (by cbv)
  obtain ⟨peer, hjoined, hpeer⟩ := bears_joined (encodeFrame [65] 255) hstart connect_localhost
    (fun hkind => absurd rfl hkind) (by decide)
  obtain ⟨-, rfl⟩ := hpeer.resolve_right fun hother => hother.1 rfl
  have harrives : (Peer.session 0).passes (encodeFrame [65] 255) = [65, 239, 191, 189] :=
    Text.encode_decode_concat hvalid 255
  have hclients := clients_broadcast hjoined
  rw [harrives] at hclients
  refine ⟨hstart, connect_localhost, hvalid, hclients, ?_⟩
  rw [deliveredOnly_iff hclients]
  decide

end Interleaving

end Lifecast
