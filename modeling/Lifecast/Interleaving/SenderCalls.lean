/-
A server that sends to a group, between its workers and those who call it.

A broadcast looks at the phase without the lock, and then, with the lock, queues its
datagram if the server still has a pool.  A stop takes the pool away, closes its queue
and waits, with the lock, until all workers are gone; so what was queued leaves before
it returns.

The plain engine queues its datagrams for one task, which is a pool of one worker here,
and a stop waits for it through the executor.  The executor refuses to wait on a thread
that runs tasks, whichever executor the tasks belong to.  A stop made there goes on at
once and leaves the pool behind, with whatever it still has to send: its worker may send
some of it later, or none.  A pool of threads is joined wherever the stop comes from.
The grace that the plain engine grants its task is taken to be long enough.

Besides the server the state remembers which datagrams were queued and which have left,
each with the run in which it was queued.
-/
import Lifecast.Engine.Server
import Lifecast.Executor
import Lifecast.Interleaving.Basic

namespace Lifecast

/-- The pool that a server to a group starts. -/
def EngineKind.senderPool {α : Type} (threads : Nat) : EngineKind → WorkerPool α
  | .multicast => .start "multicast-server" 1
  | .pooledMulticast | .webSocket => .start "multicast-pool" threads

/-- Does a stop that is called there wait for the pool? -/
def EngineKind.waitsAt : EngineKind → CallSite → Bool
  | .multicast, .insideTask => false
  | .multicast, .outside | .pooledMulticast, _ | .webSocket, _ => true

/-- The plain engine waits where its executor lets it. -/
theorem EngineKind.waitsAt_multicast {e : Executor} (running : e.running = true)
    (site : CallSite) : EngineKind.multicast.waitsAt site = (e.blockOn site ()).isOk := by
  cases site with
  | outside => simp [waitsAt, Executor.blockOn, running, Except.isOk, Except.toBool]
  | insideTask => rfl

/-- A server that is launched has this pool, if it sends to a group at all. -/
theorem Server.launch_sender {s : Server} {host : Host} {address : String} {port : UInt16}
    {holder : Option IpAddress} {threads : Nat} {group : Group} {pool : WorkerPool Bytes}
    (launched : s.launch host address port holder threads = .ok (.sender group pool)) :
    pool = s.kind.senderPool threads := by
  unfold launch at launched
  split at launched
  · next kind =>
      rw [kind]
      cases opened : openGroup host address port <;> rw [opened] at launched <;> cases launched
      rfl
  · next kind =>
      rw [kind]
      cases opened : openGroup host address port <;> rw [opened] at launched <;> cases launched
      rfl
  · cases opened : openListener host address port holder s.starts <;> rw [opened] at launched <;>
      cases launched

namespace Interleaving

/-- A datagram, with the number of the run in which it was queued. -/
structure Posted where
  run : Nat
  data : Bytes
deriving DecidableEq, Repr

/-- The datagrams that were queued in a run. -/
def Posted.ofRun (run : Nat) (datagrams : List Posted) : List Posted :=
  datagrams.filter (·.run = run)

/-- Where a call that broadcasts has got to. -/
inductive Casting where
  /-- Nothing has been done. -/
  | called (data : Bytes)
  /-- It has seen the server running, without the lock. -/
  | looked (data : Bytes)
  /-- It has returned, after queueing its datagram in some run or not at all. -/
  | returned (data : Bytes) (run : Option Nat)
deriving DecidableEq, Repr

/-- Where a call that stops the server has got to. -/
inductive Halting where
  /-- Nothing has been done. -/
  | called (site : CallSite)
  /-- It holds the lock, and waits for the workers if it can. -/
  | waiting (site : CallSite)
  /-- It has returned. -/
  | returned (site : CallSite)
deriving DecidableEq, Repr

/-- Where the call was made. -/
def Halting.site : Halting → CallSite
  | called site | waiting site | returned site => site

/-- A server, its workers and the calls made to it. -/
structure SenderCalls where
  /-- The engine. -/
  kind : EngineKind
  /-- Its lifecycle; while it runs it keeps a pool. -/
  service : Service (WorkerPool Posted) := {}
  /-- Does a call hold the lock? -/
  locked : Bool := false
  /-- The pool that a stop has taken away. -/
  leaving : Option (WorkerPool Posted) := none
  /-- For each run that is over, in order, the pool that was left behind, if one was. -/
  behind : List (Option (WorkerPool Posted)) := []
  /-- The calls that broadcast. -/
  castings : List Casting := []
  /-- The calls that stop the server. -/
  haltings : List Halting := []
  /-- The number of the run that is on or comes next. -/
  run : Nat := 0
  /-- How many workers each run has had, in order. -/
  workers : List Nat := []
  /-- The datagrams that were queued, oldest first. -/
  queued : List Posted := []
  /-- The datagrams that have left, oldest first. -/
  wire : List Posted := []
deriving DecidableEq, Repr

/-- A step of one of the threads. -/
inductive SenderMove where
  /-- The server is started with some threads, or setting it up fails. -/
  | start (launched : Except EngineError Nat)
  /-- A thread calls to broadcast. -/
  | callBroadcast (data : Bytes)
  /-- Broadcasting call `i` makes its next step. -/
  | broadcast (i : Nat)
  /-- A thread calls to stop the server. -/
  | callStop (site : CallSite)
  /-- Stopping call `i` makes its next step. -/
  | stop (i : Nat)
  /-- Worker `i` of the pool moves. -/
  | work (i : Nat)
  /-- Worker `i` of the pool that was left behind in a run moves. -/
  | straggle (run i : Nat)

namespace SenderCalls

/-- A server on which nothing has been called. -/
def start (kind : EngineKind) : SenderCalls :=
  { kind }

/-- The next step of a call that broadcasts, if it need not wait. -/
def casting? (s : SenderCalls) : Casting → Option (Casting × SenderCalls)
  | .called data => some (if s.service.isRunning then .looked data else .returned data none, s)
  | .looked data =>
    if s.locked then none
    else
      match s.service.running with
      | none => some (.returned data none, s)
      | some pool =>
        match pool.submit (.leaves ⟨s.run, data⟩) with
        | (false, _) => some (.returned data none, s)
        | (true, pool) =>
          some (.returned data (some s.run), { s with
            service := s.service.keep pool
            queued := s.queued ++ [⟨s.run, data⟩] })
  | .returned _ _ => none

/-- The next step of a call that stops the server, if it need not wait. -/
def halting? (s : SenderCalls) : Halting → Option (Halting × SenderCalls)
  | .called site =>
    if s.locked then none
    else
      match Phase.exchange .running .stopping s.service.state with
      | (false, _) => some (.returned site, s)
      | (true, state) =>
        some (.waiting site, { s with
          service := { state, running := none }
          leaving := s.service.running.map WorkerPool.closeQueue
          locked := true })
  | .waiting site =>
    if s.kind.waitsAt site && !s.leaving.all WorkerPool.allGone then none
    else
      some (.returned site, { s with
        service := { s.service with state := .stopped }
        leaving := none
        behind := s.behind ++ [s.leaving.filter (!·.allGone)]
        locked := false
        run := s.run + 1 })
  | .returned _ => none

/-- Worker `i` of a pool moves: the pool then, and what leaves. -/
def work? (pool : WorkerPool Posted) (i : Nat) : Option (WorkerPool Posted × List Posted) :=
  (pool.work? true i).map fun next => (next, next.log.drop pool.log.length)

/-- Make a move. -/
def move? (s : SenderCalls) : SenderMove → Option SenderCalls
  | .start launched =>
    if s.locked then none
    else
      match s.service.start (launched.map s.kind.senderPool) with
      | (.error _, service) => some { s with service }
      | (.ok (), service) =>
        some { s with
          service
          workers := s.workers ++ (service.running.map (·.workers.length)).toList }
  | .callBroadcast data => some { s with castings := s.castings ++ [.called data] }
  | .broadcast i =>
    match s.castings[i]? with
    | none => none
    | some call =>
      match s.casting? call with
      | none => none
      | some (call, s) => some { s with castings := s.castings.set i call }
  | .callStop site => some { s with haltings := s.haltings ++ [.called site] }
  | .stop i =>
    match s.haltings[i]? with
    | none => none
    | some call =>
      match s.halting? call with
      | none => none
      | some (call, s) => some { s with haltings := s.haltings.set i call }
  | .work i =>
    match s.leaving with
    | some pool =>
      (work? pool i).map fun (pool, sent) =>
        { s with leaving := some pool, wire := s.wire ++ sent }
    | none =>
      match s.service.running with
      | none => none
      | some pool =>
        (work? pool i).map fun (pool, sent) =>
          { s with service := s.service.keep pool, wire := s.wire ++ sent }
  | .straggle run i =>
    match s.behind[run]? with
    | some (some pool) =>
      (work? pool i).map fun (pool, sent) =>
        { s with behind := s.behind.set run (some pool), wire := s.wire ++ sent }
    | some none | none => none

end SenderCalls

end Interleaving

end Lifecast
