/-
A pool of workers that share one queue of jobs.

Jobs are taken in the order in which they were submitted, each by one worker.  A job
that fails neither ends its worker nor touches the others.  Once the queue is closed no
job is added, but those in it are still run, and a worker ends when it finds the queue
both empty and closed.

A job may shut its own pool down.  It closes the queue and then waits for all workers
but the one it runs on, which ends like the others once the job has returned.

The single steps come first: `submit`, `closeQueue`, `take`, `finish` and `leave`.
Which worker moves next is not up to the pool; `settle` is the schedule in which
workers finish what they hold before they take more, until nobody can move.
-/
import Lifecast.Threads

namespace Lifecast

/-- A job, as far as a pool can tell jobs apart. -/
inductive Job (α : Type) where
  /-- Ends well and leaves its result in the log. -/
  | leaves (result : α)
  /-- Fails, and leaves nothing. -/
  | fails
  /-- Does not end before the gate is opened. -/
  | waits
  /-- Shuts the pool down. -/
  | shutsDown
deriving DecidableEq, Repr

/-- What a worker is doing. -/
inductive Worker (α : Type) where
  /-- Waiting for a job. -/
  | idle
  /-- Running a job. -/
  | busy (job : Job α)
  /-- Running a job that has closed the queue and waits for the other workers. -/
  | joining
  /-- Gone for good. -/
  | gone
deriving DecidableEq, Repr

namespace Worker

variable {α : Type}

/-- Is a job being run? -/
def isBusy : Worker α → Bool
  | busy _ => true
  | joining => true
  | _ => false

/-- Is the worker waiting for a job? -/
def isIdle : Worker α → Bool
  | idle => true
  | _ => false

/-- Is the worker gone? -/
def isGone : Worker α → Bool
  | gone => true
  | _ => false

end Worker

/-- A pool of workers, for jobs whose results are of type `α`. -/
structure WorkerPool (α : Type) where
  /-- What its workers are named for. -/
  name : String
  /-- The workers, by number. -/
  workers : List (Worker α)
  /-- The jobs that wait, oldest first. -/
  queue : List (Job α) := []
  /-- Are jobs still taken in? -/
  accepting : Bool := true
  /-- The results of the jobs, in the order in which they ended. -/
  log : List α := []
deriving DecidableEq, Repr

namespace WorkerPool

variable {α : Type}

/-- Start a pool with a name that threads can have. -/
def start (name : String) (threads : Nat) : WorkerPool α :=
  { name, workers := List.replicate (clampThreads threads) .idle }

/-- How many workers the pool answers for; none once it is shut down. -/
def threads (p : WorkerPool α) : Nat :=
  if p.accepting then p.workers.length else 0

/-- How many jobs wait for a worker; none once the pool is shut down. -/
def queued (p : WorkerPool α) : Nat :=
  if p.accepting then p.queue.length else 0

/-- The names of the worker threads. -/
def workerNames (p : WorkerPool α) : List String :=
  (List.range p.workers.length).map fun i => s!"{p.name}-{i}"

/-- Start a pool, if its threads can be named for it. -/
def launch (name : String) (threads : Nat) : Except BadThreadName (WorkerPool α) := do
  let p : WorkerPool α := start name threads
  p.workerNames.forM checkThreadName
  return p

/-! ### Single steps -/

/-- Add a job to the queue.  Refused once the queue is closed. -/
def submit (p : WorkerPool α) (job : Job α) : Bool × WorkerPool α :=
  if p.accepting then (true, { p with queue := p.queue ++ [job] }) else (false, p)

/-- Take no more jobs. -/
def closeQueue (p : WorkerPool α) : WorkerPool α :=
  { p with accepting := false }

/-- Let worker `i` be in another state. -/
def setWorker (p : WorkerPool α) (i : Nat) (w : Worker α) : WorkerPool α :=
  { p with workers := p.workers.set i w }

/-- Are all workers but number `i` gone? -/
def othersGone (p : WorkerPool α) (i : Nat) : Bool :=
  (p.workers.eraseIdx i).all Worker.isGone

/-- Worker `i` goes on with the job that it runs, if it can.  A waiting job needs the
gate open, and a job that has closed the queue needs the others gone. -/
def finish (p : WorkerPool α) (gateOpen : Bool) (i : Nat) : Option (WorkerPool α) :=
  match p.workers[i]? with
  | some (.busy (.leaves result)) => some { p.setWorker i .idle with log := p.log ++ [result] }
  | some (.busy .fails) => some (p.setWorker i .idle)
  | some (.busy .waits) => if gateOpen then some (p.setWorker i .idle) else none
  | some (.busy .shutsDown) =>
    if p.accepting then some (p.closeQueue.setWorker i .joining) else some (p.setWorker i .idle)
  | some .joining => if p.othersGone i then some (p.setWorker i .idle) else none
  | _ => none

/-- Worker `i` takes the oldest job, if it is idle and there is one. -/
def take (p : WorkerPool α) (i : Nat) : Option (WorkerPool α) :=
  match p.workers[i]?, p.queue with
  | some .idle, job :: rest => some { p.setWorker i (.busy job) with queue := rest }
  | _, _ => none

/-- Worker `i` ends for good, if it is idle and the queue is empty and closed. -/
def leave (p : WorkerPool α) (i : Nat) : Option (WorkerPool α) :=
  match p.workers[i]?, p.queue with
  | some .idle, [] =>
    if p.accepting then none else some (p.setWorker i .gone)
  | _, _ => none

/-! ### Running until nobody can move -/

/-- Worker `i` moves, if it can: it goes on with its job, or takes one, or leaves. -/
def work? (p : WorkerPool α) (gateOpen : Bool) (i : Nat) : Option (WorkerPool α) :=
  p.finish gateOpen i <|> p.take i <|> p.leave i

/-- The first worker that can move does. -/
def move? (p : WorkerPool α) (gateOpen : Bool) : Option (WorkerPool α) :=
  (List.range p.workers.length).findSome? (p.work? gateOpen)

/-- How many moves are left at most: three for each job, to take it and to end it in
one or two moves, and three for each worker, to end what it holds and to leave. -/
def movesLeft (p : WorkerPool α) : Nat :=
  3 * p.queue.length + 3 * p.workers.length

/-- Make moves, at most as many as given. -/
def settleFor (gateOpen : Bool) : Nat → WorkerPool α → WorkerPool α
  | 0, p => p
  | n + 1, p =>
    match p.move? gateOpen with
    | none => p
    | some p => settleFor gateOpen n p

/-- Make moves until nobody can move. -/
def settle (p : WorkerPool α) (gateOpen : Bool) : WorkerPool α :=
  settleFor gateOpen p.movesLeft p

/-- Are all workers gone? -/
def allGone (p : WorkerPool α) : Bool :=
  p.workers.all Worker.isGone

/-- Is there nothing left to do? -/
def isDrained (p : WorkerPool α) : Bool :=
  p.queue.isEmpty && !p.workers.any Worker.isBusy

/-- Shut down from outside: close the queue and wait for the workers. -/
def shutdown (p : WorkerPool α) : WorkerPool α :=
  p.closeQueue.settle true

end WorkerPool

end Lifecast
