/-
A pool of workers between those who submit jobs and those who shut it down.

A pool is shut down by one at a time: a thread outside has to wait until the call of another one,
or of a job, is over.  A job cannot wait for a call that waits for the job, so where it finds the
pool shut down it lets the matter rest.

Jobs end here, so the gate that a waiting job needs is open.  Besides the pool the state remembers
which jobs were accepted, which were taken and by whom, and which have ended.
-/
import Lifecast.Interleaving.Basic
import Lifecast.WorkerPool

namespace Lifecast

/-- The job that a worker has in hand. -/
def Worker.job? {α : Type} : Worker α → Option (Job α)
  | busy job => some job
  | joining => some .shutsDown
  | idle | gone => none

/-- Does the worker wait for the others? -/
def Worker.isJoining {α : Type} : Worker α → Bool
  | joining => true
  | _ => false

namespace Interleaving

variable {α : Type}

/-- Where a call from outside that shuts a pool down has got to. -/
inductive ShuttingDown where
  /-- It has closed the queue and waits for all workers. -/
  | waiting
  /-- It has found all workers gone and returned. -/
  | joined
  /-- It found the pool shut down and returned at once. -/
  | late
deriving DecidableEq, Repr

/-- A pool and what has become of its jobs. -/
structure PoolRun (α : Type) where
  /-- The pool. -/
  pool : WorkerPool α
  /-- The jobs that were accepted, oldest first. -/
  accepted : List (Job α) := []
  /-- The jobs that were refused, oldest first. -/
  refused : List (Job α) := []
  /-- The jobs that were taken, each with the worker that took it, oldest first. -/
  taken : List (Nat × Job α) := []
  /-- The jobs that have ended, each with its worker, oldest first. -/
  ended : List (Nat × Job α) := []
  /-- The calls from outside that shut the pool down. -/
  calls : List ShuttingDown := []
deriving DecidableEq, Repr

/-- A step of one of the threads. -/
inductive PoolMove (α : Type) where
  /-- A job is submitted. -/
  | submit (job : Job α)
  /-- A thread outside calls to shut the pool down. -/
  | shutDown
  /-- Call `i` finds all workers gone and returns. -/
  | join (i : Nat)
  /-- Worker `i` takes the oldest job. -/
  | take (i : Nat)
  /-- Worker `i` goes on with its job. -/
  | goOn (i : Nat)
  /-- Worker `i` ends for good. -/
  | leave (i : Nat)
deriving DecidableEq, Repr

/-- Is it a move that somebody makes sooner or later, once it can be made? -/
def PoolMove.isDue : PoolMove α → Bool
  | join _ | take _ | goOn _ | leave _ => true
  | submit _ | shutDown => false

namespace PoolRun

/-- A pool that has just been started. -/
def start (name : String) (threads : Nat) : PoolRun α :=
  { pool := .start name threads }

/-- The job that worker `i` has in hand. -/
def held? (s : PoolRun α) (i : Nat) : Option (Job α) :=
  s.pool.workers[i]?.bind Worker.job?

/-- Is somebody about to shut the pool down, and waits for workers? -/
def isAwaited (s : PoolRun α) : Bool :=
  s.pool.workers.any Worker.isJoining || s.calls.any (· == .waiting)

/-- Make a move. -/
def move? (s : PoolRun α) : PoolMove α → Option (PoolRun α)
  | .submit job =>
    match s.pool.submit job with
    | (true, pool) => some { s with pool, accepted := s.accepted ++ [job] }
    | (false, pool) => some { s with pool, refused := s.refused ++ [job] }
  | .shutDown =>
    if s.isAwaited then none
    else if s.pool.accepting then
      some { s with pool := s.pool.closeQueue, calls := s.calls ++ [.waiting] }
    else some { s with calls := s.calls ++ [.late] }
  | .join i =>
    if s.calls[i]? = some .waiting && s.pool.allGone then
      some { s with calls := s.calls.set i .joined }
    else none
  | .take i =>
    match s.pool.queue, s.pool.take i with
    | job :: _, some pool => some { s with pool, taken := s.taken ++ [(i, job)] }
    | _, _ => none
  | .goOn i =>
    match s.held? i, s.pool.finish true i with
    | some job, some pool =>
      some { s with
        pool
        ended := if pool.workers[i]?.any Worker.isIdle then s.ended ++ [(i, job)] else s.ended }
    | _, _ => none
  | .leave i => (s.pool.leave i).map fun pool => { s with pool }

end PoolRun

end Interleaving

end Lifecast
