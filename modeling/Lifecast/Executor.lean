/-
The executor that runs an engine's tasks.

An executor keeps a number of worker threads busy with tasks, and hands out tokens by
which long-running tasks learn that they should end.  Stopping releases the root of
all tokens first, so every task has been told before the workers are joined.  A task
must not wait for another one inside the executor: that would block the worker it
runs on.
-/
import Lifecast.Engine.Error
import Lifecast.Threads

namespace Lifecast

/-- Where a call to an executor comes from. -/
inductive CallSite where
  /-- From a thread of its own. -/
  | outside
  /-- From inside a task. -/
  | insideTask
deriving DecidableEq, Repr

/-- An executor. -/
structure Executor where
  /-- What its workers are named for. -/
  name : String
  /-- How many workers it runs. -/
  threads : Nat
  /-- Does it run? -/
  running : Bool := true
  /-- Has the root of all tokens been released? -/
  released : Bool := false
  /-- The tokens handed out, in order, true where cancelled on its own. -/
  tokens : List Bool := []
deriving DecidableEq, Repr

namespace Executor

/-- The name of its worker threads. -/
def threadName (e : Executor) : String :=
  e.name ++ "-io"

/-- Start an executor, if its threads can be named for it. -/
def start (name : String) (threads : Nat) : Except BadThreadName Executor := do
  let e : Executor := { name, threads := clampThreads threads }
  checkThreadName e.threadName
  return e

/-- Hand out one more token. -/
def handOut (e : Executor) : Executor :=
  { e with tokens := e.tokens ++ [false] }

/-- Cancel one token. -/
def cancel (e : Executor) (token : Nat) : Executor :=
  { e with tokens := e.tokens.set token true }

/-- Which tokens are cancelled, each on its own or with the root. -/
def cancelled (e : Executor) : List Bool :=
  e.tokens.map (· || e.released)

/-- Stop: release the root of all tokens, then end the workers. -/
def stop (e : Executor) : Executor :=
  { e with released := true, running := false }

/-- Wait for a task that comes to a value. -/
def blockOn {α : Type} (e : Executor) (site : CallSite) (value : α) : Except EngineError α :=
  match site with
  | .insideTask => .error (.runtime "cannot block inside an async context")
  | .outside => if e.running then .ok value else .error (.runtime "executor already stopped")

/-- Wait for a task for a limited time; `none` stands for a task that never ends. -/
def blockOnFor {α : Type} (e : Executor) (site : CallSite) (limit : Duration)
    (value : Option α) : Except EngineError α := do
  match (← e.blockOn site value) with
  | some value => return value
  | none => throw (.timeout limit)

end Executor

end Lifecast
