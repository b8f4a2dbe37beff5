/-
The lifecycle of a server.

Whatever a server does, it is started and stopped in the same way.  A start is refused
unless the server is stopped, and only then is anything launched; if that fails the
server is stopped again, as if nothing had happened.  A stop does nothing unless the
server is running, and otherwise hands over what has to be torn down.

Between calls a server is stopped or running, and it holds a record of what runs just
when it is running (`Service.Settled`, kept by `settled_start` and `settled_stop`).
-/
import Lifecast.Engine.Error
import Lifecast.Engine.Phase

namespace Lifecast

/-- A server, as far as its lifecycle goes; `ρ` is what it keeps while it runs. -/
structure Service (ρ : Type) where
  /-- Where it stands. -/
  state : ServerState := .stopped
  /-- What it runs. -/
  running : Option ρ := none
deriving DecidableEq, Repr

namespace Service

variable {ρ : Type}

/-- Is the server running? -/
def isRunning (s : Service ρ) : Bool :=
  s.state == .running

/-- Start the server with what a launch came to. -/
def start (s : Service ρ) (launched : Except EngineError ρ) :
    Except EngineError Unit × Service ρ :=
  match Phase.exchange .stopped .starting s.state with
  | (false, _) => (.error .alreadyRunning, s)
  | (true, _) =>
    match launched with
    | .ok record => (.ok (), { state := .running, running := some record })
    | .error e => (.error e, { s with state := .stopped })

/-- Stop the server, and hand over what it ran. -/
def stop (s : Service ρ) : Option ρ × Service ρ :=
  match Phase.exchange .running .stopping s.state with
  | (false, _) => (none, s)
  | (true, _) => (s.running, { state := .stopped, running := none })

/-- What a broadcast goes through: nothing unless the server is running. -/
def current (s : Service ρ) : Option ρ :=
  if s.isRunning then s.running else none

/-- Replace what the server runs. -/
def keep (s : Service ρ) (record : ρ) : Service ρ :=
  { s with running := some record }

/-- The server is stopped without a record, or running with one. -/
def Settled (s : Service ρ) : Prop :=
  (s.state = .stopped ∧ s.running = none) ∨ (s.state = .running ∧ s.running.isSome)

theorem settled_start {s : Service ρ} (h : s.Settled) (launched : Except EngineError ρ) :
    (s.start launched).2.Settled := by
  rcases h with ⟨hs, hr⟩ | ⟨hs, hr⟩
  · cases launched <;> simp [start, Phase.exchange, hs, hr, Settled]
  · simp [start, Phase.exchange, hs, hr, Settled]

theorem settled_stop {s : Service ρ} (h : s.Settled) : s.stop.2.Settled := by
  rcases h with ⟨hs, hr⟩ | ⟨hs, hr⟩ <;> simp [stop, Phase.exchange, hs, hr, Settled]

end Service

end Lifecast
