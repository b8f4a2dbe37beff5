/-
What a server asks of the system when it is started.

After it has read its address, a server makes a number of operations one after the other, and
each may be refused.  The first refusal is what the start comes to, whatever was set up before it.
`Server.launch` knows of refusals by the network only; here any operation may be refused, for any
reason (`launch_eq_bringUp`).
-/
import Lifecast.Engine.Server

namespace Lifecast

/-- An operation that a server makes when it is started. -/
inductive SetUp where
  /-- Open a socket that sends to a group, and join the group. -/
  | groupSocket
  /-- Let the socket not wait. -/
  | nonblocking
  /-- Start the threads of an executor. -/
  | executor
  /-- Hand the socket to the executor. -/
  | handOver
  /-- Start the threads of a pool. -/
  | workers
  /-- Let the executor do something and wait for it. -/
  | wait
  /-- Open a socket that listens. -/
  | listener
  /-- Ask where it listens. -/
  | localAddress
deriving DecidableEq, Repr

/-- What the operations of a start are refused with, as far as they are refused. -/
abbrev Refusals : Type := SetUp → Option String

/-- A refusal as an error of the engine. -/
def SetUp.error (detail : String) : SetUp → EngineError
  | wait => .runtime detail
  | _ => .transport detail

/-- The operations of a start, in order. -/
def EngineKind.setUp : EngineKind → List SetUp
  | .multicast => [.groupSocket, .nonblocking, .executor, .handOver]
  | .pooledMulticast => [.groupSocket, .workers]
  | .webSocket => [.executor, .wait, .listener, .localAddress]

/-- Make the operations one after the other: the first refusal, if there is one. -/
def Refusals.first (refuses : Refusals) : List SetUp → Except EngineError Unit
  | [] => .ok ()
  | op :: rest =>
    match refuses op with
    | some detail => .error (op.error detail)
    | none => first refuses rest

namespace Server

/-- Read the address of a group. -/
def readGroup (address : String) (port : UInt16) : Except EngineError Group :=
  (parseGroup address port).mapError fun fault => .invalidAddress fault.message

/-- Read the address of a host. -/
def readIp (address : String) : Except EngineError IpAddress :=
  (parseIp address).mapError fun fault => .invalidAddress fault.message

/-- Bring up what the server runs: first the address is read, then the operations are made. -/
def bringUp (s : Server) (refuses : Refusals) (address : String) (port : UInt16) (threads : Nat) :
    Except EngineError Run := do
  match s.kind with
  | .multicast =>
    let group ← readGroup address port
    refuses.first s.kind.setUp
    return .sender group (.start "multicast-server" 1)
  | .pooledMulticast =>
    let group ← readGroup address port
    refuses.first s.kind.setUp
    return .sender group (.start "multicast-pool" threads)
  | .webSocket =>
    let ip ← readIp address
    refuses.first s.kind.setUp
    return .listener s.starts (.of ip (if port = 0 then freePort s.starts else port))

/-- What a host refuses: to join a group, or to listen at an address. -/
def refusals (host : Host) (address : String) (holder : Option IpAddress) : Refusals
  | .groupSocket =>
    match host.join with
    | .error e => some e.message
    | .ok () => none
  | .listener =>
    match parseIp address with
    | .error _ => none
    | .ok ip =>
      match host.listen ip holder with
      | .error e => some e.message
      | .ok () => none
  | _ => none

/-- The operations that open a socket to a group are refused if the host lets nobody join. -/
theorem first_groupSocket (host : Host) (address : String) (holder : Option IpAddress)
    {kind : EngineKind} (hkind : kind ≠ .webSocket) :
    (refusals host address holder).first kind.setUp
      = host.join.mapError fun e => .transport e.message := by
  cases kind with
  | webSocket => exact absurd rfl hkind
  | multicast | pooledMulticast =>
      rw [EngineKind.setUp, Refusals.first, refusals]
      cases host.join with
      | error e => rfl
      | ok _ => rfl

/-- With what a host refuses, this is what is launched. -/
theorem launch_eq_bringUp (s : Server) (host : Host) (address : String) (port : UInt16)
    (holder : Option IpAddress) (threads : Nat) :
    s.launch host address port holder threads
      = s.bringUp (refusals host address holder) address port threads := by
  cases hkind : s.kind with
  | multicast | pooledMulticast =>
      simp only [launch, bringUp, openGroup, readGroup, hkind,
        @first_groupSocket host address holder .multicast nofun,
        @first_groupSocket host address holder .pooledMulticast nofun]
      cases parseGroup address port with
      | error fault => rfl
      | ok group => cases host.join <;> rfl
  | webSocket =>
      simp only [launch, bringUp, openListener, readIp, hkind]
      cases hread : parseIp address with
      | error fault => rfl
      | ok ip =>
          cases hlisten : host.listen ip holder <;>
            simp [EngineKind.setUp, Refusals.first, refusals, hread, hlisten] <;> rfl

end Server

end Lifecast
