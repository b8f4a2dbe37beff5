/-
What can go wrong on the way from producer to consumer.

Only the calls that bring an engine up report an error.  What fails later ends a
connection instead of being reported.
-/
import Lifecast.Duration

namespace Lifecast

/-- An error of an engine. -/
inductive EngineError where
  /-- The address cannot be used. -/
  | invalidAddress (detail : String)
  /-- The client has a connection or is making one. -/
  | alreadyConnected
  /-- The server is not stopped. -/
  | alreadyRunning
  /-- No engine has this name. -/
  | unknownEngine (name : String)
  /-- The host refused a socket operation. -/
  | transport (detail : String)
  /-- The upgrade of a connection was refused or broke off. -/
  | handshake (detail : String)
  /-- The executor cannot run the operation. -/
  | runtime (detail : String)
  /-- The upgrade of a connection took too long. -/
  | timeout (limit : Duration)
  /-- A datagram left the host cut short. -/
  | partialSend (expected sent : Nat)
deriving DecidableEq, Repr

namespace EngineError

/-- The error in words. -/
def message : EngineError → String
  | invalidAddress detail => s!"invalid address: {detail}"
  | alreadyConnected => "client is already connected"
  | alreadyRunning => "server is already running"
  | unknownEngine name => s!"unknown engine: {name}"
  | transport detail => s!"transport error: {detail}"
  | handshake detail => s!"handshake failed: {detail}"
  | runtime detail => s!"runtime unavailable: {detail}"
  | timeout limit => s!"handshake timed out after {limit.text}"
  | partialSend expected sent =>
    s!"could not send complete datagram: expected {expected} bytes, sent {sent}"

end EngineError

end Lifecast
