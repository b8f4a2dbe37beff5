/-
The settings that the engines share.
-/
import Lifecast.Duration
import Lifecast.Framing
import Lifecast.Net.Address

namespace Lifecast

/-- Settings of an engine. -/
structure EngineConfig where
  /-- The byte that ends a frame. -/
  delimiter : UInt8 := defaultDelimiter
  /-- How long a client waits for its connection to be upgraded. -/
  handshakeTimeout : Duration := Duration.ofSeconds 30
  /-- The longest datagram that a client takes in; a longer one is cut. -/
  recvBufferSize : Nat := 64 * 1024
  /-- How many networks a datagram may cross. -/
  multicastTtl : Nat := 1
  /-- Do datagrams come back to members on the sending host? -/
  multicastLoop : Bool := true
  /-- The interface on which groups are joined. -/
  multicastInterface : Ipv4 := Ipv4.unspecified
  /-- How often the pooled engine's receiver looks whether it should stop. -/
  pollTimeout : Duration := Duration.ofMilliseconds 10
deriving DecidableEq, Repr

end Lifecast
