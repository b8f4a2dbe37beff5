/-
Addresses and refusals of the sockets that the programs run on.
-/
import Lifecast.Bytes
import Lifecast.Engine.Error
import Lifecast.Net.Address
import Std.Async.TCP
import Std.Async.UDP

namespace Lifecast

namespace Ipv4

/-- The address as sockets take it. -/
def socketForm (ip : Ipv4) : Std.Net.IPv4Addr :=
  ⟨#v[ip.a, ip.b, ip.c, ip.d]⟩

/-- The address that a socket names. -/
def ofSocketForm (ip : Std.Net.IPv4Addr) : Ipv4 :=
  ⟨ip.octets[0], ip.octets[1], ip.octets[2], ip.octets[3]⟩

end Ipv4

/-- An address and a port as sockets take them. -/
def IpAddress.socketForm (ip : IpAddress) (port : UInt16) : Std.Net.SocketAddress :=
  match ip with
  | .v4 ip => .v4 ⟨ip.socketForm, port⟩
  | .v6 ip => .v6 ⟨⟨ip.groups⟩, port⟩

/-- The address and the port that a socket names. -/
def SocketAddress.ofSocketForm : Std.Net.SocketAddress → SocketAddress
  | .v4 a => .v4 (Ipv4.ofSocketForm a.addr) a.port
  | .v6 a => .v6 ⟨a.addr.segments⟩ 0 a.port

/-- The bytes as sockets take them. -/
def Bytes.socketForm (bytes : Bytes) : ByteArray :=
  ⟨bytes.toArray⟩

/-- Run an action on sockets; what it is refused becomes an error of the engine. -/
def attempt {α : Type} (toError : String → EngineError) (action : Std.Async.Async α) :
    Std.Async.Async (Except EngineError α) := do
  try return .ok (← action)
  catch refusal => return .error (toError (toString refusal))

end Lifecast
