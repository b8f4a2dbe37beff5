/-
The network as a host sees it.

Everything an engine asks of the network is answered here: may it listen at an
address, may it join a group, can it reach an address, and what does a name stand for.
Engines run on a host whose loopback interface is up.  Where it is down, or missing,
nothing can be reached and no group can be joined, but a server may still listen: a
host without any interface has no address of its own and takes every IPv4 address for
one it may use.
-/
import Lifecast.Net.Name
import Lifecast.OsError

namespace Lifecast

namespace Ipv4

/-- Does the address stand for the host itself? -/
def isLoopback (ip : Ipv4) : Bool :=
  ip.a == 127

/-- The usual address of the host itself. -/
def localhost : Ipv4 := ⟨127, 0, 0, 1⟩

end Ipv4

/-- A host, as far as engines depend on it. -/
structure Host where
  /-- Is the loopback interface up? -/
  loopback : Bool
deriving DecidableEq, Repr

namespace Host

/-- A host that reaches itself and nothing else. -/
def looped : Host := { loopback := true }

/-- A host on which no interface is up. -/
def isolated : Host := { loopback := false }

/-- Is the IPv4 address one of the host's own? -/
def owns (host : Host) (ip : Ipv4) : Bool :=
  !host.loopback || ip.isLoopback || ip == Ipv4.unspecified

/-- May a server listen at this address?  `holder` is the address at which somebody
listens already, on the same port. -/
def listen (host : Host) (ip : IpAddress) (holder : Option IpAddress) : Except OsError Unit :=
  let own : Except OsError Unit := match ip.unmapped with
    | .v4 ip => if host.owns ip then .ok () else .error .addressNotAvailable
    | .v6 ip =>
      if ip == Ipv6.unspecified || (host.loopback && ip == Ipv6.localhost) then .ok ()
      else if ip.isMulticast || ip.isLinkLocal then .error .invalidArgument
      else .error .addressNotAvailable
  own.bind fun _ => if holder.any ip.overlaps then .error .addressInUse else .ok ()

/-- May a member join a multicast group? -/
def join (host : Host) : Except OsError Unit :=
  if host.loopback then .ok () else .error .noSuchDevice

/-- Can an address be reached?  One that holds on a single link only is of no use
unless its scope names the link. -/
def reach (host : Host) (target : SocketAddress) : Except OsError Unit :=
  match target.ip.unmapped with
  | .v4 ip => if host.loopback && host.owns ip then .ok () else .error .networkUnreachable
  | .v6 ip =>
    if ip.isMulticast then .error .networkUnreachable
    else if ip.isLinkLocal && target.scope == 0 then .error .invalidArgument
    else if host.loopback && (ip == Ipv6.localhost || ip == Ipv6.unspecified) then .ok ()
    else .error .addressNotAvailable

/-- Whom a name stands for.  An address stands for itself, and the host knows itself by
name, letters of either case.  It has nobody to ask about other names. -/
def lookup (_ : Host) (name : String) (port : UInt16) : Except NameFault SocketAddress :=
  let cs := name.toList
  match SocketAddress.ofHost? cs port, Ipv4.ofShortText? cs with
  | some target, _ => .ok target
  | none, some ip => .ok (.v4 ip port)
  | none, none =>
    if cs.map Char.toLower = "localhost".toList then .ok (.v4 Ipv4.localhost port)
    else if isHostName cs then .error .noAnswer
    else .error .notAName

end Host

end Lifecast
