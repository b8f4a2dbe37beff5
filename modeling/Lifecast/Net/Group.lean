/-
Multicast groups.

A group is an IPv4 multicast address with a port.  Each text falls into one of four
classes: a group address, another IPv4 address, an IPv6 address, or no address.
-/
import Lifecast.Net.Address
import Lifecast.Text.Blank

namespace Lifecast

/-- A multicast group. -/
structure Group where
  ip : Ipv4
  port : UInt16
  isMulticast : ip.isMulticast = true
deriving DecidableEq, Repr

/-- Why a text does not name an address that can be used; each case holds the
text. -/
inductive AddressFault where
  /-- It is no address at all. -/
  | notAnAddress (text : String)
  /-- It is an IPv4 address, but not of a group. -/
  | notMulticast (text : String)
  /-- It is an IPv6 address where a group is wanted. -/
  | ipv6Group (text : String)
  /-- It is blank where a host is wanted. -/
  | emptyHost
deriving DecidableEq, Repr

namespace AddressFault

/-- The fault in words. -/
def message : AddressFault → String
  | notAnAddress text => s!"'{text}' is not an IP address"
  | notMulticast text => s!"{text} is not a multicast address"
  | ipv6Group text => s!"{text} is IPv6; only IPv4 multicast groups are supported"
  | emptyHost => "empty host"

end AddressFault

/-- The address that a text is, blanks around it aside. -/
def parseIp (address : String) : Except AddressFault IpAddress :=
  match IpAddress.ofText? (Text.trim address.toList) with
  | some ip => .ok ip
  | none => .error (.notAnAddress address)

/-- The group that a text and a port name. -/
def parseGroup (address : String) (port : UInt16) : Except AddressFault Group := do
  match (← parseIp address) with
  | .v4 ip =>
    if h : ip.isMulticast = true then .ok ⟨ip, port, h⟩
    else .error (.notMulticast address)
  | .v6 _ => .error (.ipv6Group address)

end Lifecast
