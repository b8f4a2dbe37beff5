/-
Where a client of the connection engine finds its server.

The client is given a host and a port and makes of them the address
`ws://host:port/`, with brackets around a host that has colons.  Whatever the host is,
the result is read back by the rules for such addresses: an authority up to the first
`/`, `?` or `#`, which may start with user information that ends in `@` and may end
with a colon and a port.
-/
import Lifecast.Net.Group
import Lifecast.Numeral

namespace Lifecast

/-- Why an address of this form cannot be used. -/
inductive UrlFault where
  /-- A character may not stand in it. -/
  | badCharacter
  /-- The authority is not well formed. -/
  | badAuthority
  /-- There is no authority. -/
  | badFormat
  /-- It is too long. -/
  | tooLong
deriving DecidableEq, Repr

namespace UrlFault

/-- The fault in words. -/
def message : UrlFault → String
  | badCharacter => "HTTP format error: invalid uri character"
  | badAuthority => "HTTP format error: invalid authority"
  | badFormat => "HTTP format error: invalid format"
  | tooLong => "HTTP format error: uri too long"

end UrlFault

/-- Where to connect: a host and a port. -/
structure Endpoint where
  host : String
  port : UInt16
deriving DecidableEq, Repr

namespace Endpoint

/-- May the character stand in an address as it is? -/
def isUrlChar (c : Char) : Bool :=
  c.isAlphanum || "!#$&'()*+,-./:;=?@[]_~".contains c

/-- Does the character end an authority? -/
def endsAuthority (c : Char) : Bool :=
  c == '/' || c == '?' || c == '#'

/-- What has been seen of an authority. -/
structure Seen where
  colons : Nat := 0
  opened : Bool := false
  closed : Bool := false
  percent : Bool := false
  /-- Was the last character an `@`? -/
  justAt : Bool := false

/-- See one more character of an authority.  Colons and percent signs inside brackets
or in user information do not count. -/
def see (s : Seen) (c : Char) : Except UrlFault Seen :=
  let s := { s with justAt := false }
  if c = ':' then
    if 8 ≤ s.colons then .error .badAuthority else .ok { s with colons := s.colons + 1 }
  else if c = '[' then
    if s.percent || s.opened then .error .badAuthority else .ok { s with opened := true }
  else if c = ']' then
    if !s.opened || s.closed then .error .badAuthority
    else .ok { s with closed := true, colons := 0, percent := false }
  else if c = '@' then .ok { s with colons := 0, percent := false, justAt := true }
  else if c = '%' then .ok { s with percent := true }
  else if isUrlChar c then .ok s
  else .error .badCharacter

/-- Check an authority. -/
def checkAuthority (authority : List Char) : Except UrlFault Unit := do
  let s ← authority.foldlM see {}
  if s.opened != s.closed || 1 < s.colons || s.justAt || s.percent then
    throw .badAuthority
  if authority.isEmpty then
    throw .badFormat

/-- An authority without its user information. -/
def withoutUser (authority : List Char) : List Char :=
  (authority.reverse.takeWhile (· != '@')).reverse

/-- The host of an authority without user information; brackets around it belong to
it. -/
def hostOf : List Char → List Char
  | '[' :: rest => '[' :: rest.takeWhile (· != ']') ++ [']']
  | cs => cs.takeWhile (· != ':')

/-- The port at the end of an authority; 80 if there is none. -/
def portOf (authority : List Char) : UInt16 :=
  let after := (authority.reverse.takeWhile (· != ':')).reverse
  if after.length = authority.length then 80
  else
    match Numeral.readNat (Nat.pow 2 16 - 1) after with
    | .ok port => UInt16.ofNat port
    | .error _ => 80

/-- The address of a host and a port, without the `ws://` in front. -/
def addressOf (host : List Char) (port : UInt16) : List Char :=
  let bracketed := if host.contains ':' then '[' :: host ++ [']'] else host
  bracketed ++ s!":{port}/".toList

/-- May the character stand in a path as it is? -/
def isPathChar (c : Char) : Bool :=
  ' ' < c && !(['#', '<', '>', '\x60', '\x7f'].contains c)

/-- May the character stand in a query as it is? -/
def isQueryChar (c : Char) : Bool :=
  ' ' < c && !(['"', '#', '<', '>', '\x7f'].contains c)

/-- Check what follows an authority: a path, then a query behind a `?`.  What follows
a `#` is not looked at. -/
def checkPath (path : List Char) : Except UrlFault Unit :=
  let path := path.takeWhile (· != '#')
  if (path.takeWhile (· != '?')).all isPathChar
      && ((path.dropWhile (· != '?')).drop 1).all isQueryChar then .ok ()
  else .error .badCharacter

/-- The longest address, in bytes. -/
def maxAddressLength : Nat := 65534

/-- Where the address of a host and a port leads. -/
def ofHost (host : List Char) (port : UInt16) : Except UrlFault Endpoint := do
  let address := addressOf host port
  if maxAddressLength < "ws://".utf8ByteSize + (String.ofList address).utf8ByteSize then
    throw .tooLong
  let authority := address.takeWhile fun c => !endsAuthority c
  checkAuthority authority
  checkPath (address.dropWhile fun c => !endsAuthority c)
  return { host := String.ofList (hostOf (withoutUser authority)), port := portOf authority }

end Endpoint

end Lifecast
