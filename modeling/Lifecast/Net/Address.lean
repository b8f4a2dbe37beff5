/-
Internet addresses.

An IPv4 address is four numbers with dots between them, none written with a leading
zero.  An IPv6 address is eight groups of up to four hexadecimal digits with colons
between them; one `::` may stand for one or more groups of zero, and the last two
groups may be written as an IPv4 address.

Each reader takes an address off the front of a text and gives back what follows;
`ofText?` asks that nothing does.
-/

namespace Lifecast

/-- An IPv4 address. -/
structure Ipv4 where
  a : UInt8
  b : UInt8
  c : UInt8
  d : UInt8
deriving DecidableEq, Repr

/-- An IPv6 address: eight groups of sixteen bits. -/
structure Ipv6 where
  groups : Vector UInt16 8
deriving DecidableEq, Repr

/-- An address of either kind. -/
inductive IpAddress where
  | v4 (ip : Ipv4)
  | v6 (ip : Ipv6)
deriving DecidableEq, Repr

/-! ### Reading -/

/-- The value of a hexadecimal digit of either case. -/
def hexValue? (c : Char) : Option Nat :=
  if c.isDigit then some (c.toNat - '0'.toNat)
  else if 'a' ≤ c ∧ c ≤ 'f' then some (c.toNat - 'a'.toNat + 10)
  else if 'A' ≤ c ∧ c ≤ 'F' then some (c.toNat - 'A'.toNat + 10)
  else none

/-- Take one character off the front of a text. -/
def skipChar? (c : Char) : List Char → Option (List Char)
  | [] => none
  | x :: rest => if x = c then some rest else none

namespace Ipv4

/-- The address on which a host listens everywhere. -/
def unspecified : Ipv4 := ⟨0, 0, 0, 0⟩

/-- Read a number from 0 to 255, without leading zeros. -/
def octet? (cs : List Char) : Option (UInt8 × List Char) :=
  let digits := cs.takeWhile Char.isDigit
  let value := digits.foldl (fun n c => n * 10 + (c.toNat - '0'.toNat)) 0
  if digits.isEmpty || 3 < digits.length || 255 < value then none
  else if digits.head? = some '0' && 1 < digits.length then none
  else some (UInt8.ofNat value, cs.dropWhile Char.isDigit)

/-- Read an address off the front of a text. -/
def read? (cs : List Char) : Option (Ipv4 × List Char) := do
  let (a, cs) ← octet? cs
  let (b, cs) ← octet? (← skipChar? '.' cs)
  let (c, cs) ← octet? (← skipChar? '.' cs)
  let (d, cs) ← octet? (← skipChar? '.' cs)
  return (⟨a, b, c, d⟩, cs)

/-- Is it an address of a group of hosts (224.0.0.0/4)? -/
def isMulticast (ip : Ipv4) : Bool :=
  224 ≤ ip.a && ip.a ≤ 239

/-- The address as text. -/
def text (ip : Ipv4) : String :=
  s!"{ip.a}.{ip.b}.{ip.c}.{ip.d}"

/-- The address as two groups of sixteen bits. -/
def groups (ip : Ipv4) : List UInt16 :=
  [ip.a.toUInt16 * 256 + ip.b.toUInt16, ip.c.toUInt16 * 256 + ip.d.toUInt16]

/-- The address that two groups of sixteen bits hold. -/
def ofGroups (high low : UInt16) : Ipv4 :=
  ⟨(high / 256).toUInt8, high.toUInt8, (low / 256).toUInt8, low.toUInt8⟩

end Ipv4

namespace Ipv6

/-- Read one group: one to four hexadecimal digits. -/
def group? (cs : List Char) : Option (UInt16 × List Char) :=
  let digits := cs.takeWhile fun c => (hexValue? c).isSome
  if digits.isEmpty || 4 < digits.length then none
  else
    let value := digits.foldl (fun n c => n * 16 + (hexValue? c).getD 0) 0
    some (UInt16.ofNat value, cs.dropWhile fun c => (hexValue? c).isSome)

/-- Read up to `slots` groups, with a colon in front of each but the first one of
all.  An IPv4 address may close them where two slots are left; the flag says that
one did. -/
def groupsOf (first : Bool) : Nat → List Char → List UInt16 × Bool × List Char
  | 0, cs => ([], false, cs)
  | slots + 1, cs =>
    match if first then some cs else skipChar? ':' cs with
    | none => ([], false, cs)
    | some body =>
      match if 0 < slots then Ipv4.read? body else none with
      | some (ip, rest) => (ip.groups, true, rest)
      | none =>
        match group? body with
        | none => ([], false, cs)
        | some (g, rest) =>
          let (gs, closed, rest) := groupsOf false slots rest
          (g :: gs, closed, rest)

/-- The address with some groups in front, some at the end and zeros between. -/
def ofEnds (front back : List UInt16) : Ipv6 :=
  let groups := front ++ List.replicate (8 - front.length - back.length) 0 ++ back
  ⟨Vector.ofFn fun i : Fin 8 => groups.getD i 0⟩

/-- Read an address off the front of a text. -/
def read? (cs : List Char) : Option (Ipv6 × List Char) :=
  let (front, closed, rest) := groupsOf true 8 cs
  if front.length = 8 then some (ofEnds front [], rest)
  else if closed then none
  else do
    let rest ← skipChar? ':' (← skipChar? ':' rest)
    let (back, _, rest) := groupsOf true (7 - front.length) rest
    return (ofEnds front back, rest)

/-- Is it an address of a group of hosts (ff00::/8)? -/
def isMulticast (ip : Ipv6) : Bool :=
  ip.groups[0] / 0x100 == 0xff

/-- Does the address hold on one link only (fe80::/10)? -/
def isLinkLocal (ip : Ipv6) : Bool :=
  ip.groups[0] / 0x40 == 0xfe80 / 0x40

/-- The address on which a host listens everywhere. -/
def unspecified : Ipv6 := ofEnds [] []

/-- The address of the host itself. -/
def localhost : Ipv6 := ofEnds [] [1]

/-- The IPv4 address that this address stands for (`::ffff:a.b.c.d`), if any. -/
def mapped? (ip : Ipv6) : Option Ipv4 :=
  match ip.groups.toList with
  | [0, 0, 0, 0, 0, 0xffff, high, low] => some (Ipv4.ofGroups high low)
  | _ => none

/-- How many groups at the front are zero. -/
def zerosAtFront (gs : List UInt16) : Nat :=
  (gs.takeWhile (· == 0)).length

/-- Where the longest run of zero groups starts and its length; the first one of
several. -/
def longestZeros (gs : List UInt16) : Nat × Nat :=
  (List.range gs.length).foldl (fun best i =>
    let n := zerosAtFront (gs.drop i)
    if best.2 < n then (i, n) else best) (0, 0)

/-- Groups as text, with colons between them. -/
def joined (gs : List UInt16) : String :=
  ":".intercalate (gs.map fun g => String.ofList (Nat.toDigits 16 g.toNat))

/-- The address as text.  The longest run of two or more zero groups is left out. -/
def text (ip : Ipv6) : String :=
  match ip.mapped? with
  | some v4 => "::ffff:" ++ v4.text
  | none =>
    let gs := ip.groups.toList
    let (start, length) := longestZeros gs
    if length < 2 then joined gs
    else joined (gs.take start) ++ "::" ++ joined (gs.drop (start + length))

end Ipv6

namespace IpAddress

/-- Read an address of either kind off the front of a text. -/
def read? (cs : List Char) : Option (IpAddress × List Char) :=
  match Ipv4.read? cs with
  | some (ip, rest) => some (.v4 ip, rest)
  | none => (Ipv6.read? cs).map fun (ip, rest) => (.v6 ip, rest)

/-- The address that a text is. -/
def ofText? (cs : List Char) : Option IpAddress :=
  match read? cs with
  | some (ip, []) => some ip
  | _ => none

/-- The address as text. -/
def text : IpAddress → String
  | v4 ip => ip.text
  | v6 ip => ip.text

/-- An address that stands for an IPv4 address becomes that address. -/
def unmapped : IpAddress → IpAddress
  | v4 ip => v4 ip
  | v6 ip => (ip.mapped?.map v4).getD (v6 ip)

/-- Is whoever listens at one address also reached at another?  Listening everywhere
over IPv6 includes IPv4. -/
def covers (bound target : IpAddress) : Bool :=
  match bound.unmapped, target.unmapped with
  | v6 bound, target => bound == Ipv6.unspecified || v6 bound == target
  | v4 bound, v4 target => bound == Ipv4.unspecified || bound == target
  | v4 _, v6 _ => false

/-- Do two who listen at these addresses get in each other's way? -/
def overlaps (a b : IpAddress) : Bool :=
  covers a b || covers b a

end IpAddress

/-! ### An address and a port -/

/-- Where a connection starts or ends. -/
inductive SocketAddress where
  | v4 (ip : Ipv4) (port : UInt16)
  /-- The scope says on which link a local address is meant; 0 leaves it open. -/
  | v6 (ip : Ipv6) (scope : UInt32) (port : UInt16)
deriving DecidableEq, Repr

namespace SocketAddress

/-- Read a number up to `limit`, leading zeros allowed. -/
def number? (limit : Nat) (cs : List Char) : Option (Nat × List Char) :=
  let digits := cs.takeWhile Char.isDigit
  let value := digits.foldl (fun n c => n * 10 + (c.toNat - '0'.toNat)) 0
  if digits.isEmpty || limit < value then none else some (value, cs.dropWhile Char.isDigit)

/-- Read an IPv6 address in brackets, with a scope behind a percent sign if any. -/
def bracketed? (cs : List Char) : Option (Ipv6 × UInt32 × List Char) := do
  let (ip, cs) ← Ipv6.read? (← skipChar? '[' cs)
  let (scope, cs) ← match skipChar? '%' cs with
    | none => pure (0, cs)
    | some cs => number? (Nat.pow 2 32 - 1) cs
  return (ip, UInt32.ofNat scope, ← skipChar? ']' cs)

/-- Read the port at the end of a text. -/
def port? (cs : List Char) : Option UInt16 := do
  let (port, rest) ← number? (Nat.pow 2 16 - 1) (← skipChar? ':' cs)
  if rest.isEmpty then some (UInt16.ofNat port) else none

/-- The address and port that a text is: `1.2.3.4:80` or `[::1]:80`. -/
def ofText? (cs : List Char) : Option SocketAddress :=
  match Ipv4.read? cs with
  | some (ip, rest) => (port? rest).map (.v4 ip)
  | none => do
    let (ip, scope, rest) ← bracketed? cs
    return .v6 ip scope (← port? rest)

/-- The host that a text names by its address: `1.2.3.4` or `[::1]`. -/
def ofHost? (cs : List Char) (port : UInt16) : Option SocketAddress :=
  match Ipv4.read? cs, bracketed? cs with
  | some (ip, []), _ => some (.v4 ip port)
  | none, some (ip, scope, []) => some (.v6 ip scope port)
  | _, _ => none

/-- An address with a port. -/
def of : IpAddress → UInt16 → SocketAddress
  | .v4 ip, port => .v4 ip port
  | .v6 ip, port => .v6 ip 0 port

/-- The address alone. -/
def ip : SocketAddress → IpAddress
  | v4 ip _ => .v4 ip
  | v6 ip _ _ => .v6 ip

/-- The scope alone; IPv4 has none. -/
def scope : SocketAddress → UInt32
  | v4 _ _ => 0
  | v6 _ scope _ => scope

/-- The port alone. -/
def port : SocketAddress → UInt16
  | v4 _ port => port
  | v6 _ _ port => port

/-- The address and port as text. -/
def text : SocketAddress → String
  | v4 ip port => s!"{ip.text}:{port}"
  | v6 ip scope port =>
    let zone := if scope = 0 then "" else s!"%{scope}"
    s!"[{ip.text}{zone}]:{port}"

end SocketAddress

end Lifecast
