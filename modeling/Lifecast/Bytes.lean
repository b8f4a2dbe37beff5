/-
Bytes, the stuff that travels.

Payloads, datagrams and frames are short and are taken apart from the front, so a
plain list of bytes serves everywhere and every law about them is a law about
lists.
-/

namespace Lifecast

/-- A run of bytes, first byte first. -/
abbrev Bytes : Type := List UInt8

namespace Bytes

/-- A number in so many bytes, highest first. -/
def bigEndian (n : Nat) : (count : Nat) → Bytes
  | 0 => []
  | k + 1 => UInt8.ofNat (n >>> (8 * k)) :: bigEndian n k

/-- The number that bytes write, highest first. -/
def ofBigEndian (bytes : Bytes) : Nat :=
  bytes.foldl (fun n b => n * 256 + b.toNat) 0

end Bytes

end Lifecast
