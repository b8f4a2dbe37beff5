/-
Bytes written in base 64.

Three bytes become four characters of six bits each.  One or two bytes at the end
become two or three characters, filled up to four with equals signs.
-/
import Lifecast.Bytes

namespace Lifecast

namespace Base64

/-- The characters, by value. -/
def alphabet : List Char :=
  "ABCDEFGHIJKLMNOPQRSTUVWXYZabcdefghijklmnopqrstuvwxyz0123456789+/".toList

/-- The character of the six bits that start `shift` bits above the lowest. -/
def sextet (n shift : Nat) : Char :=
  alphabet.getD ((n >>> shift) % 64) '='

/-- Bytes as characters. -/
def characters : Bytes → List Char
  | [] => []
  | [a] =>
    let n := a.toNat * 0x10000
    [sextet n 18, sextet n 12, '=', '=']
  | [a, b] =>
    let n := a.toNat * 0x10000 + b.toNat * 0x100
    [sextet n 18, sextet n 12, sextet n 6, '=']
  | a :: b :: c :: rest =>
    let n := a.toNat * 0x10000 + b.toNat * 0x100 + c.toNat
    sextet n 18 :: sextet n 12 :: sextet n 6 :: sextet n 0 :: characters rest

/-- Bytes as text. -/
def encode (bytes : Bytes) : String :=
  String.ofList (characters bytes)

end Base64

end Lifecast
