/-
The digest that answers an upgrade: SHA-1.

The message is filled up to whole blocks of 64 bytes with a set bit, zeros and its
length in bits.  Each block gives sixteen words, which are stretched to eighty, one for
each round; a round mixes its word into five words of state.
-/
import Lifecast.Bytes

namespace Lifecast

namespace Digest

/-- How many zeros fill the message up. -/
def zeros (length : Nat) : Nat :=
  (119 - length % 64) % 64

/-- The message in whole blocks. -/
def padded (message : Bytes) : Bytes :=
  message ++ 0x80 :: List.replicate (zeros message.length) 0 ++ Bytes.bigEndian (8 * message.length) 8

/-- Turn a word to the left. -/
def rotate (w : UInt32) (n : UInt32) : UInt32 :=
  (w <<< n) ||| (w >>> (32 - n))

/-- The words of a block, four bytes each. -/
def words : Bytes → List UInt32
  | a :: b :: c :: d :: rest => UInt32.ofNat (Bytes.ofBigEndian [a, b, c, d]) :: words rest
  | _ => []

/-- Stretch words by `n` more.  The words are held newest first, and a new one comes
from those 3, 8, 14 and 16 places before it. -/
def stretch (held : List UInt32) : Nat → List UInt32
  | 0 => held
  | n + 1 =>
    let word (back : Nat) : UInt32 := held.getD (back - 1) 0
    stretch (rotate (word 3 ^^^ word 8 ^^^ word 14 ^^^ word 16) 1 :: held) n

/-- The five words of state. -/
structure State where
  a : UInt32 := 0x67452301
  b : UInt32 := 0xEFCDAB89
  c : UInt32 := 0x98BADCFE
  d : UInt32 := 0x10325476
  e : UInt32 := 0xC3D2E1F0
deriving DecidableEq, Repr

namespace State

/-- What a round adds, by its number. -/
def mix (s : State) (i : Nat) : UInt32 :=
  if i < 20 then ((s.b &&& s.c) ||| (~~~s.b &&& s.d)) + 0x5A827999
  else if i < 40 then (s.b ^^^ s.c ^^^ s.d) + 0x6ED9EBA1
  else if i < 60 then ((s.b &&& s.c) ||| (s.b &&& s.d) ||| (s.c &&& s.d)) + 0x8F1BBCDC
  else (s.b ^^^ s.c ^^^ s.d) + 0xCA62C1D6

/-- One round. -/
def round (s : State) (i : Nat) (word : UInt32) : State :=
  { a := rotate s.a 5 + s.mix i + s.e + word
    b := s.a
    c := rotate s.b 30
    d := s.c
    e := s.d }

/-- Add another state, word by word. -/
def add (s t : State) : State :=
  { a := s.a + t.a, b := s.b + t.b, c := s.c + t.c, d := s.d + t.d, e := s.e + t.e }

/-- Take in one block. -/
def absorb (s : State) (block : Bytes) : State :=
  let schedule := (stretch (words block).reverse 64).reverse
  s.add (schedule.zipIdx.foldl (fun t (word, i) => t.round i word) s)

/-- The state as bytes. -/
def bytes (s : State) : Bytes :=
  [s.a, s.b, s.c, s.d, s.e].flatMap fun w => Bytes.bigEndian w.toNat 4

end State

/-- The blocks of a message that is `n` blocks long. -/
def blocks (message : Bytes) : (n : Nat) → List Bytes
  | 0 => []
  | n + 1 => message.take 64 :: blocks (message.drop 64) n

/-- The digest of a message. -/
def ofMessage (message : Bytes) : Bytes :=
  let whole := padded message
  ((blocks whole (whole.length / 64)).foldl State.absorb {}).bytes

end Digest

end Lifecast
