/-
Bytes read as text, whatever they hold.

`decode` reads UTF-8 and never fails.  Where the bytes are not well formed it
writes one replacement character for each maximal part that could still have been
the start of a character, and reads on at the byte that spoiled it.

A lead byte fixes how many bytes follow, and, to rule out overlong forms,
surrogates and values past the last code point, which values the first of them may
take; all later ones lie in 0x80..0xBF.
-/
import Lifecast.Bytes

namespace Lifecast.Text

/-- Written for bytes that are no character. -/
def replacement : Char := '\uFFFD'

/-- What a lead byte announces. -/
structure Lead where
  /-- The bits of the character that the lead byte holds itself. -/
  bits : Nat
  /-- How many bytes follow. -/
  more : Nat
  /-- The least value of the next byte. -/
  low : UInt8 := 0x80
  /-- The greatest value of the next byte. -/
  high : UInt8 := 0xBF

/-- Read a lead byte; `none` for a byte that starts no character. -/
def lead? (b : UInt8) : Option Lead :=
  let n := b.toNat
  if n < 0x80 then some { bits := n, more := 0 }
  else if n < 0xC2 then none
  else if n < 0xE0 then some { bits := n - 0xC0, more := 1 }
  else if n = 0xE0 then some { bits := 0, more := 2, low := 0xA0 }
  else if n = 0xED then some { bits := 0xD, more := 2, high := 0x9F }
  else if n < 0xF0 then some { bits := n - 0xE0, more := 2 }
  else if n = 0xF0 then some { bits := 0, more := 3, low := 0x90 }
  else if n < 0xF4 then some { bits := n - 0xF0, more := 3 }
  else if n = 0xF4 then some { bits := 4, more := 3, high := 0x8F }
  else none

/-- Read the bytes that a lead byte announced.  Stops in front of the first one
that does not fit. -/
def continuation (bits : Nat) (low high : UInt8) : Nat → Bytes → Char × Bytes
  | 0, rest => (Char.ofNat bits, rest)
  | _ + 1, [] => (replacement, [])
  | more + 1, b :: rest =>
    if low ≤ b ∧ b ≤ high then
      continuation (bits * 64 + b.toNat % 64) 0x80 0xBF more rest
    else
      (replacement, b :: rest)

/-- Read one character, or the replacement for a part that is none. -/
def decodeChar (b : UInt8) (rest : Bytes) : Char × Bytes :=
  match lead? b with
  | none => (replacement, rest)
  | some lead => continuation lead.bits lead.low lead.high lead.more rest

theorem length_continuation_le (bits : Nat) (low high : UInt8) (more : Nat) (bs : Bytes) :
    (continuation bits low high more bs).2.length ≤ bs.length := by
  fun_induction continuation bits low high more bs with
  | case1 => simp
  | case2 => simp
  | case3 _ _ _ _ _ _ _ ih => simp only [List.length_cons]; omega
  | case4 => simp

theorem length_decodeChar_le (b : UInt8) (rest : Bytes) :
    (decodeChar b rest).2.length ≤ rest.length := by
  unfold decodeChar
  split
  · exact Nat.le_refl _
  · exact length_continuation_le ..

/-- Read bytes behind text already read, newest character first. -/
def decodeOnto (done : List Char) : Bytes → List Char
  | [] => done.reverse
  | b :: rest =>
    have := length_decodeChar_le b rest
    decodeOnto ((decodeChar b rest).1 :: done) (decodeChar b rest).2
termination_by bs => bs.length
decreasing_by simp only [List.length_cons]; omega

/-- The text of some bytes. -/
def decode (bs : Bytes) : String :=
  String.ofList (decodeOnto [] bs)

/-- The bytes of a text. -/
def encode (s : String) : Bytes :=
  s.toUTF8.data.toList

end Lifecast.Text
