/-
Writing to something that may break.

A writer takes some of the bytes it is offered, at most `chunk` at a time and `limit` in
all, and it breaks when it is offered bytes of which it can take none.  `writeAll`
offers what is left again and again until all of it is taken or the writer breaks.
-/
import Lifecast.Bytes

namespace Lifecast

/-- A writer, as far as it limits what can be written. -/
structure Writer where
  /-- The most bytes taken at a time; none for any number. -/
  chunk : Option Nat := none
  /-- The most bytes taken in all; none for any number. -/
  limit : Option Nat := none
  /-- How many bytes it has taken. -/
  taken : Nat := 0
deriving DecidableEq, Repr

/-- Why not everything was written. -/
inductive WriteFault where
  /-- The writer can take no more bytes. -/
  | brokenPipe
deriving DecidableEq, Repr

namespace WriteFault

/-- The fault in words. -/
def message : WriteFault → String
  | brokenPipe => "broken pipe"

end WriteFault

/-- What came of writing some bytes. -/
structure Written where
  /-- The writer afterwards. -/
  writer : Writer
  /-- The bytes that it took. -/
  bytes : Bytes := []
  /-- Why it did not take all of them. -/
  fault : Option WriteFault := none
deriving DecidableEq, Repr

namespace Written

/-- What came of the whole if some bytes were taken before. -/
def after (first : Bytes) (rest : Written) : Written :=
  { rest with bytes := first ++ rest.bytes }

end Written

namespace Writer

/-- The lesser of a number and a bound, if there is one. -/
def atMost : Option Nat → Nat → Nat
  | none, n => n
  | some bound, n => min bound n

/-- How many of some bytes the writer takes when they are offered. -/
def share (w : Writer) (offered : Nat) : Nat :=
  atMost (w.limit.map (· - w.taken)) (atMost w.chunk offered)

/-- The writer after it has taken some more bytes. -/
def take (w : Writer) (n : Nat) : Writer :=
  { w with taken := w.taken + n }

/-- Offer bytes until all are taken or the writer breaks. -/
def writeAll (w : Writer) (bs : Bytes) : Written :=
  if bs.isEmpty then { writer := w }
  else if _h : w.share bs.length = 0 then { writer := w, fault := some .brokenPipe }
  else
    ((w.take (w.share bs.length)).writeAll (bs.drop (w.share bs.length))).after
      (bs.take (w.share bs.length))
termination_by bs.length
decreasing_by
  rename_i notEmpty
  have : bs.length ≠ 0 := by simpa using notEmpty
  rw [List.length_drop]
  omega

/-- Write several pieces one after the other, up to the first fault. -/
def writePieces (w : Writer) : List Bytes → Written
  | [] => { writer := w }
  | piece :: rest =>
    let written := w.writeAll piece
    match written.fault with
    | none => (written.writer.writePieces rest).after written.bytes
    | some _ => written

end Writer

end Lifecast
