/-
The frames in which messages travel on an upgraded connection.

A frame has a header of two bytes, in which the sender says what the frame holds and
how long it is; lengths above 125 need two or eight bytes more.  What a client sends is
masked: four bytes are given in the header and added, without carries, to the bytes of
the payload in turn.

`take?` takes one frame off the front of what was read.  It always takes some bytes, so
whoever takes frames until there are no more comes to an end.
-/
import Lifecast.Bytes

namespace Lifecast

/-- What a frame holds. -/
inductive Opcode where
  /-- More of the message before it. -/
  | continuation
  /-- The start of a message of text. -/
  | text
  /-- The start of a message of bytes. -/
  | binary
  /-- A farewell. -/
  | close
  /-- A question whether the other side is there. -/
  | ping
  /-- The answer to it. -/
  | pong
deriving DecidableEq, Repr

namespace Opcode

/-- The number of an opcode. -/
def number : Opcode → Nat
  | continuation => 0
  | text => 1
  | binary => 2
  | close => 8
  | ping => 9
  | pong => 10

/-- The opcode with a number. -/
def ofNumber? : Nat → Option Opcode
  | 0 => some continuation
  | 1 => some text
  | 2 => some binary
  | 8 => some close
  | 9 => some ping
  | 10 => some pong
  | _ => none

/-- Does the frame stand between messages rather than in one? -/
def isControl : Opcode → Bool
  | close | ping | pong => true
  | _ => false

end Opcode

/-- One frame. -/
structure WireFrame where
  /-- Does it end its message? -/
  final : Bool
  opcode : Opcode
  payload : Bytes
deriving DecidableEq, Repr

namespace WireFrame

/-- The longest payload that is taken. -/
def maxPayload : Nat := 0x1000000

/-- The longest payload of a frame that stands between messages. -/
def maxControlPayload : Nat := 125

/-- Put a mask on a payload, or take it off again. -/
def masked (key : Bytes) (payload : Bytes) : Bytes :=
  match key with
  | [] => payload
  | key => payload.mapIdx fun i b => b ^^^ key.getD (i % key.length) 0

/-- The length as the header has it: in seven bits, and in more bytes if it needs
them. -/
def lengthField (n : Nat) : Nat × Bytes :=
  if n ≤ 125 then (n, [])
  else if n ≤ 65535 then (126, Bytes.bigEndian n 2)
  else (127, Bytes.bigEndian n 8)

/-- The frame as it travels, masked by a key of four bytes, or not if there is no
key. -/
def encode (key : Bytes) (f : WireFrame) : Bytes :=
  let (short, more) := lengthField f.payload.length
  let first := (if f.final then 128 else 0) + f.opcode.number
  let second := (if key.isEmpty then 0 else 128) + short
  UInt8.ofNat first :: UInt8.ofNat second :: more ++ key ++ masked key f.payload

/-- What is found at the front of some bytes. -/
inductive Taken (bytes : Bytes) where
  /-- Less than a frame. -/
  | incomplete
  /-- No frame at all. -/
  | broken
  /-- A frame, and what is left behind it. -/
  | frame (f : WireFrame) (rest : Bytes) (shorter : rest.length < bytes.length)

/-- Is the header one that may be? -/
def allowed (final : Bool) (opcode : Opcode) (length : Nat) : Bool :=
  if opcode.isControl then final && length ≤ maxControlPayload else length ≤ maxPayload

/-- Take a frame off the front of some bytes.  All frames of a client are masked, and
none of a server. -/
def take? (fromClient : Bool) : (bytes : Bytes) → Taken bytes
  | first :: second :: rest =>
    let short := second.toNat % 128
    let lengthBytes := if short = 126 then 2 else if short = 127 then 8 else 0
    let keyBytes := if 128 ≤ second.toNat then 4 else 0
    if rest.length < lengthBytes + keyBytes then .incomplete
    else
      let length :=
        if lengthBytes = 0 then short else Bytes.ofBigEndian (rest.take lengthBytes)
      let final := decide (128 ≤ first.toNat)
      let key := (rest.drop lengthBytes).take keyBytes
      let body := rest.drop (lengthBytes + keyBytes)
      match Opcode.ofNumber? (first.toNat % 128) with
      | none => .broken
      | some opcode =>
        if !allowed final opcode length || (keyBytes != 0) != fromClient then .broken
        else if body.length < length then .incomplete
        else
          .frame { final, opcode, payload := masked key (body.take length) } (body.drop length)
            (by simp only [body, List.length_drop, List.length_cons]; omega)
  | _ => .incomplete

end WireFrame

end Lifecast
