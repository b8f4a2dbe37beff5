/-
Messages on an upgraded connection.

A message comes in one frame or in several; questions, answers and farewells come in a
frame of their own, also between the frames of a message.  A reader puts messages
together from whatever bytes it is given.  Once it has met something that may not be,
it is broken and reads nothing any more.
-/
import Lifecast.Text.Utf8
import Lifecast.WebSocket.Wire

namespace Lifecast

/-- A message. -/
inductive Message where
  /-- Text, in the bytes that encode it. -/
  | text (bytes : Bytes)
  /-- Bytes. -/
  | binary (bytes : Bytes)
  /-- A question whether the other side is there. -/
  | ping (payload : Bytes)
  /-- The answer to it. -/
  | pong (payload : Bytes)
  /-- A farewell, with a number and a reason if it has any. -/
  | close (reason : Option (Nat × String))
deriving DecidableEq, Repr

namespace Message

/-- The message as one frame. -/
def frame : Message → WireFrame
  | text bytes => ⟨true, .text, bytes⟩
  | binary bytes => ⟨true, .binary, bytes⟩
  | ping payload => ⟨true, .ping, payload⟩
  | pong payload => ⟨true, .pong, payload⟩
  | close none => ⟨true, .close, []⟩
  | close (some (code, reason)) =>
    ⟨true, .close, Bytes.bigEndian code 2 ++ Text.encode reason⟩

/-- The message as it travels. -/
def encode (key : Bytes) (m : Message) : Bytes :=
  m.frame.encode key

end Message

/-- A message of which more is to come. -/
structure Unfinished where
  isText : Bool
  bytes : Bytes
deriving DecidableEq, Repr

/-- The reading end of a connection. -/
structure Reader where
  /-- Does it read what a client sends? -/
  fromClient : Bool
  /-- The bytes that make no frame yet. -/
  unread : Bytes := []
  /-- The message that has begun. -/
  unfinished : Option Unfinished := none
  /-- Has it met something that may not be? -/
  broken : Bool := false
deriving DecidableEq, Repr

namespace Reader

/-- The longest message that is taken. -/
def maxMessage : Nat := 0x4000000

/-- Is the encoding well formed? -/
def isText (bytes : Bytes) : Bool :=
  Text.encode (Text.decode bytes) == bytes

/-- The message that whole data make. -/
def whole (u : Unfinished) : Option Message :=
  if maxMessage < u.bytes.length then none
  else if !u.isText then some (.binary u.bytes)
  else if isText u.bytes then some (.text u.bytes)
  else none

/-- The farewell that a payload holds. -/
def farewell : Bytes → Option Message
  | [] => some (.close none)
  | [_] => none
  | a :: b :: reason =>
    if isText reason then some (.close (some (Bytes.ofBigEndian [a, b], Text.decode reason)))
    else none

/-- Take data onto a message: it ends, or more of it is to come; `none` if it may not
be. -/
def extend (r : Reader) (final : Bool) (u : Unfinished) : Option (List Message × Reader) :=
  if final then (whole u).map fun m => ([m], { r with unfinished := none })
  else some ([], { r with unfinished := some u })

/-- Take in one frame; `none` if it may not be. -/
def acceptFrame (r : Reader) (f : WireFrame) : Option (List Message × Reader) :=
  match f.opcode, r.unfinished with
  | .ping, _ => some ([.ping f.payload], r)
  | .pong, _ => some ([.pong f.payload], r)
  | .close, _ => (farewell f.payload).map fun m => ([m], r)
  | .continuation, some u => r.extend f.final { u with bytes := u.bytes ++ f.payload }
  | .continuation, none => none
  | .text, none => r.extend f.final ⟨true, f.payload⟩
  | .binary, none => r.extend f.final ⟨false, f.payload⟩
  | .text, some _ => none
  | .binary, some _ => none

/-- Take all frames off some bytes, behind messages already read. -/
def drain (done : List Message) (r : Reader) (bytes : Bytes) : List Message × Reader :=
  match WireFrame.take? r.fromClient bytes with
  | .incomplete => (done, { r with unread := bytes })
  | .broken => (done, { r with broken := true })
  | .frame f rest _ =>
    match r.acceptFrame f with
    | none => (done, { r with broken := true })
    | some (messages, r) => r.drain (done ++ messages) rest
  termination_by bytes.length

/-- Take in what was read; the answer is the messages that are now complete. -/
def feed (r : Reader) (chunk : Bytes) : List Message × Reader :=
  if r.broken then ([], r) else { r with unread := [] }.drain [] (r.unread ++ chunk)

end Reader

end Lifecast
