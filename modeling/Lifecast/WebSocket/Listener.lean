/-
A client that listens to a session.

The bytes of the server come in pieces of any length.  Text and binary messages alike
are data for the client, a question is answered at once, and a farewell, bytes that make
no message, or the end of the connection end the session.  What comes later is not heard
any more.
-/
import Lifecast.Engine.Client
import Lifecast.WebSocket.Message

namespace Lifecast

/-- A client on a session, and what it has answered. -/
structure Listener where
  /-- The client. -/
  client : Client
  /-- Puts the messages of the server together. -/
  reader : Reader := { fromClient := false }
  /-- The payloads of the answers given, oldest first. -/
  answers : List Bytes := []

namespace Listener

/-- The session ends from the other side. -/
def hangUp (l : Listener) : Listener :=
  { l with client := l.client.peerClosed }

/-- Take in a message. -/
def hear (l : Listener) (m : Message) : Listener :=
  if l.client.reads.isNone then l
  else match m with
    | .text bytes | .binary bytes =>
      { l with client := l.client.receive (.error .alreadyConnected) bytes }
    | .ping payload => { l with answers := l.answers ++ [payload] }
    | .pong _ => l
    | .close _ => l.hangUp

/-- Take in a piece of what the server sends; `none` is the end of the connection. -/
def follow (l : Listener) : Option Bytes → Listener
  | none => l.hangUp
  | some piece =>
    let (messages, reader) := l.reader.feed piece
    let l := messages.foldl hear { l with reader }
    if reader.broken then l.hangUp else l

end Listener

end Lifecast
