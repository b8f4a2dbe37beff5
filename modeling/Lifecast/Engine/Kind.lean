/-
The three engines.

A producer and its consumers have to use the same engine, which they name on their
command lines.  Every engine has one canonical name and one short one; letters of
either case are taken, and blanks around the name do not count.
-/
import Lifecast.Text.Blank

namespace Lifecast

/-- A way for frames to travel. -/
inductive EngineKind where
  /-- Datagrams to a multicast group, sent in order. -/
  | multicast
  /-- One connection for each consumer. -/
  | webSocket
  /-- Datagrams to a multicast group, sent by a pool of workers. -/
  | pooledMulticast
deriving DecidableEq, Repr

namespace EngineKind

/-- The engine used when none is named. -/
def standard : EngineKind := multicast

/-- All engines. -/
def all : List EngineKind := [multicast, webSocket, pooledMulticast]

/-- The canonical name. -/
def name : EngineKind → String
  | multicast => "multicast"
  | webSocket => "websocket"
  | pooledMulticast => "pooled-multicast"

/-- The name as it is compared: without blanks around it, ASCII letters in lower
case. -/
def normalized (s : String) : String :=
  String.ofList ((Text.trim s.toList).map Char.toLower)

/-- The engine of a normalized name. -/
def ofNormalized? : String → Option EngineKind
  | "multicast" => some multicast
  | "udp" => some multicast
  | "websocket" => some webSocket
  | "ws" => some webSocket
  | "pooled-multicast" => some pooledMulticast
  | "pooled" => some pooledMulticast
  | _ => none

/-- The engine that a text names, or else the normalized name that is none. -/
def ofText (s : String) : Except String EngineKind :=
  match ofNormalized? (normalized s) with
  | some kind => .ok kind
  | none => .error (normalized s)

end EngineKind

end Lifecast
