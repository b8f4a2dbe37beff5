/-
What can be asked of a server.

A server is started, stopped and given something to broadcast.  Meanwhile connections reach it,
and the sessions that it has made for them register and end on their own.  Each call is one step of
a run of the server, whoever makes it, and `perform` says what it changes and what it answers.
-/
import Lifecast.Engine.SetUp

namespace Lifecast

namespace Server

/-- Make a session for a connection.  Refused unless the server is listening. -/
def connect (s : Server) (remote : SocketAddress) : Option Handle × Server :=
  match s.service.current with
  | some (.listener number _) =>
    let (id, hub) := s.hub.nextId
    let (h, hub) := hub.make id remote number
    (some h, { s with hub })
  | _ => (none, s)

/-- A session registers and opens, or else closes. -/
def openSession (s : Server) (h : Handle) : Bool × Server :=
  let (registered, hub) := s.hub.register h
  let (opened, hub) := hub.updateWith h false Session.openUp
  if registered && opened then (true, { s with hub }) else (false, { s with hub := hub.close h })

/-- To accept a connection is to make a session for it and to let it register at once. -/
theorem accept_eq (s : Server) (remote : SocketAddress) :
    s.accept remote =
      match s.connect remote with
      | (none, s) => (none, s)
      | (some h, s) =>
        match s.openSession h with
        | (true, s) => (some h, s)
        | (false, s) => (none, s) := by
  unfold accept connect
  cases s.service.current with
  | none => rfl
  | some run =>
      cases run with
      | sender group pool => rfl
      | listener number address =>
          simp only [openSession]
          split <;> rfl

/-- A call on a server or on one of its sessions. -/
inductive Call where
  /-- Start the server; some operations may be refused. -/
  | start (refuses : Refusals) (address : String) (port : UInt16) (threads : Nat)
  /-- Stop the server. -/
  | stop
  /-- Broadcast some bytes. -/
  | broadcast (data : Bytes)
  /-- A connection reaches the server. -/
  | connect (remote : SocketAddress)
  /-- A session registers and opens. -/
  | openSession (h : Handle)
  /-- A session ends whose connection is over. -/
  | endSession (h : Handle)

/-- What a call answers. -/
inductive Answer where
  /-- What a start comes to. -/
  | started (result : Except EngineError Unit)
  /-- Nothing. -/
  | done
  /-- The datagrams that leave. -/
  | sent (datagrams : List Datagram)
  /-- The session made for a connection, if one is. -/
  | made (h : Option Handle)
  /-- Whether a session has opened. -/
  | opened (yes : Bool)

/-- Make a call. -/
def perform (s : Server) : Call → Answer × Server
  | .start refuses address port threads =>
    let (result, s) := s.startWith (s.bringUp refuses address port threads)
    (.started result, s)
  | .stop => (.done, s.stop)
  | .broadcast data => let (datagrams, s) := s.broadcast data; (.sent datagrams, s)
  | .connect remote => let (h, s) := s.connect remote; (.made h, s)
  | .openSession h => let (yes, s) := s.openSession h; (.opened yes, s)
  | .endSession h => (.done, s.endSession h)

/-- Make calls one after the other: their answers, in order, and the server afterwards. -/
def performAll (s : Server) : List Call → List Answer × Server
  | [] => ([], s)
  | call :: rest =>
    let (answer, s) := s.perform call
    let (answers, s) := s.performAll rest
    (answer :: answers, s)

end Server

end Lifecast
