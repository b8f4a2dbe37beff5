/-
How a connection is upgraded.

A client asks for the upgrade with a request that holds a random key, and a server that
agrees answers with the digest of that key and a fixed text.  Both are heads of lines:
a first line, then fields with a name and a value, then an empty line.
-/
import Lifecast.Net.Url
import Lifecast.Text.Utf8
import Lifecast.WebSocket.Base64
import Lifecast.WebSocket.Digest
import Lifecast.WebSocket.Status

namespace Lifecast

/-- A request or a reply without its body. -/
structure Head where
  /-- The words of the first line. -/
  first : List String
  /-- The fields, with their names in lower case. -/
  fields : List (String × String)
deriving DecidableEq, Repr

namespace Head

/-- Split bytes behind the first empty line; `none` if there is none yet. -/
def split? : (seen : Bytes) → Bytes → Option (Bytes × Bytes)
  | seen, 13 :: 10 :: 13 :: 10 :: rest => some (seen.reverse, rest)
  | seen, b :: rest => split? (b :: seen) rest
  | _, [] => none

/-- A field of a line. -/
def field? (line : List Char) : Option (String × String) :=
  match line.dropWhile (· != ':') with
  | ':' :: value =>
    some (String.ofList ((line.takeWhile (· != ':')).map Char.toLower),
      String.ofList (Text.trim value))
  | _ => none

/-- The head that some lines are. -/
def ofBytes? (bytes : Bytes) : Option Head :=
  match (Text.decode bytes).toList.splitOn '\n' with
  | [] => none
  | first :: lines => do
    let words := ((Text.trim first).splitOn ' ').filter (!·.isEmpty)
    let fields ← lines.mapM field?
    return { first := words.map String.ofList, fields }

/-- The value of a field, if it is given. -/
def get? (h : Head) (name : String) : Option String :=
  h.fields.lookup name

/-- A text in lower case, as far as it has letters of either case in ASCII. -/
def lowered (s : String) : String :=
  String.ofList (s.toList.map Char.toLower)

/-- Does a field have a value, letters of either case? -/
def holds (h : Head) (name value : String) : Bool :=
  (h.get? name).any fun v => lowered v == value

/-- Does a word occur in a text? -/
def occurs (word : List Char) : List Char → Bool
  | [] => word.isEmpty
  | c :: rest => word.isPrefixOf (c :: rest) || occurs word rest

/-- Does a word occur in the value of a field, letters of either case? -/
def mentions (h : Head) (name word : String) : Bool :=
  (h.get? name).any fun v => occurs word.toList (lowered v).toList

/-- The head as it travels. -/
def encode (h : Head) : Bytes :=
  let lines := String.intercalate " " h.first :: h.fields.map fun (name, value) => s!"{name}: {value}"
  Text.encode (String.join (lines.map (· ++ "\r\n")) ++ "\r\n")

end Head

/-- Why a server does not upgrade a connection. -/
structure Refusal where
  /-- The status code of its reply. -/
  status : Nat
  /-- What the reply says. -/
  words : String
deriving DecidableEq, Repr

/-- Why a client takes a reply for no agreement. -/
inductive ReplyFault where
  /-- The reply has another status. -/
  | status (code : Nat)
  /-- The reply cannot be read. -/
  | unreadable
  /-- The reply is of a version that knows no upgrades. -/
  | oldVersion
  /-- The reply does not say what it is upgraded to. -/
  | noUpgrade
  /-- The reply does not say that it is an upgrade. -/
  | noConnection
  /-- The digest is not that of the key. -/
  | wrongDigest
  /-- The connection ends before the reply does. -/
  | unfinished
deriving DecidableEq, Repr

namespace ReplyFault

/-- The fault in words. -/
def message : ReplyFault → String
  | status code => s!"HTTP error: {Status.text code}"
  | unreadable => "WebSocket protocol error: httparse error: invalid HTTP version"
  | oldVersion => "WebSocket protocol error: HTTP version must be 1.1 or higher"
  | noUpgrade => "WebSocket protocol error: No \"Upgrade: websocket\" header in server reply"
  | noConnection => "WebSocket protocol error: No \"Connection: upgrade\" header in server reply"
  | wrongDigest => "WebSocket protocol error: Key mismatch in \"Sec-WebSocket-Accept\" header"
  | unfinished => "WebSocket protocol error: Handshake not finished"

end ReplyFault

namespace Upgrade

/-- What is put behind a key before the digest is taken. -/
def suffix : String := "258EAFA5-E914-47DA-95CA-C5AB0DC85B11"

/-- What a server answers to a key. -/
def answer (key : String) : String :=
  Base64.encode (Digest.ofMessage (Text.encode (key ++ suffix)))

/-- A key of random bytes. -/
def keyOf (random : Bytes) : String :=
  Base64.encode random

/-- The request for an upgrade. -/
def request (target : Endpoint) (key : String) : Head where
  first := ["GET", "/", "HTTP/1.1"]
  fields := [("Host", s!"{target.host}:{target.port}"), ("Connection", "Upgrade"),
    ("Upgrade", "websocket"), ("Sec-WebSocket-Version", "13"), ("Sec-WebSocket-Key", key)]

/-- The key of a request that asks for an upgrade in the right way, whatever its
path. -/
def keyOfRequest (h : Head) : Except Refusal String :=
  match h.first, h.get? "sec-websocket-key" with
  | [method, _, version], key =>
    if version != "HTTP/1.1" && version != "HTTP/1.0" then .error ⟨400, ""⟩
    else if method != "GET" then .error ⟨405, "Request method must be `GET`"⟩
    else if !h.mentions "connection" "upgrade" then
      .error ⟨400, "Connection header did not include 'upgrade'"⟩
    else if !h.holds "upgrade" "websocket" then
      .error ⟨400, "`Upgrade` header did not include 'websocket'"⟩
    else
      match key with
      | none => .error ⟨400, "`Sec-WebSocket-Key` header missing"⟩
      | some key =>
        if !h.holds "sec-websocket-version" "13" then
          .error ⟨400, "`Sec-WebSocket-Version` header did not include '13'"⟩
        else if version = "HTTP/1.0" then .error ⟨426, "WebSocket request couldn't be upgraded"⟩
        else .ok key
  | _, _ => .error ⟨400, ""⟩

/-- The reply that agrees to an upgrade. -/
def agreement (key : String) : Head where
  first := ["HTTP/1.1", Status.text 101]
  fields := [("connection", "upgrade"), ("upgrade", "websocket"),
    ("sec-websocket-accept", answer key)]

/-- A reply with a status and some words. -/
def reply (r : Refusal) : Bytes :=
  let head : Head :=
    { first := ["HTTP/1.1", Status.text r.status]
      fields := [("content-type", "text/plain; charset=utf-8"),
        ("content-length", toString (Text.encode r.words).length)] }
  head.encode ++ Text.encode r.words

/-- Check that a reply agrees to the upgrade that was asked for with a key. -/
def checkReply (key : String) (h : Head) : Except ReplyFault Unit :=
  match h.first with
  | version :: status :: _ =>
    if version = "HTTP/1.0" then .error .oldVersion
    else if version ≠ "HTTP/1.1" then .error .unreadable
    else
      match status.toNat? with
      | none => .error .unreadable
      | some code =>
        if code ≠ 101 then .error (.status code)
        else if !h.holds "upgrade" "websocket" then .error .noUpgrade
        else if !h.holds "connection" "upgrade" then .error .noConnection
        else if h.get? "sec-websocket-accept" ≠ some (answer key) then .error .wrongDigest
        else .ok ()
  | _ => .error .unreadable

end Upgrade

end Lifecast
