import Dfs.Message.Reply
import Dfs.Text.Utf8
import Dfs.Transport.Frame

/-!
Calls between hosts: the side that asks sends one request and waits for one reply,
and the side that answers takes request after request from a connection.
-/

namespace Dfs

/-- Answers requests, in a world with states `σ`. -/
abbrev Server (σ : Type) := Request → σ → Reply × σ

/-- Sends a request to an address and brings back the reply, in a world with states
`σ`. -/
abbrev Caller (σ : Type) := Address → Request → σ → Reply × σ

namespace Connection

/-! ### Answering -/

/-- The payload holds no request. -/
def malformed : Error := .invalidArgument "malformed request: no request can be read from it"

/-- The request in a payload. -/
def request? (payload : List UInt8) : Option Request := do
  Request.parse? (← Utf8.decode? payload)

/-- The reply to one payload. What is no request is answered too, and changes
nothing. -/
def answer {σ : Type} (server : Server σ) (payload : List UInt8) (s : σ) : Reply × σ :=
  match request? payload with
  | some r => server r s
  | none => (.error malformed, s)

/-- The payload that carries a reply, unless it is too large to be sent. -/
def replyPayload (reply : Reply) : Option (List UInt8) :=
  let payload := Utf8.encode reply.text
  if payload.length > Frame.maxLength then none else some payload

/-- Answers one payload after another. A reply that cannot be sent ends the
connection. -/
def serve {σ : Type} (server : Server σ) : List (List UInt8) → σ → List (List UInt8) × σ
  | [], s => ([], s)
  | payload :: payloads, s =>
    let (reply, s) := answer server payload s
    match replyPayload reply with
    | none => ([], s)
    | some sent =>
      let (replies, s) := serve server payloads s
      (sent :: replies, s)

/-- The payloads of the frames in a stream, up to the first thing that is no whole
frame. Each step of the fuel takes at least the four bytes of a header. -/
def payloadsWith : Nat → List UInt8 → List (List UInt8)
  | 0, _ => []
  | fuel + 1, stream =>
    match Frame.front stream with
    | .frame payload rest => payload :: payloadsWith fuel rest
    | _ => []

def payloads (stream : List UInt8) : List (List UInt8) := payloadsWith stream.length stream

/-- What the answering side writes for what it reads. -/
def serveStream {σ : Type} (server : Server σ) (stream : List UInt8) (s : σ) : List UInt8 × σ :=
  let (replies, s) := serve server (payloads stream) s
  (replies.flatMap Frame.encode, s)

/-! ### Asking -/

/-- What the asking side writes for a request. -/
def send (target : Address) (r : Request) : Except Error (List UInt8) :=
  let payload := Utf8.encode r.text
  if payload.length > Frame.maxLength then
    .error (.transport s!"send to {target}: frame size too big")
  else .ok (Frame.encode payload)

/-- The reply in a payload. -/
def replyIn (source : Address) (payload : List UInt8) : Reply :=
  match Reply.ofBytes? payload with
  | some reply => reply
  | none => .error (.transport s!"decode reply from {source}: no reply can be read from it")

/-- The reply in what the asking side reads. Bytes after the first frame are not
looked at. -/
def receive (source : Address) (stream : List UInt8) : Reply :=
  match Frame.front stream with
  | .closed => .error (.transport s!"{source} closed the connection")
  | .cut => .error (.transport s!"receive from {source}: bytes remaining on stream")
  | .tooBig => .error (.transport s!"receive from {source}: frame size too big")
  | .frame payload _ => replyIn source payload

/-- One call over a connection to a server. -/
def call {σ : Type} (server : Server σ) (target : Address) (r : Request) (s : σ) : Reply × σ :=
  match send target r with
  | .error e => (.error e, s)
  | .ok stream =>
    let (stream, s) := serveStream server stream s
    (receive target stream, s)

end Connection

end Dfs
