import HomeHub.Cipher
import HomeHub.Protocol.Envelope
import HomeHub.Registry

/-!
The way out: a message becomes text, is sealed and framed, and is queued on the writer of a client
or of all clients. A client is looked up by identity at the moment of sending.
-/

namespace HomeHub

structure Outbox where
  cipher : Cipher

/-- What a message to all came to. -/
structure FanOut where
  delivered : Nat
  failed : Nat
  deriving DecidableEq, Repr

inductive OutboxFault
  | unknownClient (identity : String)
  | send (why : SendFault)
  deriving DecidableEq, Repr

def OutboxFault.message : OutboxFault → String
  | .unknownClient identity => "Unknown client: " ++ identity
  | .send why => why.message

namespace Outbox

/-- The frame of a message. -/
def prepare (o : Outbox) (nonce : Nonce) (message : Outbound) : Bytes :=
  Frame.encode (o.cipher.sealWith nonce message.bytes)

/-- Queues a message for one client. -/
def sendTo (o : Outbox) (nonce : Nonce) (r : Registry) (identity : String) (message : Outbound) :
    Except OutboxFault Unit × Registry :=
  match r.send identity (o.prepare nonce message) with
  | (none, r) => (.error (.unknownClient identity), r)
  | (some (.ok ()), r) => (.ok (), r)
  | (some (.error why), r) => (.error (.send why), r)

def isQueued (sent : Except SendFault Unit × Session) : Bool := sent.1.toBool

/-- Queues a frame on every session that can take it. -/
def fanOutFrame (r : Registry) (frame : Bytes) : FanOut × Registry :=
  let sent := r.sessions.map fun s => s.send frame
  (⟨sent.countP isQueued, sent.countP fun x => !isQueued x⟩,
    { r with slots := r.slots.map (Option.map fun s => (s.send frame).2) })

/-- Queues one and the same frame for every client. -/
def fanOut (o : Outbox) (nonce : Nonce) (r : Registry) (message : Outbound) : FanOut × Registry :=
  fanOutFrame r (o.prepare nonce message)

end Outbox

end HomeHub
