import HomeHub.Server.Periodic

/-!
A server with its clients on one host, where every step is followed by letting everything settle:
what was sent is read, what is due is done, and the clients receive what was written for them. The
loopback interface of the host may be down, and then no client can connect.
-/

namespace HomeHub

/-- Why a client could not connect. -/
inductive ConnectFault
  /-- The loopback interface is down. -/
  | unreachable
  deriving DecidableEq, Repr

def ConnectFault.message : ConnectFault → String
  | .unreachable => "Network is unreachable (os error 101)"

namespace Loopback

/-- The client's end of a connection. -/
structure Client where
  name : String
  /-- The number of the link at the server. -/
  link : Nat
  identity : String
  frames : Accumulator
  /-- Whether the server has closed the connection. -/
  closed : Bool

/-- What a client has learned since the last step. -/
structure News where
  name : String
  /-- The payloads received, as they came. -/
  payloads : List Bytes
  /-- Set if the server has just closed the connection. -/
  closed : Option String

/-- How long a step takes until everything has settled, in milliseconds. -/
def settleTime : Nat := 30

/-- A client's accumulator: it holds more than it ever has to, and waits for longer. -/
def clientFrames : Accumulator := Accumulator.new (Nat.pow 2 30) (Nat.pow 2 60)

/-- The identity of the `n`-th connection, counted from zero. -/
def identityOf (n : Nat) : String := "127.0.0.1:" ++ Decimal.text (10001 + n)

end Loopback

structure Loopback (σ δ : Type) where
  server : Server σ δ
  /-- Whether the loopback interface is up. -/
  up : Bool
  clients : List Loopback.Client
  now : Time

namespace Loopback

variable {σ δ : Type} [Service σ] [Flash δ]

def new (server : Server σ δ) (up : Bool) : Loopback σ δ := ⟨server, up, [], 0⟩

/-- What a link has written since its log was read. -/
def written (l : Link) : Bytes :=
  l.sink.log.flatMap fun c => match c with
    | .write bytes => bytes
    | _ => []

/-- The payload of an item, if it is one. -/
def payload? : Item → Option Bytes
  | .ok payload => some payload
  | .error _ => none

/-- A client reads what its link has written. -/
def Client.read (c : Client) (links : List Link) (now : Time) : News × Client :=
  match links.find? fun l => l.number == c.link with
  | none => (⟨c.name, [], none⟩, c)
  | some l =>
    let (items, frames) := (c.frames.feed (written l) now).drain
    let closed := l.writer.isGone
    (⟨c.name, items.filterMap payload?, if closed && !c.closed then some c.identity else none⟩,
      { c with frames, closed })

/-- Lets every client read; gives what they have learned. -/
def collect (w : Loopback σ δ) : List News × Loopback σ δ :=
  let links := w.server.connections.links
  let read := w.clients.map fun c => c.read links w.now
  (read.map (·.1),
    { w with
      clients := read.map (·.2)
      server := { w.server with connections := w.server.connections.clearLogs } })

/-- Lets everything settle. -/
def settle (w : Loopback σ δ) : List News × Loopback σ δ :=
  let w := { w with server := (w.server.turn w.now).drive w.now }
  { w with now := w.now + settleTime }.collect

def client? (w : Loopback σ δ) (name : String) : Option Client :=
  w.clients.find? fun c => c.name == name

/-- Closes a client's end and forgets it. -/
def hangUp (w : Loopback σ δ) (name : String) : Loopback σ δ :=
  match w.client? name with
  | none => w
  | some c =>
    { w with
      server := w.server.hangUp c.identity
      clients := w.clients.filter fun c => c.name != name }

/-- Connects a client. -/
def connect (w : Loopback σ δ) (name : String) : Except ConnectFault (Loopback σ δ) :=
  if w.up then
    let w := w.hangUp name
    let number := w.server.connections.made
    let identity := identityOf number
    let client : Client := ⟨name, number, identity, clientFrames, false⟩
    .ok { w with
      server := (w.server.accept identity Sink.eager w.now).runWriters
      clients := w.clients ++ [client] }
  else .error .unreachable

/-- A client sends bytes. -/
def send (w : Loopback σ δ) (c : Client) (data : Bytes) : Loopback σ δ :=
  { w with server := w.server.deliver c.identity data w.now }

def publish (w : Loopback σ δ) (value : Json) : Loopback σ δ :=
  { w with server := w.server.publish value }

/-- Lets time pass. -/
def wait (w : Loopback σ δ) (duration : Nat) : Loopback σ δ := { w with now := w.now + duration }

/-- Ends the server. -/
def shutDown (w : Loopback σ δ) : List News × Loopback σ δ :=
  { w with server := w.server.shutDown w.now }.collect

end Loopback

end HomeHub
