import HomeHub.Session.Session

/-!
The registry of clients: a fixed number of slots for sessions, at most one session for an identity.
A newcomer takes the lowest free slot and the next session number. Operations that end sessions
also give the links that they release.
-/

namespace HomeHub

namespace Registry

structure Config where
  maxClients : Nat
  /-- The capacity of an accumulator, and the longest frame that is sent. -/
  bufferCapacity : Nat
  /-- The gap in milliseconds that an unfinished frame survives. -/
  staleAfter : Nat
  deriving DecidableEq, Repr

def defaultConfig : Config := ⟨4, 2048, Accumulator.defaultStaleAfter⟩

end Registry

structure Registry where
  slots : List (Option Session)
  config : Registry.Config
  nextId : Nat
  deriving DecidableEq, Repr

/-- The outcome of a successful admission. -/
inductive Admission
  /-- A new session took the slot. -/
  | admitted (slot id : Nat)
  /-- The identity holds the slot already, and keeps its session. -/
  | alreadyConnected (slot id : Nat)
  deriving DecidableEq, Repr

/-- Every slot is taken. -/
inductive AdmissionFault
  | registryFull
  deriving DecidableEq, Repr

def AdmissionFault.message : AdmissionFault → String
  | .registryFull => "No free client slot"

namespace Registry

def new (config : Config) : Registry := ⟨List.replicate config.maxClients none, config, 1⟩

/-- The sessions in slot order. -/
def sessions (r : Registry) : List Session := r.slots.filterMap id

def identities (r : Registry) : List String := r.sessions.map (·.identity)

def size (r : Registry) : Nat := r.sessions.length

def capacity (r : Registry) : Nat := r.slots.length

def isEmpty (r : Registry) : Bool := r.size == 0

def isFull (r : Registry) : Bool := r.size == r.capacity

def holds (identity : String) (slot : Option Session) : Bool :=
  slot.any fun s => s.identity == identity

/-- The slot of an identity. -/
def position (r : Registry) (identity : String) : Option Nat := r.slots.findIdx? (holds identity)

def contains (r : Registry) (identity : String) : Bool := (r.position identity).isSome

def lookup (r : Registry) (identity : String) : Option Session :=
  r.sessions.find? fun s => s.identity == identity

/-- The session of an identity if it is still the one with this number. -/
def lookupSession (r : Registry) (identity : String) (id : Nat) : Option Session :=
  (r.lookup identity).filter fun s => s.id == id

/-- Changes the session of an identity. -/
def modify (r : Registry) (identity : String) (change : Session → Session) : Registry :=
  let changeOwn (s : Session) : Session := if s.identity = identity then change s else s
  { r with slots := r.slots.map (Option.map changeOwn) }

/-- Admits a connection. The link goes into the new session, or comes back released. -/
def enroll (r : Registry) (identity : String) (link : Option Link) (now : Time) :
    Except AdmissionFault Admission × Registry × Option Link :=
  match r.position identity with
  | some slot =>
    let id := ((r.lookup identity).map (·.id)).getD 0
    (.ok (.alreadyConnected slot id), r, link.map Link.refuse)
  | none =>
    match r.slots.findIdx? Option.isNone with
    | none => (.error .registryFull, r, link.map Link.refuse)
    | some slot =>
      let session :=
        Session.new identity r.nextId r.config.bufferCapacity r.config.staleAfter link now
      (.ok (.admitted slot r.nextId),
        { r with slots := r.slots.set slot (some session), nextId := r.nextId + 1 }, none)

/-- Ends the sessions that satisfy a condition; gives them in slot order. -/
def remove (r : Registry) (condition : Session → Bool) : List Session × Registry :=
  (r.sessions.filter condition,
    { r with slots := r.slots.map (Option.filter fun s => !condition s) })

/-- The links that ended sessions release. -/
def releasedLinks (ended : List Session) : List Link := ended.filterMap Session.released

/-- Ends the session of an identity, if there is one. -/
def evict (r : Registry) (identity : String) : List Session × Registry :=
  r.remove fun s => s.identity == identity

/-- Ends the session of an identity only if it is still the one with this number. -/
def evictSession (r : Registry) (identity : String) (id : Nat) : List Session × Registry :=
  r.remove fun s => s.identity == identity && s.id == id

/-- Ends the sessions that have been idle for longer than the timeout. -/
def reap (r : Registry) (now : Time) (timeout : Nat) : List Session × Registry :=
  r.remove fun s => s.isIdle now timeout

def closeAll (r : Registry) : List Session × Registry := r.remove fun _ => true

/-- Queues a frame for an identity; none if it has no session. -/
def send (r : Registry) (identity : String) (frame : Bytes) :
    Option (Except SendFault Unit) × Registry :=
  match r.lookup identity with
  | none => (none, r)
  | some s =>
    let (result, s) := s.send frame
    (some result, r.modify identity fun _ => s)

end Registry

end HomeHub
