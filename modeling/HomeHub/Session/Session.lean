import HomeHub.Protocol.Accumulator
import HomeHub.Session.Link

/-!
The session of one client.
-/

namespace HomeHub

structure Session where
  /-- The remote address and port. -/
  identity : String
  /-- Tells a session from earlier ones of the same identity. -/
  id : Nat
  frames : Accumulator
  /-- The longest frame that may be sent. -/
  sendCapacity : Nat
  /-- Absent if the session has no transport. -/
  link : Option Link
  connectedAt : Time
  lastActivity : Time
  lastHeartbeat : Option Time
  deriving DecidableEq, Repr

namespace Session

def new (identity : String) (id capacity staleAfter : Nat) (link : Option Link) (now : Time) :
    Session :=
  ⟨identity, id, Accumulator.new capacity staleAfter, capacity, link, now, now, none⟩

/-- Notes a recognized message. -/
def touch (s : Session) (now : Time) : Session := { s with lastActivity := now }

/-- Notes a liveness probe. -/
def heartbeat (s : Session) (now : Time) : Session :=
  { s with lastActivity := now, lastHeartbeat := some now }

def isIdle (s : Session) (now : Time) (timeout : Nat) : Bool :=
  timeout < elapsed s.lastActivity now

/-- Queues a frame without waiting. -/
def send (s : Session) (frame : Bytes) : Except SendFault Unit × Session :=
  if s.sendCapacity < frame.length then (.error (.overflow frame.length s.sendCapacity), s)
  else
    match s.link with
    | none => (.error .closed, s)
    | some link =>
      let (result, writer) := link.writer.send frame
      (result, { s with link := some { link with writer } })

/-- Frames queued but not yet being written. -/
def queued (s : Session) : Nat := (s.link.map fun l => l.writer.queue.length).getD 0

/-- The link as the end of the session leaves it. -/
def released (s : Session) : Option Link := s.link.map Link.signal

end Session

end HomeHub
