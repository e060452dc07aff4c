import HomeHub.Session.Sink

/-!
The transport of a session: its writer, the sink behind it, and the signal that stops its read
side. A link is released when its session ends or was never admitted; its writer then writes what
is queued and ends.
-/

namespace HomeHub

/-- The signal to the read side. -/
inductive CloseSignal
  | kept
  /-- The session was ended. -/
  | signalled
  /-- The link was released without a session. -/
  | dropped
  deriving DecidableEq, Repr

structure Link where
  /-- Tells links apart. -/
  number : Nat
  writer : Writer
  sink : Sink
  close : CloseSignal
  deriving DecidableEq, Repr

namespace Link

def new (number slots : Nat) (sink : Sink) : Link := ⟨number, Writer.new slots, sink, .kept⟩

/-- The link after its session has ended. -/
def signal (l : Link) : Link := { l with writer := l.writer.release, close := .signalled }

/-- The link after it has been refused a session. -/
def refuse (l : Link) : Link := { l with writer := l.writer.release, close := .dropped }

/-- Lets the writer go on until it waits. -/
def run (l : Link) : Link :=
  let (writer, sink) := Sink.run (l.writer.work + 1) l.writer l.sink
  { l with writer, sink }

/-- Forgets the calls that the sink has logged. -/
def clearLog (l : Link) : Link := { l with sink := { l.sink with log := [] } }

def setBlocked (l : Link) (blocked : Bool) : Link := { l with sink := { l.sink with blocked } }

end Link

end HomeHub
