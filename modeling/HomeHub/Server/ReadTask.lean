import HomeHub.Registry

/-!
The read side of one session. It never reads more than the accumulator of the session can hold; the
rest stays with the network until the buffered frame is complete.
-/

namespace HomeHub

structure ReadTask where
  identity : String
  /-- The number of the session that it reads for. -/
  session : Nat
  /-- The most bytes that the next read may bring. -/
  room : Nat
  deriving DecidableEq, Repr

namespace ReadTask

/-- Before the first read the whole buffer is free. -/
def new (identity : String) (session limit : Nat) : ReadTask := ⟨identity, session, limit⟩

/-- The room for the next read: what the accumulator can hold, but at least one byte and at most
the limit. -/
def roomFor (limit : Nat) (a : Accumulator) : Nat := min (max a.room 1) limit

/-- What a read has brought. -/
structure Received where
  items : List Item
  task : ReadTask
  registry : Registry

/-- Takes in what was read: one section of the registry. None if the session has ended. -/
def receive (t : ReadTask) (limit : Nat) (r : Registry) (chunk : Bytes) (now : Time) :
    Option Received :=
  (r.lookupSession t.identity t.session).map fun s =>
    let (items, frames) := (s.frames.feed chunk now).drain
    ⟨items, { t with room := roomFor limit frames },
      r.modify t.identity fun s => { s with frames }⟩

end ReadTask

end HomeHub
