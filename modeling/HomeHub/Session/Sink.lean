import HomeHub.Session.Writer

/-!
A sink for trying writers out: it keeps what it was asked, takes a limited number of bytes at a
time, can be blocked, and can fail after a number of writes.
-/

namespace HomeHub

structure Sink where
  blocked : Bool
  /-- The number of writes after which the next one fails. -/
  failAfter : Option Nat
  /-- The most bytes taken at a time. -/
  chunk : Option Nat
  /-- Writes taken so far. -/
  accepted : Nat
  /-- The calls since the log was last read. -/
  log : List Writer.Call
  deriving DecidableEq, Repr

namespace Sink

def new (blocked : Bool) (failAfter chunk : Option Nat) : Sink := ⟨blocked, failAfter, chunk, 0, []⟩

/-- The sink of a peer that takes everything. -/
def eager : Sink := new false none none

def fails (s : Sink) : Bool :=
  match s.failAfter with
  | some k => k ≤ s.accepted
  | none => false

/-- How many of the offered bytes are taken. -/
def portion (s : Sink) (offered : Nat) : Nat :=
  match s.chunk with
  | some n => min n offered
  | none => offered

/-- What happens next to a writer on this sink; none if it waits. -/
def next? (s : Sink) (w : Writer) : Option Writer.Event :=
  match w.stage with
  | .idle => if w.queue.isEmpty && w.held then none else some .take
  | .writing [] _ => some .next
  | .writing rest _ =>
    if s.blocked then none
    else if s.fails then some .fail
    else some (.accept (s.portion rest.length))
  | .flushing => some .flushed
  | .closing => some .shutdown
  | .done => none
  | .failed => none

/-- Keeps the calls of a step. -/
def note (s : Sink) (calls : List Writer.Call) : Sink :=
  let writes := calls.countP fun c => match c with
    | .write _ => true
    | _ => false
  { s with accepted := s.accepted + writes, log := s.log ++ calls }

/-- Lets the writer go on until it waits. -/
def run : (fuel : Nat) → Writer → Sink → Writer × Sink
  | 0, w, s => (w, s)
  | fuel + 1, w, s =>
    match s.next? w with
    | none => (w, s)
    | some e => let (w, calls) := w.step e; run fuel w (s.note calls)

end Sink

end HomeHub
