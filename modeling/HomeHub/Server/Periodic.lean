import HomeHub.Server.Reception

/-!
What a server does from time to time: the control loop of the service, the relay of published
values, the writing of the record and the removal of idle clients; and the end of a server, which
closes all clients and saves the record.
-/

namespace HomeHub

namespace Store

variable {δ : Type} [Flash δ]

/-- Writes a dirty record at the given times of the clock, until it is written, a write fails or
the deadline has come. -/
def flush (deadline : Time) : List Time → Store → Board δ → Store × Board δ
  | [], s, b => (s, b)
  | now :: later, s, b =>
    if s.dirty && decide (now < deadline) then
      match b.tick s now with
      | (.failed _, s, b) => (s, b)
      | (_, s, b) => flush deadline later s b
    else (s, b)

end Store

namespace Server

/-- How long the last attempts to save the record go on, in milliseconds. -/
def flushTimeout : Nat := 5000

/-- The pause between two of them. -/
def flushPause : Nat := 50

variable {σ δ : Type} [Service σ] [Flash δ]

/-- A turn of the control loop, unless the secondary core stands still. -/
def turn (s : Server σ δ) (now : Time) : Server σ δ :=
  match s.service with
  | none => s
  | some service =>
    if s.board.cores.isPolling then
      let (effects, service) := Service.poll service s.sensor now
      { s with service := some service, outlets := s.outlets.applyAll effects }
    else s

/-- Publishes a value. -/
def publish (s : Server σ δ) (value : Json) : Server σ δ :=
  { s with outlets := s.outlets.apply (.publish value) }

/-- Sends the pending value to every client if it is due. -/
def relay (s : Server σ δ) (now : Time) : Server σ δ :=
  match s.outlets.slot with
  | none => s
  | some slot =>
    let (due, slot) := slot.takeDue now
    let s := { s with outlets := { s.outlets with slot := some slot } }
    match due with
    | none => s
    | some value =>
      let (nonce, s) := s.freshNonce
      s.setRegistry (s.outbox.fanOut nonce s.registry (.broadcast value)).2

/-- Writes the record if it is dirty and a write is due. -/
def persist (s : Server σ δ) (now : Time) : Server σ δ :=
  match s.outlets.store with
  | none => s
  | some store =>
    let (_, store, board) := s.board.tick store now
    { s with outlets := { s.outlets with store := some store }, board }

/-- Ends the sessions that have been idle for too long. -/
def reapIdle (s : Server σ δ) (now : Time) : Server σ δ :=
  { s with connections := (s.connections.reap now s.idleTimeout).2 }.prune

/-- One tick of the periodic driver. -/
def drive (s : Server σ δ) (now : Time) : Server σ δ :=
  (((s.relay now).persist now).reapIdle now).runWriters

/-- How many clients are connected. -/
def clientCount (s : Server σ δ) : Nat := s.registry.size

/-- Ends every session; also gives their number. -/
def closeAll (s : Server σ δ) : Nat × Server σ δ :=
  let (ended, connections) := s.connections.closeAll
  (ended.length, ({ s with connections }.prune).runWriters)

/-- The times at which the last attempts are made, the first one at once. -/
def flushTimes (now : Time) : List Time :=
  (List.range (flushTimeout / flushPause)).map fun i => now + (i * flushPause : Nat)

/-- Saves the record. -/
def flush (s : Server σ δ) (now : Time) : Server σ δ :=
  match s.outlets.store with
  | none => s
  | some store =>
    let (store, board) := Store.flush (now + flushTimeout) (flushTimes now) store s.board
    { s with outlets := { s.outlets with store := some store }, board }

/-- Ends the server: closes the clients, saves the record and stops the secondary core. -/
def shutDown (s : Server σ δ) (now : Time) : Server σ δ :=
  let s := s.closeAll.2.flush now
  { s with board := s.board.stopCore }

end Server

end HomeHub
