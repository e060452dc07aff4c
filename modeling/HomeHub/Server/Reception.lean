import HomeHub.Server.Basic

/-!
What a server does for one client: it admits the connection, takes in what was read, opens and
dispatches each payload, and queues the reply. A stream that cannot be framed ends its session.
-/

namespace HomeHub.Server

variable {σ δ : Type} [Service σ] [Flash δ]

/-- Admits a connection and starts its read task. A refused connection is closed. -/
def accept (s : Server σ δ) (identity : String) (sink : Sink) (now : Time) : Server σ δ :=
  let (result, connections) := s.connections.enroll identity (some ⟨s.channelSlots, sink⟩) now
  let s := { s with connections }
  match result with
  | .ok (.admitted _ id) =>
    let task := ReadTask.new identity id s.registry.config.bufferCapacity
    { s with tasks := s.tasks ++ [task] }
  | .ok (.alreadyConnected _ _) => s
  | .error _ => s

/-- Ends the session of a read task. -/
def endSession (s : Server σ δ) (t : ReadTask) : Server σ δ :=
  { s with connections := (s.connections.evictSession t.identity t.session).2 }.prune

/-- Queues a reply for whoever holds the identity now. A reply that cannot be queued is lost. -/
def reply (s : Server σ δ) (identity : String) (message : Outbound) : Server σ δ :=
  let (nonce, s) := s.freshNonce
  s.setRegistry (s.outbox.sendTo nonce s.registry identity message).2

/-- Opens a payload, dispatches it and replies. What does not open is dropped. -/
def handlePayload (s : Server σ δ) (t : ReadTask) (payload : Bytes) (now : Time) : Server σ δ :=
  match s.outbox.cipher.openSealed payload with
  | .error _ => s
  | .ok plain =>
    let d := s.dispatcher.dispatch s.service s.registry t.identity t.session plain now
    let s := { s with service := d.service, outlets := s.outlets.applyAll d.effects }
    let s := s.setRegistry d.registry
    match d.outcome with
    | .reply message => s.reply t.identity message
    | .dropped _ => s
    | .gone => s

/-- Handles what a read has brought, up to the first fault, which ends the session. -/
def handleItems (s : Server σ δ) (t : ReadTask) (now : Time) : List Item → Server σ δ
  | [] => s
  | .ok payload :: rest => handleItems (s.handlePayload t payload now) t now rest
  | .error _ :: _ => s.endSession t

/-- Replaces a read task. -/
def setTask (s : Server σ δ) (t : ReadTask) : Server σ δ :=
  { s with tasks := s.tasks.map fun u => if u.session = t.session then t else u }

/-- Takes in one read of a task. -/
def receive (s : Server σ δ) (t : ReadTask) (chunk : Bytes) (now : Time) : Server σ δ :=
  match t.receive s.registry.config.bufferCapacity s.registry chunk now with
  | none => s.prune
  | some r => ((s.setRegistry r.registry).setTask r.task).handleItems r.task now r.items

/-- The read task of an identity. -/
def task? (s : Server σ δ) (identity : String) : Option ReadTask :=
  s.tasks.find? fun t => t.identity == identity

/-- Whether the writer of a session has failed. -/
def writerFailed (session : Session) : Bool :=
  session.link.any fun l => l.writer.stage == .failed

/-- Ends the sessions whose writers have failed. -/
def dropFailed (s : Server σ δ) : Server σ δ :=
  let evict (c : Connections) (x : Session) : Connections := (c.evictSession x.identity x.id).2
  let failed := s.registry.sessions.filter writerFailed
  { s with connections := failed.foldl evict s.connections }.prune

/-- Lets every writer go on until it waits. -/
def runWriters (s : Server σ δ) : Server σ δ :=
  { s with connections := s.connections.run }.dropFailed

/-- Takes in all that waits for a task, read by read, with the writers running after each. -/
def receiveAll (identity : String) (now : Time) : (fuel : Nat) → Server σ δ → Bytes → Server σ δ
  | 0, s, _ => s
  | fuel + 1, s, pending =>
    match s.task? identity with
    | none => s
    | some t =>
      if pending.isEmpty then s
      else
        let s := (s.receive t (pending.take t.room) now).runWriters
        receiveAll identity now fuel s (pending.drop t.room)

/-- A client sends bytes. Each read takes one byte or more. -/
def deliver (s : Server σ δ) (identity : String) (data : Bytes) (now : Time) : Server σ δ :=
  receiveAll identity now data.length s data

/-- A client has closed its end. -/
def hangUp (s : Server σ δ) (identity : String) : Server σ δ :=
  match s.task? identity with
  | some t => (s.endSession t).runWriters
  | none => s

end HomeHub.Server
