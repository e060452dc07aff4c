import HomeHub.Bytes
import HomeHub.Text.Decimal

/-!
The writer of one client: a bounded queue of frames, and a task that writes them to a sink one
after the other. The task flushes after a burst of at most eight frames or when the queue runs
empty, and shuts the sink down once the handle on the queue is gone and the queue is empty. After a
failure it is gone, and with it all that was queued.

The task is a state machine. What the sink does (how many bytes it takes, whether it fails) comes
in as events, so that any sink and any interleaving is a list of events.
-/

namespace HomeHub

/-- Why a frame was not queued. -/
inductive SendFault
  /-- The frame is longer than the session may send. -/
  | overflow (length capacity : Nat)
  | queueFull (slots : Nat)
  /-- The writer is gone. -/
  | closed
  deriving DecidableEq, Repr

def SendFault.message : SendFault → String
  | .overflow length capacity =>
    "Frame of " ++ Decimal.text length ++ " bytes exceeds send buffer capacity "
      ++ Decimal.text capacity
  | .queueFull slots => "Writer queue full (" ++ Decimal.text slots ++ " frames pending)"
  | .closed => "Connection closed"

namespace Writer

/-- The most frames between two flushes. -/
def maxBurst : Nat := 8

/-- Frames that may wait unless told otherwise. -/
def defaultSlots : Nat := 16

/-- Where the task stands. -/
inductive Stage
  /-- Waits for a frame. -/
  | idle
  /-- Has still to write `rest` of the `burst`-th frame since the last flush. -/
  | writing (rest : Bytes) (burst : Nat)
  | flushing
  /-- The queue is closed and empty; the sink is to be shut down. -/
  | closing
  | done
  | failed
  deriving DecidableEq, Repr

/-- What the task asks of its sink. -/
inductive Call
  /-- The bytes that one call handed over and the sink took. -/
  | write (bytes : Bytes)
  | flush
  | shutdown
  deriving DecidableEq, Repr

/-- One step of the task. -/
inductive Event
  /-- Takes a frame out of the queue, or finds the queue closed. -/
  | take
  /-- The sink takes some bytes of the frame. If it takes none it never will, which is a failure. -/
  | accept (count : Nat)
  /-- The frame is written: goes on to the next one or to the flush. -/
  | next
  | flushed
  /-- A write or a flush fails. -/
  | fail
  | shutdown
  deriving DecidableEq, Repr

end Writer

structure Writer where
  /-- How many frames may wait. -/
  slots : Nat
  queue : List Bytes
  /-- Whether the handle that queues frames is still held. -/
  held : Bool
  stage : Writer.Stage
  deriving DecidableEq, Repr

namespace Writer

def new (capacity : Nat) : Writer := ⟨max capacity 1, [], true, .idle⟩

def isGone (w : Writer) : Bool := w.stage == .done || w.stage == .failed

/-- Queues a frame without waiting. -/
def send (w : Writer) (frame : Bytes) : Except SendFault Unit × Writer :=
  if w.isGone then (.error .closed, w)
  else if w.slots ≤ w.queue.length then (.error (.queueFull w.slots), w)
  else (.ok (), { w with queue := w.queue ++ [frame] })

/-- Drops the handle. -/
def release (w : Writer) : Writer := { w with held := false }

/-- The task fails, and drops what is queued. -/
def fail (w : Writer) : Writer := { w with queue := [], stage := .failed }

/-- One step of the task and the call that it makes. An event that does not fit is ignored. -/
def step (w : Writer) : Event → Writer × List Call
  | .take =>
    match w.stage, w.queue with
    | .idle, frame :: queue => ({ w with queue, stage := .writing frame 1 }, [])
    | .idle, [] => if w.held then (w, []) else ({ w with stage := .closing }, [])
    | _, _ => (w, [])
  | .accept count =>
    match w.stage with
    | .writing rest burst =>
      if rest.isEmpty ∨ rest.length < count then (w, [])
      else if count = 0 then (w.fail, [.write []])
      else ({ w with stage := .writing (rest.drop count) burst }, [.write (rest.take count)])
    | _ => (w, [])
  | .next =>
    match w.stage, w.queue with
    | .writing [] burst, frame :: queue =>
      if burst < maxBurst then ({ w with queue, stage := .writing frame (burst + 1) }, [])
      else ({ w with stage := .flushing }, [])
    | .writing [] _, [] => ({ w with stage := .flushing }, [])
    | _, _ => (w, [])
  | .flushed =>
    match w.stage with
    | .flushing => ({ w with stage := .idle }, [.flush])
    | _ => (w, [])
  | .fail =>
    match w.stage with
    | .writing (_ :: _) _ => (w.fail, [])
    | .flushing => (w.fail, [])
    | _ => (w, [])
  | .shutdown =>
    match w.stage with
    | .closing => ({ w with stage := .done }, [.shutdown])
    | _ => (w, [])

/-- Bounds the steps that queued frames take. -/
def queueWork : List Bytes → Nat
  | [] => 0
  | frame :: rest => frame.length + 4 + queueWork rest

/-- Bounds the steps that a stage still takes, the queue apart. -/
def Stage.work : Stage → Nat
  | .idle => 2
  | .writing rest _ => rest.length + 4
  | .flushing => 3
  | .closing => 1
  | .done => 0
  | .failed => 0

/-- Bounds the steps that are left without further sends. -/
def work (w : Writer) : Nat := queueWork w.queue + w.stage.work

end Writer

end HomeHub
