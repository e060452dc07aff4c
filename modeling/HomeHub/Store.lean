import HomeHub.Clock
import HomeHub.Store.Record

/-!
The durable store: one record in memory, mirrored to a page of flash. Updates only mark the store
dirty; a tick writes the record, at most once per interval.

A tick has three phases, between which others may run: it takes a snapshot of the record and clears
the mark, it writes the snapshot to flash with the secondary core halted, and it notes the outcome,
setting the mark again if nothing was written.
-/

namespace HomeHub

namespace Store

structure Config where
  /-- The least time between two write attempts, in milliseconds. -/
  writeInterval : Nat
  /-- How long to wait for the secondary core, in milliseconds. -/
  lockoutTimeout : Nat
  offset : Nat
  deriving DecidableEq, Repr

def defaultConfig : Config := ⟨1000, 2000, Flash.targetOffset⟩

/-- What the first phase of a tick decides. -/
inductive Begun
  /-- Nothing to write. -/
  | clean
  /-- The last attempt is too recent. -/
  | deferred
  /-- This record is to be written. -/
  | attempt (record : Record)

/-- How a write ended. -/
inductive WriteResult
  | written
  /-- The secondary core did not halt. -/
  | notHalted
  | failed (why : FlashFault)
  deriving DecidableEq, Repr

/-- What a tick came to. -/
inductive Tick
  | clean
  | deferred
  | written
  /-- Nothing was written, because the secondary core did not halt. -/
  | skipped
  | failed (why : FlashFault)
  deriving DecidableEq, Repr

end Store

structure Store where
  config : Store.Config
  record : Record
  dirty : Bool
  lastWrite : Option Time
  /-- Completed writes. -/
  writes : Nat

namespace Store

/-- The record on a page, empty if there is none. -/
def loaded (p : Page) : Record :=
  match Record.ofPage p with
  | .ok r => r
  | .error _ => Record.empty

variable {δ : Type} [Flash δ]

/-- Reads the page at an offset. -/
def readPage (device : δ) (offset : Nat) : Except FlashFault Page :=
  match Flash.read device offset Flash.pageSize with
  | .error why => .error why
  | .ok bytes =>
    match Flash.page? bytes with
    | some p => .ok p
    | none => .error (.outOfRange offset Flash.pageSize bytes.length)

/-- Opens a store on the record that the device holds. -/
def attach (device : δ) (config : Config) : Except FlashFault Store :=
  match readPage device config.offset with
  | .error why => .error why
  | .ok page => .ok ⟨config, loaded page, false, none, 0⟩

def update (s : Store) (record : Record) : Store := { s with record, dirty := true }

def requestWrite (s : Store) : Store := { s with dirty := true }

/-- Whether the last attempt is too recent. -/
def isLimited (s : Store) (now : Time) : Bool :=
  match s.lastWrite with
  | some last => elapsed last now < s.config.writeInterval
  | none => false

/-- The first phase of a tick. -/
def start (s : Store) (now : Time) : Begun × Store :=
  if !s.dirty then (.clean, s)
  else if s.isLimited now then (.deferred, s)
  else (.attempt s.record, { s with lastWrite := some now, dirty := false })

/-- Erases the sector and programs the record's page. If the program fails, the erase stands. -/
def flashRecord (device : δ) (offset : Nat) (record : Record) : WriteResult × δ :=
  match Flash.erase device offset with
  | .error why => (.failed why, device)
  | .ok device =>
    match Flash.program device offset record.toPage with
    | .error why => (.failed why, device)
    | .ok device => (.written, device)

/-- The last phase of a tick. -/
def finish (s : Store) : WriteResult → Tick × Store
  | .written => (.written, { s with writes := s.writes + 1 })
  | .notHalted => (.skipped, { s with dirty := true })
  | .failed why => (.failed why, { s with dirty := true })

/-- A whole tick, where `write` is the second phase and `ω` all that it changes. -/
def tick {ω : Type} (s : Store) (now : Time) (write : ω → Record → WriteResult × ω) (world : ω) :
    Tick × Store × ω :=
  match s.start now with
  | (.clean, s) => (.clean, s, world)
  | (.deferred, s) => (.deferred, s, world)
  | (.attempt record, s) =>
    let (result, world) := write world record
    let (outcome, s) := s.finish result
    (outcome, s, world)

end Store

end HomeHub
