import HomeHub.Clock
import HomeHub.Protocol.Frame

/-!
The receive accumulator of one client. Received bytes are buffered up to a fixed capacity, and
complete payloads are pulled out of the buffer one at a time.

* A span before a semicolon that is no length is discarded with its semicolon.
* The body of a frame that could never fit is skipped, exactly as many bytes as it declares.
* A full buffer without a semicolon at a header position is an overflow, and is discarded.
* After a gap longer than the staleness limit an unfinished frame is abandoned.
-/

namespace HomeHub

/-- What the next buffered bytes are. -/
inductive Phase
  | header
  /-- A frame whose header has been read but not yet removed. -/
  | body (headerLength bodyLength : Nat)
  /-- The body of a frame that could never fit. -/
  | skipping (remaining : Nat)
  deriving DecidableEq, Repr

/-- The order in which one pull visits the phases without using up buffered bytes. -/
def Phase.rank : Phase → Nat
  | .body _ _ => 0
  | .header => 1
  | .skipping _ => 2

/-- Why a byte stream cannot be framed. -/
inductive FrameFault
  | headerOverflow (capacity : Nat)
  deriving DecidableEq, Repr

def FrameFault.message : FrameFault → String
  | .headerOverflow capacity =>
    "accumulator full (" ++ Decimal.text capacity ++ " bytes) without a frame header"

/-- What a byte stream yields: payloads and faults. -/
abbrev Item := Except FrameFault Bytes

structure Accumulator where
  capacity : Nat
  /-- The longest gap between two receipts that an unfinished frame survives, in milliseconds. -/
  staleAfter : Nat
  buffer : Bytes
  phase : Phase
  lastReceipt : Option Time
  /-- Bytes dropped for lack of room. -/
  dropped : Nat
  /-- Spans discarded because they were no length. -/
  malformed : Nat
  deriving DecidableEq, Repr

namespace Accumulator

/-- The gap that an unfinished frame survives unless told otherwise. -/
def defaultStaleAfter : Nat := 1500

def new (capacity : Nat) (staleAfter : Nat) : Accumulator :=
  ⟨capacity, staleAfter, [], .header, none, 0, 0⟩

def reset (a : Accumulator) : Accumulator := { a with buffer := [], phase := .header }

def hasPartial (a : Accumulator) : Bool := !a.buffer.isEmpty || a.phase != .header

/-- Free room in the buffer. -/
def room (a : Accumulator) : Nat := a.capacity - a.buffer.length

/-- Abandons an unfinished frame if the gap since the previous receipt is too long. -/
def expire (a : Accumulator) (now : Time) : Accumulator :=
  match a.lastReceipt with
  | some last => if a.staleAfter < elapsed last now && a.hasPartial then a.reset else a
  | none => a

/-- The phase after `n` more bytes of a skipped body. -/
def skipped (remaining n : Nat) : Phase :=
  if remaining ≤ n then .header else .skipping (remaining - n)

/-- Drops the bytes of a skipped body at the start of the data; gives the rest. -/
def skim (a : Accumulator) (data : Bytes) : Accumulator × Bytes :=
  match a.phase with
  | .skipping remaining =>
    ({ a with phase := skipped remaining data.length }, data.drop remaining)
  | _ => (a, data)

/-- Buffers as much of the data as there is room for. -/
def append (a : Accumulator) (data : Bytes) : Accumulator :=
  { a with buffer := a.buffer ++ data.take a.room, dropped := a.dropped + (data.length - a.room) }

/-- Takes in received bytes. -/
def feed (a : Accumulator) (data : Bytes) (now : Time) : Accumulator :=
  let a := { a.expire now with lastReceipt := some now }
  let (a, data) := a.skim data
  a.append data

/-- Takes the next item out of the buffer; none if more bytes are needed. -/
def pull (a : Accumulator) : Option Item × Accumulator :=
  match hp : a.phase with
  | .header =>
    match hb : a.buffer.dropWhile (· != Frame.delimiter) with
    | [] =>
      if a.capacity ≤ a.buffer.length then (some (.error (.headerOverflow a.capacity)), a.reset)
      else (none, a)
    | _ :: rest =>
      have : rest.length < a.buffer.length := by
        have h := (List.dropWhile_suffix (l := a.buffer) (· != Frame.delimiter)).length_le
        simp only [hb, List.length_cons] at h
        omega
      let header := a.buffer.takeWhile (· != Frame.delimiter)
      match Frame.parseLength header with
      | none => pull { a with buffer := rest, malformed := a.malformed + 1 }
      | some n =>
        if a.capacity < header.length + 1 + n then
          pull { a with buffer := rest, phase := .skipping n }
        else pull { a with phase := .body (header.length + 1) n }
  | .body h n =>
    if a.buffer.length < h + n then (none, a)
    else
      (some (.ok ((a.buffer.drop h).take n)),
        { a with buffer := a.buffer.drop (h + n), phase := .header })
  | .skipping remaining =>
    if remaining ≤ a.buffer.length then
      pull { a with buffer := a.buffer.drop remaining, phase := .header }
    else (none, { a with buffer := [], phase := .skipping (remaining - a.buffer.length) })
termination_by 3 * a.buffer.length + a.phase.rank
decreasing_by
  all_goals simp +zetaDelta only [hp, Phase.rank, List.length_drop]
  all_goals omega

/-- Pulls at most `count` items. A fault ends the sequence. -/
def pulls : (count : Nat) → Accumulator → List Item × Accumulator
  | 0, a => ([], a)
  | count + 1, a =>
    match a.pull with
    | (none, a) => ([], a)
    | (some (.error f), a) => ([.error f], a)
    | (some (.ok payload), a) =>
      let (items, a) := pulls count a
      (.ok payload :: items, a)

/-- Pulls until more bytes are needed or a fault occurs; each payload uses up two bytes or more. -/
def drain (a : Accumulator) : List Item × Accumulator := a.pulls (a.buffer.length + 1)

/-- The length of the frame being received, once its header has been read. -/
def declaredLength (a : Accumulator) : Option Nat :=
  match a.phase with
  | .body h n => some (h + n)
  | _ => none

/-- The length of the header of the frame being received, once it has been read. -/
def headerLength (a : Accumulator) : Option Nat :=
  match a.phase with
  | .body h _ => some h
  | _ => none

end Accumulator

end HomeHub
