import HomeHub.Clock
import HomeHub.Json.Basic

/-!
The relay of the latest value from the service to all clients: one slot, which a new value
overwrites, and from which at most one value is taken per interval.
-/

namespace HomeHub

structure BroadcastSlot where
  /-- The least time between two deliveries, in milliseconds. -/
  interval : Nat
  pending : Option Json
  lastSent : Option Time
  published : Nat
  delivered : Nat

namespace BroadcastSlot

def defaultInterval : Nat := 1000

def new (interval : Nat) : BroadcastSlot := ⟨interval, none, none, 0, 0⟩

/-- Puts in a value; tells whether it overwrote one. -/
def publish (b : BroadcastSlot) (value : Json) : Bool × BroadcastSlot :=
  (b.pending.isSome, { b with pending := some value, published := b.published + 1 })

/-- Whether the last delivery is too recent. -/
def isLimited (b : BroadcastSlot) (now : Time) : Bool :=
  match b.lastSent with
  | some last => elapsed last now < b.interval
  | none => false

/-- Takes the pending value if a delivery is due. -/
def takeDue (b : BroadcastSlot) (now : Time) : Option Json × BroadcastSlot :=
  match b.pending with
  | none => (none, b)
  | some value =>
    if b.isLimited now then (none, b)
    else
      (some value,
        { b with pending := none, lastSent := some now, delivered := b.delivered + 1 })

end BroadcastSlot

end HomeHub
