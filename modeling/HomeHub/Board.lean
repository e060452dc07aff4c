import HomeHub.Core.Cores
import HomeHub.Core.Interrupts
import HomeHub.Store

/-!
The hardware under a store: the two cores, the interrupt mask and the flash. A record is written
while the secondary core stands still and the interrupts are masked; both are undone whatever the
flash does.
-/

namespace HomeHub

structure Board (δ : Type) where
  cores : Cores
  interrupts : Interrupts
  flash : δ

namespace Board

variable {δ : Type} [Flash δ]

def new (flash : δ) : Board δ := ⟨Cores.new, Interrupts.new, flash⟩

/-- Starts the secondary core. -/
def spawnCore (b : Board δ) : Board δ := { b with cores := b.cores.spawn false }

/-- Ends the secondary core. -/
def stopCore (b : Board δ) : Board δ := { b with cores := b.cores.stop }

/-- Writes a record to the page at an offset, or nothing if the secondary core does not halt within
the timeout. -/
def write (timeout offset : Nat) (b : Board δ) (record : Record) : Store.WriteResult × Board δ :=
  match b.cores.pause timeout with
  | (false, cores) => (.notHalted, { b with cores })
  | (true, cores) =>
    let (token, masked) := b.interrupts.mask
    let (result, flash) := Store.flashRecord b.flash offset record
    let (_, cores) := cores.resumeFully timeout
    (result, ⟨cores, masked.restore token, flash⟩)

/-- A tick of a store on this board. -/
def tick (b : Board δ) (s : Store) (now : Time) : Store.Tick × Store × Board δ :=
  s.tick now (write s.config.lockoutTimeout s.config.offset) b

end Board

end HomeHub
