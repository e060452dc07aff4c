/-!
The interrupt mask of the primary core. Masking gives a token, and restoring takes one back; the
tokens count up from one.
-/

namespace HomeHub

structure Interrupts where
  /-- How often they were masked. -/
  masked : Nat
  /-- The sum of the tokens that came back. -/
  restored : Nat
  deriving DecidableEq, Repr

namespace Interrupts

def new : Interrupts := ⟨0, 0⟩

/-- Masks the interrupts; gives the token to restore them with. -/
def mask (i : Interrupts) : Nat × Interrupts := (i.masked + 1, { i with masked := i.masked + 1 })

def restore (i : Interrupts) (token : Nat) : Interrupts := { i with restored := i.restored + token }

end Interrupts

end HomeHub
