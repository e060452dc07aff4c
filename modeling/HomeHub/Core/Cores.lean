import HomeHub.Core.Handshake

/-!
Two cores of which the primary one acts by single calls. The secondary core answers at once, as far
as it answers at all: a stuck core never reaches its checkpoint, and no core answers within a
timeout of zero.

The calls need not keep the order of an episode. In particular a pause of a core that is parked
already overwrites the state that keeps it parked: the core goes on, and the pause fails.
-/

namespace HomeHub

structure Cores where
  link : CoreLink
  secondary : Handshake.Secondary
  stuck : Bool
  deriving DecidableEq, Repr

namespace Cores

def new : Cores := ⟨CoreLink.new, .absent, false⟩

/-- Lets the secondary core answer the state of the link. -/
def answer (c : Cores) : Cores :=
  match c.secondary with
  | .absent => c
  | .working =>
    if c.link.mustPark && !c.stuck then { c with link := c.link.park, secondary := .parked } else c
  | .parked =>
    if c.link.mustStay then c else { c with link := c.link.leave, secondary := .working }

/-- What happens during a wait. -/
def wait (c : Cores) (timeout : Nat) : Cores := if timeout = 0 then c else c.answer

/-- Starts a secondary core. If there is one already it ends when the new one has been attached, and
its end detaches the new one too: that core works, but the link asks nothing of it. -/
def spawn (c : Cores) (stuck : Bool) : Cores :=
  let link := c.link.attach
  ⟨if c.secondary = .absent then link else link.detach, .working, stuck⟩

/-- Frees a stuck core. -/
def unstick (c : Cores) : Cores := { c with stuck := false }.answer

/-- Ends the secondary core. -/
def stop (c : Cores) : Cores := ⟨c.link.detach, .absent, false⟩

/-- Whether the loop of the secondary core advances. -/
def isPolling (c : Cores) : Bool := c.secondary == .working && !c.stuck

/-- Tries to park the secondary core; tells whether it stands still. -/
def pause (c : Cores) (timeout : Nat) : Bool × Cores :=
  let c := { c with link := c.link.requestPause }.wait timeout
  let (halted, link) := c.link.concludePause
  (halted, { c with link }.answer)

/-- Asks the secondary core to go on; tells whether it has acknowledged. -/
def resume (c : Cores) (timeout : Nat) : Bool × Cores :=
  let c := { c with link := c.link.requestResume }.wait timeout
  (c.link.isResumed, c.answer)

/-- Repeats the resumption until it is acknowledged; gives the number of attempts. A core that was
parked has gone on when the first attempt has ended, so there are at most two. -/
def resumeFully (c : Cores) (timeout : Nat) : Nat × Cores :=
  match c.resume timeout with
  | (true, c) => (1, c)
  | (false, c) => (2, (c.resume timeout).2)

/-- The checkpoint, when the primary core itself calls it: it would park only in the midst of a
pause, and there is none. -/
def checkpoint (c : Cores) : Bool := c.link.mustPark

end Cores

end HomeHub
