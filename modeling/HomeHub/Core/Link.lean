/-!
The handshake between two cores. The primary core halts the secondary one around a change to the
flash: it requests a pause, waits for the secondary core to park at its checkpoint, and later
requests that it go on.

Each operation here is one section under the lock of the link. What happens between two sections,
and how long a wait lasts, is left to the caller, so that any interleaving is a sequence of
sections. A wait may end at any moment, with what it waits for or by its timeout; what it came to
is decided by the section that concludes it.
-/

namespace HomeHub

/-- The handshake as both cores see it. -/
inductive CoreState
  | running
  | pauseRequested
  | paused
  | resumeRequested
  deriving DecidableEq, Repr

structure CoreLink where
  state : CoreState
  /-- Whether there is a secondary core. -/
  attached : Bool
  deriving DecidableEq, Repr

namespace CoreLink

/-- A link without a secondary core. -/
def new : CoreLink := ⟨.running, false⟩

/-! ### The primary core -/

/-- Requests a pause. -/
def requestPause (l : CoreLink) : CoreLink :=
  if l.attached then { l with state := .pauseRequested } else l

/-- Whether a wait for the pause is over without its timeout. -/
def isHalted (l : CoreLink) : Bool := !l.attached || l.state == .paused

/-- Ends the wait for the pause. If the secondary core has not parked the request is withdrawn. -/
def concludePause (l : CoreLink) : Bool × CoreLink :=
  if l.isHalted then (true, l) else (false, { l with state := .running })

/-- Requests that the secondary core go on. -/
def requestResume (l : CoreLink) : CoreLink :=
  if !l.attached || l.state == .running then { l with state := .running }
  else { l with state := .resumeRequested }

/-- Whether a wait for the resumption is over without its timeout, and what it came to if it is
ended. -/
def isResumed (l : CoreLink) : Bool := !l.attached || l.state == .running

/-! ### The secondary core -/

/-- Whether the checkpoint parks. -/
def mustPark (l : CoreLink) : Bool := l.state == .pauseRequested

/-- Parks. -/
def park (l : CoreLink) : CoreLink := { l with state := .paused }

/-- Whether a parked core has to stay so. -/
def mustStay (l : CoreLink) : Bool := l.state == .paused

/-- Goes on after having been parked. -/
def leave (l : CoreLink) : CoreLink := { l with state := .running }

def attach (_ : CoreLink) : CoreLink := ⟨.running, true⟩

def detach (_ : CoreLink) : CoreLink := ⟨.running, false⟩

end CoreLink

end HomeHub
