import HomeHub.Core.Link

/-!
The two cores on one link. The secondary core loops over its checkpoint and a poll of the service;
the primary core pauses and resumes it, and repeats a resumption until it is acknowledged. Every
step is one section of the link or happens outside it, and any list of steps is an interleaving.

A step that is not possible changes nothing; `Handshake.possible` says which ones are.
-/

namespace HomeHub

namespace Handshake

/-- Where the primary core stands. -/
inductive Primary
  /-- Outside any pause. -/
  | outside
  /-- Waits for the secondary core to park. -/
  | pausing
  /-- A pause has succeeded; the next step is a resumption. -/
  | halted
  /-- Waits for the secondary core to go on. -/
  | resuming
  deriving DecidableEq, Repr

/-- Where the secondary core stands. -/
inductive Secondary
  | absent
  /-- Between two checkpoints. -/
  | working
  /-- Parked in its checkpoint. -/
  | parked
  deriving DecidableEq, Repr

inductive Step
  /-- The primary core requests a pause. -/
  | requestPause
  /-- Its wait ends, by a signal or by the timeout. -/
  | concludePause
  | requestResume
  | concludeResume
  | attach
  /-- The secondary core reaches its checkpoint. -/
  | checkpoint
  /-- It leaves the checkpoint in which it was parked. -/
  | leave
  /-- It polls the service. -/
  | poll
  | detach
  deriving DecidableEq, Repr

end Handshake

structure Handshake where
  link : CoreLink
  primary : Handshake.Primary
  secondary : Handshake.Secondary
  deriving DecidableEq, Repr

namespace Handshake

/-- No secondary core, and no pause under way. -/
def new : Handshake := ⟨CoreLink.new, .outside, .absent⟩

/-- Which steps can be taken. -/
def possible (h : Handshake) : Step → Bool
  | .requestPause => h.primary == .outside
  | .concludePause => h.primary == .pausing
  | .requestResume => h.primary == .halted
  | .concludeResume => h.primary == .resuming
  | .attach => h.secondary == .absent
  | .checkpoint => h.secondary == .working
  | .leave => h.secondary == .parked && !h.link.mustStay
  | .poll => h.secondary == .working
  | .detach => h.secondary == .working

/-- What a possible step does. -/
def take (h : Handshake) : Step → Handshake
  | .requestPause => { h with link := h.link.requestPause, primary := .pausing }
  | .concludePause =>
    let (halted, link) := h.link.concludePause
    { h with link, primary := if halted then .halted else .outside }
  | .requestResume => { h with link := h.link.requestResume, primary := .resuming }
  | .concludeResume => { h with primary := if h.link.isResumed then .outside else .halted }
  | .attach => { h with link := h.link.attach, secondary := .working }
  | .checkpoint =>
    if h.link.mustPark then { h with link := h.link.park, secondary := .parked } else h
  | .leave => { h with link := h.link.leave, secondary := .working }
  | .poll => h
  | .detach => { h with link := h.link.detach, secondary := .absent }

def step (h : Handshake) (s : Step) : Handshake := if h.possible s then h.take s else h

def run (h : Handshake) (steps : List Step) : Handshake := steps.foldl step h

end Handshake

end HomeHub
