import Mathlib.Tactic.Lemma
import HomeHub.Core.Cores

/-!
What holds of the handshake at every moment, if the secondary core is attached once and then only
ends. Where the two cores stand determines the state of the link, but for a parked core after a
resumption that has not been acknowledged in time.
-/

namespace HomeHub.Handshake

/-- The steps of the secondary core once it is attached. -/
def Step.isSecondary : Step → Bool
  | .checkpoint | .leave | .poll | .detach => true
  | _ => false

/-- The link as it is where the cores stand. -/
inductive Coherent : Handshake → Prop
  | idle : Coherent ⟨⟨.running, true⟩, .outside, .working⟩
  | requested : Coherent ⟨⟨.pauseRequested, true⟩, .pausing, .working⟩
  | parked : Coherent ⟨⟨.paused, true⟩, .pausing, .parked⟩
  | halted : Coherent ⟨⟨.paused, true⟩, .halted, .parked⟩
  | resuming : Coherent ⟨⟨.resumeRequested, true⟩, .resuming, .parked⟩
  | resumed : Coherent ⟨⟨.running, true⟩, .resuming, .working⟩
  /-- A resumption has timed out. -/
  | late : Coherent ⟨⟨.resumeRequested, true⟩, .halted, .parked⟩
  /-- It was acknowledged after all. -/
  | lateResumed : Coherent ⟨⟨.running, true⟩, .halted, .working⟩
  | absent (p : Primary) : Coherent ⟨⟨.running, false⟩, p, .absent⟩

/-- The secondary core stands still: it is parked, or has ended. -/
def Still (h : Handshake) : Prop :=
  (h.secondary = .parked ∧ h.link = ⟨.paused, true⟩) ∨
  (h.secondary = .absent ∧ h.link.attached = false)

lemma coherent_start : Coherent (new.take .attach) := .idle

variable {h : Handshake} {c : Step}

/-- No step but an attachment disturbs the order. -/
theorem coherent_take (hi : Coherent h) (hp : h.possible c = true) (hc : c ≠ .attach) :
    Coherent (h.take c) := by
  cases hi <;> cases c <;>
    first
    | exact absurd rfl hc
    | (cases hp; done)
    | exact .idle
    | exact .requested
    | exact .parked
    | exact .halted
    | exact .resuming
    | exact .resumed
    | exact .late
    | exact .lateResumed
    | exact .absent _

lemma coherent_requestPause (hi : Coherent h) (hp : h.primary = .outside) :
    Coherent (h.take .requestPause) :=
  coherent_take hi (by simp [possible, hp]) (by simp)

lemma coherent_concludePause (hi : Coherent h) (hp : h.primary = .pausing) :
    Coherent (h.take .concludePause) :=
  coherent_take hi (by simp [possible, hp]) (by simp)

lemma coherent_requestResume (hi : Coherent h) (hp : h.primary = .halted) :
    Coherent (h.take .requestResume) :=
  coherent_take hi (by simp [possible, hp]) (by simp)

lemma coherent_concludeResume (hi : Coherent h) (hp : h.primary = .resuming) :
    Coherent (h.take .concludeResume) :=
  coherent_take hi (by simp [possible, hp]) (by simp)

lemma primary_take (hc : c.isSecondary = true) : (h.take c).primary = h.primary := by
  cases c with
  | checkpoint =>
    rw [take]
    split <;> rfl
  | leave | poll | detach => rfl
  | _ => cases hc

lemma primary_concludePause : (h.take .concludePause).primary = .halted ∨
    (h.take .concludePause).primary = .outside := by
  simp only [take]
  split <;> simp

lemma primary_concludeResume : (h.take .concludeResume).primary = .outside ∨
    (h.take .concludeResume).primary = .halted := by
  simp only [take]
  split <;> simp

lemma state_of_outside (hi : Coherent h) (ho : h.primary = .outside) :
    h.link.state = .running := by
  cases hi <;> first | rfl | cases ho

lemma still_of_concludePause (hi : Coherent h) (hp : h.primary = .pausing)
    (hh : (h.take .concludePause).primary = .halted) : Still (h.take .concludePause) := by
  cases hi with
  | requested => cases hh
  | parked => exact Or.inl ⟨rfl, rfl⟩
  | absent p => exact Or.inr ⟨rfl, rfl⟩
  | _ => cases hp

lemma not_possible_of_still (hs : Still h) (hc : c.isSecondary = true) :
    h.possible c = false := by
  rcases hs with ⟨hsec, hlink⟩ | ⟨hsec, -⟩
  · cases c with
    | leave => simp [possible, hlink, CoreLink.mustStay]
    | checkpoint | poll | detach => simp [possible, hsec]
    | _ => cases hc
  · cases c with
    | leave | checkpoint | poll | detach => simp [possible, hsec]
    | _ => cases hc

end HomeHub.Handshake

/-! ### Calls of the primary core -/

namespace HomeHub.Cores

variable {timeout : Nat} {stuck : Bool}

lemma pause_unanswered (h : timeout = 0 ∨ stuck = true) :
    pause ⟨⟨.running, true⟩, .working, stuck⟩ timeout =
      (false, ⟨⟨.running, true⟩, .working, stuck⟩) := by
  rcases h with rfl | rfl <;>
    simp [pause, wait, answer, CoreLink.requestPause, CoreLink.concludePause, CoreLink.isHalted,
      CoreLink.mustPark]

lemma pause_answered (h : timeout ≠ 0) :
    pause ⟨⟨.running, true⟩, .working, false⟩ timeout =
      (true, ⟨⟨.paused, true⟩, .parked, false⟩) := by
  simp [pause, wait, h, answer, CoreLink.requestPause, CoreLink.concludePause, CoreLink.isHalted,
    CoreLink.mustPark, CoreLink.park, CoreLink.mustStay]

lemma pause_absent : pause ⟨⟨.running, false⟩, .absent, stuck⟩ timeout =
    (true, ⟨⟨.running, false⟩, .absent, stuck⟩) := by
  simp [pause, wait, answer, CoreLink.requestPause, CoreLink.concludePause, CoreLink.isHalted]

lemma resumeFully_parked : resumeFully ⟨⟨.paused, true⟩, .parked, stuck⟩ timeout =
    (if timeout = 0 then 2 else 1, ⟨⟨.running, true⟩, .working, stuck⟩) := by
  by_cases h : timeout = 0
  · subst h
    rfl
  · simp [resumeFully, resume, wait, h, answer, CoreLink.requestResume, CoreLink.isResumed,
      CoreLink.mustPark, CoreLink.mustStay, CoreLink.leave]

lemma resumeFully_absent : resumeFully ⟨⟨.running, false⟩, .absent, stuck⟩ timeout =
    (1, ⟨⟨.running, false⟩, .absent, stuck⟩) := by
  simp [resumeFully, resume, wait, answer, CoreLink.requestResume, CoreLink.isResumed]

end HomeHub.Cores
