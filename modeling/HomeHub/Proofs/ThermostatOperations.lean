import HomeHub.Proofs.ThermostatLaws
import HomeHub.Service.Outlets

/-!
A thermostat whose commands and turns of the control loop come one after the other, each with its
effects carried out before the next one. All that an operation can do is said by `run_cases`.
-/

namespace HomeHub.Thermostat

open Service (Effect)

inductive Operation
  | command (command : Command) (body : Json)
  | poll (reading : Option Reading) (now : Time)

/-- What an operation has carried out, and the thermostat after it. -/
def Operation.run (t : Thermostat) : Operation → List Effect × Thermostat
  | .command c body => ((t.handle c body).effects, (t.handle c body).state)
  | .poll reading now => t.poll reading now

variable {t : Thermostat}

/-- What becomes of a thermostat by an operation that has nothing carried out. -/
inductive Quiet (o : Operation) (t u : Thermostat) : Prop
  | unchanged (h : u = t)
  | decided (body : Json) (ho : o = .command .configure body) (h : u = t.evaluate)
  | turned (reading : Option Reading) (now : Time) (ho : o = .poll reading now)
      (h : u.view.same t.view = true)

/-- A change of the settings is recorded and published, a turn that changes the view publishes it,
and nothing else is carried out. -/
theorem run_cases (h : t.settings.InRange) (o : Operation) :
    (∃ r, (o.run t).1 = [.record r, tell (o.run t).2.view] ∧
      Record.ofJson (o.run t).2.settings.toJson = .ok r ∧ (o.run t).2.settings ≠ t.settings) ∨
    ((o.run t).2.settings = t.settings ∧
      (((o.run t).1 = [tell (o.run t).2.view] ∧ ∃ reading now, o = .poll reading now) ∨
        ((o.run t).1 = [] ∧ Quiet o t (o.run t).2))) := by
  cases o with
  | command c body =>
    cases c with
    | configure =>
      rcases set_cases h body with ⟨he, hs⟩ | ⟨r, hr, he, hne, -⟩
      · refine .inr ⟨hs, .inr ⟨he, ?_⟩⟩
        rcases state_set_of_effects_eq_nil h he with hu | hu
        · exact .unchanged hu
        · exact .decided body rfl hu
      · exact .inl ⟨r, he, hr, hne⟩
    | _ => exact .inr ⟨rfl, .inr ⟨rfl, .unchanged rfl⟩⟩
  | poll reading now =>
    obtain ⟨hs, he | he⟩ := poll_cases t reading now
    · refine .inr ⟨hs, .inr ⟨he, ?_⟩⟩
      rcases same_poll_of_effects_eq_nil he with hu | hu
      · exact .unchanged hu
      · exact .turned reading now rfl hu
    · exact .inr ⟨hs, .inl ⟨he, reading, now, rfl⟩⟩

lemma inRange_run (h : t.settings.InRange) (o : Operation) : (o.run t).2.settings.InRange := by
  cases o with
  | command c body =>
    cases c with
    | configure => exact inRange_set h body
    | _ => exact h
  | poll reading now => exact (poll_cases t reading now).1 ▸ h

/-- A thermostat and where its effects go. -/
structure Hosted where
  thermostat : Thermostat
  outlets : Outlets

namespace Hosted

def view (s : Hosted) : View := s.thermostat.view

/-- The value that waits in the slot. -/
def told (s : Hosted) : Option Json := s.outlets.slot.bind (·.pending)

def perform (s : Hosted) (o : Operation) : Hosted :=
  ⟨(o.run s.thermostat).2, s.outlets.applyAll (o.run s.thermostat).1⟩

end Hosted

end HomeHub.Thermostat
