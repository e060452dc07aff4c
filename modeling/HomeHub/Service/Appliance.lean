import HomeHub.Service.Echo
import HomeHub.Service.Thermostat

/-!
The services that a hub can be set up with.
-/

namespace HomeHub

inductive Appliance
  | echo (state : Echo)
  | thermostat (state : Thermostat)

namespace Appliance

/-- An outcome of one of the services as an outcome of the appliance. -/
def lift {σ : Type} (wrap : σ → Appliance) (o : Service.Outcome σ) : Service.Outcome Appliance :=
  ⟨o.result, o.effects, wrap o.state⟩

instance : Service Appliance where
  serviceType
    | echo s => Service.serviceType s
    | thermostat s => Service.serviceType s
  isReady
    | echo s => Service.isReady s
    | thermostat s => Service.isReady s
  handle a command body := match a with
    | echo s => lift echo (Service.handle s command body)
    | thermostat s => lift thermostat (Service.handle s command body)
  start a reading now := match a with
    | echo s => echo (Service.start s reading now)
    | thermostat s => thermostat (Service.start s reading now)
  poll a reading now := match a with
    | echo s => let (effects, s) := Service.poll s reading now; (effects, echo s)
    | thermostat s => let (effects, s) := Service.poll s reading now; (effects, thermostat s)

end Appliance

end HomeHub
