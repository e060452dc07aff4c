import HomeHub.CommandLine
import HomeHub.Server.Reception
import HomeHub.Service.Thermostat

/-!
A server set up from a configuration and the command line: a thermostat on a store in the flash
image, with a sensor that always shows the same.
-/

namespace HomeHub

/-- Why a server could not be set up. -/
inductive SetupFault
  | config (why : ConfigFault)
  | flash (why : FlashFault)
  deriving DecidableEq, Repr

def SetupFault.message : SetupFault → String
  | .config why => "Configuration error: " ++ why.message
  | .flash why => "Flash error: " ++ why.message

/-- A configuration with the settings of the command line in place of its own. -/
def Config.withOptions (c : Config) (o : Options) : Config :=
  { c with
    bind := o.bind.getD c.bind
    key := o.key.orElse fun _ => c.key
    flashPath := o.flash.orElse fun _ => c.flashPath }

namespace Server

variable {δ : Type} [Flash δ]

/-- The parts of a server with a thermostat. -/
def thermostatParts (c : Config) (temperature : Binary64) (nonces : NonceSource) (flash : δ)
    (host : Option String) : Except FlashFault (Parts Thermostat δ) :=
  (Store.attach flash c.storeConfig).map fun store =>
    { config := c
      cipher := none
      nonces
      service := some (Thermostat.restored store.record)
      sensor := some ⟨temperature, 0⟩
      store := some store
      board := Board.new flash
      channelSlots := Writer.defaultSlots
      host }

/-- Sets up a server and starts it. -/
def setUp (c : Config) (temperature : Binary64) (nonces : NonceSource) (flash : δ)
    (host : Option String) (now : Time) : Except SetupFault (Server Thermostat δ) :=
  match thermostatParts c temperature nonces flash host with
  | .error why => .error (.flash why)
  | .ok parts =>
    match start parts now with
    | .error why => .error (.config why)
    | .ok s => .ok s

end Server

end HomeHub
