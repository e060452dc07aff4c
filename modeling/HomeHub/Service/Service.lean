import HomeHub.Clock
import HomeHub.Numeric.Binary64
import HomeHub.Protocol.Command
import HomeHub.Store.Record

/-!
Domain services: what stands behind the commands that read and change a device's state. A service
is a state machine. What it records and what it publishes are effects, which its host carries out in
order after the call.
-/

namespace HomeHub

/-- What the sensor of a device shows. -/
structure Reading where
  temperature : Binary64
  /-- In percent. -/
  humidity : Int
  deriving DecidableEq, Repr

/-- Why a service failed a command. -/
inductive ServiceFault
  | rejected (reason : String)
  /-- The change could not be recorded. -/
  | storage (why : FlashFault)
  deriving DecidableEq, Repr

namespace Service

/-- What a service asks of its host. -/
inductive Effect
  /-- Keep this record in the durable store. -/
  | record (record : Record)
  /-- Tell every client. -/
  | publish (value : Json)

/-- What a command came to. -/
structure Outcome (σ : Type) where
  result : Except ServiceFault Json
  effects : List Effect
  state : σ

end Service

/-- A service with states of type `σ`. -/
class Service (σ : Type) where
  /-- The type reported in the device description. -/
  serviceType : σ → UInt8
  /-- Whether commands are accepted at all. -/
  isReady : σ → Bool
  handle : σ → Command → Json → Service.Outcome σ
  /-- What is done once before the first turn of the control loop. -/
  start : σ → Option Reading → Time → σ
  /-- One turn of the control loop. -/
  poll : σ → Option Reading → Time → List Service.Effect × σ

end HomeHub
