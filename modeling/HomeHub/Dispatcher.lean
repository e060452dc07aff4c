import HomeHub.Device
import HomeHub.Protocol.Envelope
import HomeHub.Registry
import HomeHub.Service.Service

/-!
Dispatch of inbound messages: parse, validate the type, note the activity of the session, and
route. Liveness probes are echoed, questions for the device description are answered here, and the
rest goes to the domain service. A service that is not ready, or that fails, gets the client an
error notice with a fixed message.
-/

namespace HomeHub

structure Dispatcher where
  info : DeviceInfo
  started : Time
  deriving DecidableEq, Repr

/-- What becomes of one payload. -/
inductive Dispatch
  | reply (message : Outbound)
  /-- Dropped without a reply. -/
  | dropped (why : ProtocolFault)
  /-- The session has ended meanwhile. -/
  | gone

namespace Dispatcher

def notReadyMessage : String := "Service is not ready"

def failureMessage : String := "Failed to handle the packet"

/-- The device description with the uptime in whole seconds. -/
def infoPayload (d : Dispatcher) (now : Time) : Json :=
  .object (Json.sorted [("uptime", .ofNat (elapsed d.started now / 1000)),
    ("region", .string d.info.region), ("version", .string d.info.version),
    ("serial", .string d.info.serial), ("service_type", .ofNat d.info.serviceType.toNat),
    ("network", .string d.info.network), ("watchdog", .bool d.info.watchdog)])

variable {σ : Type} [Service σ]

/-- The reply to a message, with the state in which the service is left and what it asks for. -/
structure Routed (σ : Type) where
  reply : Outbound
  effects : List Service.Effect
  service : Option σ

/-- Asks the service, if there is one and it is ready. -/
def forward (service : Option σ) (identity : String) (message : Inbound) : Routed σ :=
  match service with
  | none => ⟨.error identity notReadyMessage, [], none⟩
  | some state =>
    if Service.isReady state then
      match Service.handle state message.command message.body with
      | ⟨.ok data, effects, state⟩ =>
        ⟨.answer message.id identity message.command data, effects, some state⟩
      | ⟨.error _, effects, state⟩ => ⟨.error identity failureMessage, effects, some state⟩
    else ⟨.error identity notReadyMessage, [], some state⟩

/-- The reply to a validated message. -/
def route (d : Dispatcher) (service : Option σ) (identity : String) (message : Inbound)
    (now : Time) : Routed σ :=
  match message.command with
  | .heartbeat => ⟨.heartbeat message.id identity, [], service⟩
  | .identity => ⟨.answer message.id identity .identity (d.infoPayload now), [], service⟩
  | .configure => forward service identity message
  | .query => forward service identity message
  | .error => ⟨.error identity failureMessage, [], service⟩
  | .unrecognized => ⟨.error identity failureMessage, [], service⟩

/-- Notes in the registry that a session sent this command; none if it has ended meanwhile. -/
def noteActivity (r : Registry) (identity : String) (id : Nat) (command : Command) (now : Time) :
    Option Registry :=
  (r.lookupSession identity id).map fun _ =>
    r.modify identity fun s => if command = .heartbeat then s.heartbeat now else s.touch now

/-- What a dispatch leaves behind. -/
structure Dispatched (σ : Type) where
  outcome : Dispatch
  effects : List Service.Effect
  registry : Registry
  service : Option σ

/-- Runs one payload of a session. -/
def dispatch (d : Dispatcher) (service : Option σ) (r : Registry) (identity : String) (id : Nat)
    (payload : Bytes) (now : Time) : Dispatched σ :=
  match Inbound.parse payload with
  | .error why => ⟨.dropped why, [], r, service⟩
  | .ok message =>
    match noteActivity r identity id message.command now with
    | none => ⟨.gone, [], r, service⟩
    | some r =>
      let routed := d.route service identity message now
      ⟨.reply routed.reply, routed.effects, r, routed.service⟩

end Dispatcher

end HomeHub
