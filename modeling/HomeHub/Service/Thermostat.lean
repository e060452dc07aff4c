import HomeHub.Service.Service
import HomeHub.Service.Settings

/-!
The thermostat. In winter mode it starts to heat when the temperature is below the target and stops
when the temperature has reached one degree above it. The sensor is read every five minutes, and
heating is decided anew every second and after every change of the settings.

A change of the settings and a turn of the control loop are one section each under the
thermostat's lock. What a section decides to record and to publish happens after it.
-/

namespace HomeHub

/-! ### Changes of the settings -/

namespace Settings

/-- Why a document does not describe a change. -/
inductive ChangeFault
  | notObject
  | notNumber (field : String)
  | notTruth (field : String)
  deriving DecidableEq, Repr

def ChangeFault.message : ChangeFault → String
  | .notObject => "SET body must be an object"
  | .notNumber field => field ++ " must be a number"
  | .notTruth field => field ++ " must be a boolean"

def asNumber (field : String) : Json → Except ChangeFault Binary64
  | .number n => .ok n.toBinary64
  | _ => .error (.notNumber field)

def asTruth (field : String) : Json → Except ChangeFault Bool
  | .bool b => .ok b
  | _ => .error (.notTruth field)

/-- The value of a field after a change, which may leave it out. -/
def changedField {α : Type} (field : String) (read : String → Json → Except ChangeFault α)
    (members : List (String × Json)) (current : α) : Except ChangeFault α :=
  match Json.member? field members with
  | some v => read field v
  | none => .ok current

/-- The settings after the change that an object describes: each known field that it has, the
target brought into range. -/
def changedBy (s : Settings) (members : List (String × Json)) : Except ChangeFault Settings := do
  let target ← changedField targetField (fun f v => (asNumber f v).map clamp) members s.target
  let celsius ← changedField celsiusField asTruth members s.celsius
  let winter ← changedField winterField asTruth members s.winter
  return ⟨target, celsius, winter⟩

/-- The settings after the change that a document describes; null describes none. -/
def change (s : Settings) : Json → Except ChangeFault Settings
  | .object members => s.changedBy members
  | .null => s.changedBy []
  | _ => .error .notObject

/-- The settings that a record holds, the target brought into range. -/
def ofRecord? (r : Record) : Option Settings :=
  if r.isEmpty then none
  else (ofBytes? r.payload).map fun s => { s with target := clamp s.target }

end Settings

/-! ### The state -/

structure Thermostat where
  ready : Bool
  settings : Settings
  temperature : Binary64
  humidity : Int
  heating : Bool
  lastSample : Option Time
  lastCheck : Option Time
  deriving DecidableEq, Repr

namespace Thermostat

def serviceType : UInt8 := 1

/-- How far above the target heating stops. -/
def hysteresis : Binary64 := Binary64.ofNat 1

/-- The time between two samples, in milliseconds. -/
def sampleInterval : Nat := 300000

/-- The time between two decisions on heating, in milliseconds. -/
def checkInterval : Nat := 1000

def new (settings : Settings) : Thermostat :=
  ⟨false, settings, Binary64.zero, 0, false, none, none⟩

/-- A thermostat with the settings of a record, or the defaults if it holds none. -/
def restored (r : Record) : Thermostat := new ((Settings.ofRecord? r).getD Settings.default)

/-- What a client sees of a thermostat. -/
structure View where
  target : Binary64
  temperature : Binary64
  celsius : Bool
  winter : Bool
  humidity : Int
  heating : Bool
  deriving DecidableEq, Repr

namespace View

/-- Equality as clients see it, number by number; a view with NaN differs from itself. -/
def same (v w : View) : Bool :=
  v.target.same w.target && v.temperature.same w.temperature && v.celsius == w.celsius
    && v.winter == w.winter && v.humidity == w.humidity && v.heating == w.heating

/-- The members in the order of their declaration. -/
def members (v : View) : List (String × Json) :=
  [(Settings.targetField, .ofBinary64 v.target), ("temperature", .ofBinary64 v.temperature),
    (Settings.celsiusField, .bool v.celsius), (Settings.winterField, .bool v.winter),
    ("humidity", .ofInt v.humidity), ("heating", .bool v.heating)]

/-- The document as a value among others. -/
def toJson (v : View) : Json := .object (Json.sorted v.members)

end View

def view (t : Thermostat) : View :=
  ⟨t.settings.target, t.temperature, t.settings.celsius, t.settings.winter, t.humidity, t.heating⟩

/-! ### The sections -/

/-- Reads the sensor. Without a reading the last one stays. -/
def sample (t : Thermostat) (reading : Option Reading) (now : Time) : Thermostat :=
  let t := { t with lastSample := some now }
  match reading with
  | some r => { t with temperature := r.temperature, humidity := r.humidity }
  | none => t

/-- Whether to heat, given that it does or does not so far. -/
def demand (s : Settings) (temperature : Binary64) (heating : Bool) : Bool :=
  s.winter && temperature.lt (if heating then s.target.add hysteresis else s.target)

/-- Decides on heating. -/
def evaluate (t : Thermostat) : Thermostat :=
  { t with heating := demand t.settings t.temperature t.heating }

/-- Whether an interval has passed since the last time. -/
def isDue (last : Option Time) (interval : Nat) (now : Time) : Bool :=
  match last with
  | some time => interval ≤ elapsed time now
  | none => true

/-- Makes the thermostat ready. -/
def start (t : Thermostat) (reading : Option Reading) (now : Time) : Thermostat :=
  { { t.sample reading now with lastCheck := some now }.evaluate with ready := true }

/-- Samples and decides as far as either is due. -/
def refresh (t : Thermostat) (reading : Option Reading) (now : Time) : Thermostat :=
  let t := if isDue t.lastSample sampleInterval now then t.sample reading now else t
  if isDue t.lastCheck checkInterval now then { t with lastCheck := some now }.evaluate else t

/-- One turn of the control loop; gives the view to publish if it has changed. -/
def turn (t : Thermostat) (reading : Option Reading) (now : Time) : Option View × Thermostat :=
  if t.ready then
    let after := t.refresh reading now
    (if after.view.same t.view then none else some after.view, after)
  else (none, t)

/-- What a change of the settings came to. -/
structure Change where
  view : View
  /-- The new settings, if they differ: to be recorded, and the view to be published. -/
  settings : Option Settings
  deriving DecidableEq, Repr

/-- Changes the settings, all or nothing. -/
def configure (t : Thermostat) (body : Json) : Except Settings.ChangeFault Change × Thermostat :=
  match t.settings.change body with
  | .error why => (.error why, t)
  | .ok settings =>
    let after := { t with settings }.evaluate
    (.ok ⟨after.view, if settings.same t.settings then none else some settings⟩, after)

/-! ### The service -/

/-- Publishes a view. -/
def tell (v : View) : Service.Effect := .publish v.toJson

/-- Changes the settings and has them recorded. -/
def set (t : Thermostat) (body : Json) : Service.Outcome Thermostat :=
  match t.configure body with
  | (.error why, t) => ⟨.error (.rejected why.message), [], t⟩
  | (.ok ⟨view, none⟩, t) => ⟨.ok view.toJson, [], t⟩
  | (.ok ⟨view, some settings⟩, t) =>
    match Record.ofJson settings.toJson with
    | .error why => ⟨.error (.storage why), [], t⟩
    | .ok record => ⟨.ok view.toJson, [.record record, tell view], t⟩

def handle (t : Thermostat) (command : Command) (body : Json) : Service.Outcome Thermostat :=
  match command with
  | .query => ⟨.ok t.view.toJson, [], t⟩
  | .configure => t.set body
  | .heartbeat => ⟨.ok (.object []), [], t⟩
  | .identity => ⟨.ok (.object []), [], t⟩
  | .error => ⟨.ok (.object []), [], t⟩
  | .unrecognized => ⟨.ok (.object []), [], t⟩

def poll (t : Thermostat) (reading : Option Reading) (now : Time) :
    List Service.Effect × Thermostat :=
  let (changed, t) := t.turn reading now
  ((changed.map tell).toList, t)

instance : Service Thermostat where
  serviceType _ := serviceType
  isReady := ready
  handle := handle
  start := start
  poll := poll

end Thermostat

end HomeHub
