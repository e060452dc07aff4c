import HomeHub.Cipher
import HomeHub.Clock
import HomeHub.Device
import HomeHub.Flash.Device
import HomeHub.Net.SocketAddress
import HomeHub.Protocol.Frame
import HomeHub.Registry
import HomeHub.Store
import HomeHub.Toml.Document

/-!
The configuration of a hub. Every setting has a default; zero or blank values fall back to it, and
values that cannot be right are refused.
-/

namespace HomeHub

structure DeviceConfig where
  region : String
  /-- Derived from the host name if absent. -/
  serial : Option String
  networkName : String
  watchdogBoot : Bool
  deriving DecidableEq, Repr

/-- Times are in milliseconds, but for the idle timeout, which is in seconds. -/
structure Config where
  bind : SocketAddress
  maxClients : Nat
  bufferCapacity : Nat
  idleTimeoutSecs : Nat
  frameStaleMs : Nat
  tickMs : Nat
  broadcastIntervalMs : Nat
  writeIntervalMs : Nat
  lockoutTimeoutMs : Nat
  /-- 64 hexadecimal digits; without a key payloads are not encrypted. -/
  key : Option String
  /-- The file of the flash image. -/
  flashPath : Option String
  device : DeviceConfig
  deriving DecidableEq, Repr

inductive ConfigFault
  /-- No TOML document, or not one of settings. -/
  | unreadable
  | noClients
  | bufferTooSmall
  | badRegion (region : String)
  | badSerial (serial : String)
  | badKey (why : CipherFault)
  deriving DecidableEq, Repr

namespace Config

/-- The smallest buffer: the longest header and a small document. -/
def minBufferCapacity : Nat := Frame.maxHeaderDigits + 1 + 64

def defaultRegion : String := "PL"

def default : Config where
  bind := .v4 [0, 0, 0, 0] 4242
  maxClients := 4
  bufferCapacity := 2048
  idleTimeoutSecs := 60
  frameStaleMs := 1500
  tickMs := 20
  broadcastIntervalMs := 1000
  writeIntervalMs := 1000
  lockoutTimeoutMs := 2000
  key := none
  flashPath := none
  device := ⟨defaultRegion, none, "", false⟩

end Config

def ConfigFault.message : ConfigFault → String
  | .unreadable => "unreadable document"
  | .noClients => "max_clients must be at least 1"
  | .bufferTooSmall =>
    "buffer_capacity must be at least " ++ Decimal.text Config.minBufferCapacity ++ " bytes"
  | .badRegion region => "region must be two uppercase letters, got " ++ Text.quoted region
  | .badSerial serial => "serial " ++ Text.quoted serial ++ " is not hex"
  | .badKey why => "key: " ++ why.message

namespace Config

def isBlankText (s : String) : Bool := (Text.trim s).isEmpty

def orDefault (value default : Nat) : Nat := if value = 0 then default else value

/-- A text that is not blank. -/
def nonBlank (s : Option String) : Option String := s.filter fun t => !isBlankText t

/-- Replaces zero and blank values by their defaults. The number of clients stays. -/
def normalize (c : Config) : Config :=
  { c with
    bufferCapacity := orDefault c.bufferCapacity default.bufferCapacity
    idleTimeoutSecs := orDefault c.idleTimeoutSecs default.idleTimeoutSecs
    frameStaleMs := orDefault c.frameStaleMs default.frameStaleMs
    tickMs := orDefault c.tickMs default.tickMs
    broadcastIntervalMs := orDefault c.broadcastIntervalMs default.broadcastIntervalMs
    writeIntervalMs := orDefault c.writeIntervalMs default.writeIntervalMs
    lockoutTimeoutMs := orDefault c.lockoutTimeoutMs default.lockoutTimeoutMs
    key := nonBlank c.key
    device :=
      { c.device with
        region := if isBlankText c.device.region then defaultRegion else c.device.region
        serial := nonBlank c.device.serial } }

/-- The cipher of the configured key. -/
def cipher (c : Config) : Except ConfigFault Cipher :=
  match c.key with
  | none => .ok Cipher.disabled
  | some key =>
    match Cipher.ofHex key with
    | .ok cipher => .ok cipher
    | .error why => .error (.badKey why)

def isRegion (s : String) : Bool :=
  match s.toList with
  | [a, b] => a.isUpper && b.isUpper
  | _ => false

def checkSerial : Option String → Except ConfigFault Unit
  | none => .ok ()
  | some serial =>
    match Hex.decode (Utf8.ofString serial) with
    | .ok _ => .ok ()
    | .error _ => .error (.badSerial serial)

/-- Refuses what cannot be right. -/
def validate (c : Config) : Except ConfigFault Unit := do
  if c.maxClients = 0 then throw .noClients
  if c.bufferCapacity < minBufferCapacity then throw .bufferTooSmall
  if !isRegion c.device.region then throw (.badRegion c.device.region)
  checkSerial c.device.serial
  let _ ← c.cipher

/-- The idle timeout in milliseconds. -/
def idleTimeoutMs (c : Config) : Nat := c.idleTimeoutSecs * 1000

def registryConfig (c : Config) : Registry.Config :=
  ⟨c.maxClients, c.bufferCapacity, c.frameStaleMs⟩

def storeConfig (c : Config) : Store.Config :=
  ⟨c.writeIntervalMs, c.lockoutTimeoutMs, Flash.targetOffset⟩

/-- The device description for a service of this type on a host. -/
def deviceInfo (c : Config) (serviceType : UInt8) (host : Option String) : DeviceInfo where
  region := c.device.region
  version := DeviceInfo.currentVersion
  serial := match c.device.serial with
    | some s => String.ofList (s.toList.map Char.toLower)
    | none => DeviceInfo.hostSerial (host.getD DeviceInfo.defaultHost)
  serviceType := serviceType
  network := c.device.networkName
  watchdog := c.device.watchdogBoot

/-! ### Settings from a document -/

def asText : Toml → Option String
  | .string s => some s
  | _ => none

def asNatural : Toml → Option Nat
  | .integer (.ofNat n) => some n
  | _ => none

def asTruth : Toml → Option Bool
  | .boolean b => some b
  | _ => none

/-- Takes one setting of the device. -/
def takeDeviceEntry (d : DeviceConfig) (entry : String × Toml) : Option DeviceConfig :=
  let (key, v) := entry
  if key = "region" then (asText v).map fun s => { d with region := s }
  else if key = "serial" then (asText v).map fun s => { d with serial := some s }
  else if key = "network_name" then (asText v).map fun s => { d with networkName := s }
  else if key = "watchdog_boot" then (asTruth v).map fun b => { d with watchdogBoot := b }
  else none

/-- The settings of the device by position; what follows them is passed over. -/
def deviceByPosition : List Toml → Option DeviceConfig
  | [] => some default.device
  | [region] => do takeDeviceEntry default.device ("region", region)
  | [region, serial] => do
    let d ← takeDeviceEntry default.device ("region", region)
    takeDeviceEntry d ("serial", serial)
  | [region, serial, network] => do
    let d ← takeDeviceEntry default.device ("region", region)
    let d ← takeDeviceEntry d ("serial", serial)
    takeDeviceEntry d ("network_name", network)
  | region :: serial :: network :: watchdog :: _ => do
    let d ← takeDeviceEntry default.device ("region", region)
    let d ← takeDeviceEntry d ("serial", serial)
    let d ← takeDeviceEntry d ("network_name", network)
    takeDeviceEntry d ("watchdog_boot", watchdog)

def readDevice : Toml → Option DeviceConfig
  | .table _ entries => entries.foldlM takeDeviceEntry default.device
  | .array items => deviceByPosition items
  | _ => none

/-- Takes one setting; names that are no setting are refused. -/
def takeEntry (c : Config) (entry : String × Toml) : Option Config :=
  let (key, v) := entry
  if key = "bind" then
    ((asText v).bind SocketAddress.ofString?).map fun a => { c with bind := a }
  else if key = "max_clients" then (asNatural v).map fun n => { c with maxClients := n }
  else if key = "buffer_capacity" then (asNatural v).map fun n => { c with bufferCapacity := n }
  else if key = "idle_timeout_secs" then (asNatural v).map fun n => { c with idleTimeoutSecs := n }
  else if key = "frame_stale_ms" then (asNatural v).map fun n => { c with frameStaleMs := n }
  else if key = "tick_ms" then (asNatural v).map fun n => { c with tickMs := n }
  else if key = "broadcast_interval_ms" then
    (asNatural v).map fun n => { c with broadcastIntervalMs := n }
  else if key = "write_interval_ms" then (asNatural v).map fun n => { c with writeIntervalMs := n }
  else if key = "lockout_timeout_ms" then
    (asNatural v).map fun n => { c with lockoutTimeoutMs := n }
  else if key = "key" then (asText v).map fun s => { c with key := some s }
  else if key = "flash_path" then (asText v).map fun s => { c with flashPath := some s }
  else if key = "device" then (readDevice v).map fun d => { c with device := d }
  else none

/-- The settings of a document as they stand there. -/
def read? (text : String) : Option Config := do
  let entries ← Toml.ofChars? text.toList
  entries.foldlM takeEntry default

/-- Reads, normalizes and validates a document. -/
def ofToml (text : String) : Except ConfigFault Config :=
  match read? text with
  | none => .error .unreadable
  | some c => do
    let c := c.normalize
    c.validate
    return c

/-- What a configuration path leads to. -/
inductive Source
  | missing
  | directory
  | file (content : Bytes)

/-- Why a configuration could not be loaded. -/
inductive LoadFault
  /-- The file could not be read as text. -/
  | io
  | config (why : ConfigFault)
  deriving DecidableEq, Repr

/-- Loads a configuration; a missing file means the defaults. -/
def load : Source → Except LoadFault Config
  | .missing => .ok default
  | .directory => .error .io
  | .file content =>
    match Utf8.toString? content with
    | none => .error .io
    | some text =>
      match ofToml text with
      | .ok c => .ok c
      | .error why => .error (.config why)

end Config

end HomeHub
