import HomeHub.Board
import HomeHub.Cipher.NonceSource
import HomeHub.Connections
import HomeHub.Dispatcher
import HomeHub.Flash.Faulty
import HomeHub.Outbox
import HomeHub.Service.Appliance
import HomeHub.Service.Outlets

/-!
The parts of a hub on a workbench, where each is operated by hand. There may be more of a part than
a hub has: a store that has been opened again stands beside the one before, and a thermostat keeps
the store that it was given. The dispatcher serves from the first thermostat; the one operated by
hand is the latest.
-/

namespace HomeHub

/-- A thermostat and which of the stores it records in. -/
structure Fixture where
  thermostat : Thermostat
  store : Option Nat

structure Workbench where
  connections : Connections
  outbox : Outbox
  nonces : NonceSource
  /-- How many nonces have been used. -/
  drawn : Nat
  dispatcher : Dispatcher
  echo : Option Echo
  /-- Oldest first. -/
  fixtures : List Fixture
  sensor : Option Reading
  board : Board FaultyFlash
  /-- Oldest first; all on one flash. -/
  stores : List Store
  slot : Option BroadcastSlot

namespace Workbench

/-- A workbench with connections and a way out, and nothing else. -/
def new (config : Registry.Config) (cipher : Cipher) (nonces : NonceSource) (info : DeviceInfo)
    (sensor : Option Reading) (interval : Option Nat) : Workbench where
  connections := Connections.new config
  outbox := ⟨cipher⟩
  nonces
  drawn := 0
  dispatcher := ⟨info, 0⟩
  echo := none
  fixtures := []
  sensor
  board := Board.new (FaultyFlash.new (MemoryFlash.new 0))
  stores := []
  slot := interval.map BroadcastSlot.new

/-! ### Stores -/

/-- Opens a store on the flash of the board, which becomes the current one. -/
def openStore (w : Workbench) (config : Store.Config) : Except FlashFault Workbench :=
  (Store.attach w.board.flash config).map fun s => { w with stores := w.stores ++ [s] }

/-- Puts in a flash device and opens a store on it. -/
def mount (w : Workbench) (flash : MemoryFlash) (config : Store.Config) :
    Except FlashFault Workbench :=
  openStore { w with board := Board.new (FaultyFlash.new flash) } config

/-- The current store. -/
def store? (w : Workbench) : Option Store := w.stores.getLast?

/-- Replaces the state of a store. -/
def setStore (w : Workbench) (index : Nat) (s : Store) : Workbench :=
  { w with stores := w.stores.set index s }

/-- Which of the stores is the current one. -/
def currentStore (w : Workbench) : Nat := w.stores.length - 1

/-- Changes the current store. -/
def modifyStore (w : Workbench) (change : Store → Store) : Workbench :=
  match w.store? with
  | some s => w.setStore w.currentStore (change s)
  | none => w

/-- A tick of the current store. -/
def tick (w : Workbench) (s : Store) (now : Time) : Store.Tick × Workbench :=
  let (outcome, s, board) := w.board.tick s now
  (outcome, { w with board }.setStore w.currentStore s)

/-! ### Thermostats -/

/-- Carries out what the thermostat of a fixture asks for. -/
def carryOut (w : Workbench) (f : Fixture) (effects : List Service.Effect) : Workbench :=
  let outlets := Outlets.applyAll ⟨f.store.bind fun i => w.stores[i]?, w.slot⟩ effects
  let w := { w with slot := outlets.slot }
  match f.store, outlets.store with
  | some i, some s => w.setStore i s
  | _, _ => w

/-- Builds a thermostat on the current store. -/
def install (w : Workbench) : Workbench :=
  let fixture : Fixture :=
    match w.store? with
    | some s => ⟨Thermostat.restored s.record, some w.currentStore⟩
    | none => ⟨Thermostat.new Settings.default, none⟩
  { w with fixtures := w.fixtures ++ [fixture] }

/-- The latest thermostat. -/
def fixture? (w : Workbench) : Option Fixture := w.fixtures.getLast?

/-- Replaces the state of a thermostat and carries out what it asks for. -/
def setThermostat (w : Workbench) (index : Nat) (t : Thermostat) (effects : List Service.Effect) :
    Workbench :=
  match w.fixtures[index]? with
  | some f =>
    { w with fixtures := w.fixtures.set index { f with thermostat := t } }.carryOut f effects
  | none => w

/-- Replaces the state of the latest thermostat. -/
def setLatest (w : Workbench) (t : Thermostat) (effects : List Service.Effect) : Workbench :=
  w.setThermostat (w.fixtures.length - 1) t effects

/-! ### Dispatch -/

/-- The service of the dispatcher. -/
def service? (w : Workbench) : Option Appliance :=
  match w.echo with
  | some e => some (.echo e)
  | none => w.fixtures.head?.map fun f => .thermostat f.thermostat

/-- Replaces the state of the dispatcher's service and carries out what it asks for. -/
def setService (w : Workbench) (service : Option Appliance) (effects : List Service.Effect) :
    Workbench :=
  match service with
  | some (.echo e) => { w with echo := some e }
  | some (.thermostat t) => w.setThermostat 0 t effects
  | none => w

/-- Dispatches a payload. -/
def dispatch (w : Workbench) (identity : String) (id : Nat) (payload : Bytes) (now : Time) :
    Dispatch × Workbench :=
  let d := w.dispatcher.dispatch w.service? w.connections.registry identity id payload now
  let w := { w with connections := { w.connections with registry := d.registry } }
  (d.outcome, w.setService d.service d.effects)

/-- Routes a message. -/
def route (w : Workbench) (identity : String) (message : Inbound) (now : Time) :
    Outbound × Workbench :=
  let r := w.dispatcher.route w.service? identity message now
  (r.reply, w.setService r.service r.effects)

/-! ### The way out -/

/-- A nonce that has not been used. -/
def freshNonce (w : Workbench) : Nonce × Workbench :=
  (w.nonces w.drawn, { w with drawn := w.drawn + 1 })

/-- Queues a message for one client. -/
def sendTo (w : Workbench) (identity : String) (message : Outbound) :
    Except OutboxFault Unit × Workbench :=
  let (nonce, w) := w.freshNonce
  let (result, registry) := w.outbox.sendTo nonce w.connections.registry identity message
  (result, { w with connections := { w.connections with registry } })

/-- Queues a message for every client. -/
def fanOut (w : Workbench) (message : Outbound) : FanOut × Workbench :=
  let (nonce, w) := w.freshNonce
  let (result, registry) := w.outbox.fanOut nonce w.connections.registry message
  (result, { w with connections := { w.connections with registry } })

end Workbench

end HomeHub
