import HomeHub.Board
import HomeHub.Cipher.NonceSource
import HomeHub.Config
import HomeHub.Connections
import HomeHub.Dispatcher
import HomeHub.Outbox
import HomeHub.Server.ReadTask
import HomeHub.Service.Outlets

/-!
A running server: the connections with their read tasks, the dispatcher with its service, the way
out, and the store and the slot that the service uses, the store on a board with flash of type `δ`.
Time comes in with every operation.
-/

namespace HomeHub

structure Server (σ δ : Type) where
  connections : Connections
  tasks : List ReadTask
  dispatcher : Dispatcher
  service : Option σ
  /-- What the sensor shows at present. -/
  sensor : Option Reading
  outbox : Outbox
  nonces : NonceSource
  /-- How many nonces have been used. -/
  drawn : Nat
  outlets : Outlets
  board : Board δ
  /-- Frames that may wait for one client. -/
  channelSlots : Nat
  /-- In milliseconds. -/
  idleTimeout : Nat

namespace Server

/-- What a server is built from. -/
structure Parts (σ δ : Type) where
  config : Config
  /-- Used instead of the configured key. -/
  cipher : Option Cipher
  nonces : NonceSource
  service : Option σ
  sensor : Option Reading
  store : Option Store
  board : Board δ
  channelSlots : Nat
  host : Option String

variable {σ δ : Type} [Service σ] [Flash δ]

/-- The cipher that a configuration and its override come to. -/
def chosenCipher (c : Config) : Option Cipher → Except ConfigFault Cipher
  | some cipher => .ok cipher
  | none => c.cipher

/-- Starts a server at a time, with the service ready. -/
def start (p : Parts σ δ) (now : Time) : Except ConfigFault (Server σ δ) := do
  let c := p.config.normalize
  c.validate
  let cipher ← chosenCipher c p.cipher
  let serviceType := (p.service.map Service.serviceType).getD 0
  return {
    connections := Connections.new c.registryConfig
    tasks := []
    dispatcher := ⟨c.deviceInfo serviceType p.host, now⟩
    service := p.service.map fun s => Service.start s p.sensor now
    sensor := p.sensor
    outbox := ⟨cipher⟩
    nonces := p.nonces
    drawn := 0
    outlets := ⟨p.store, some (BroadcastSlot.new c.broadcastIntervalMs)⟩
    board := if p.service.isSome then p.board.spawnCore else p.board
    channelSlots := p.channelSlots
    idleTimeout := c.idleTimeoutMs }

/-- The registry of the connections. -/
def registry (s : Server σ δ) : Registry := s.connections.registry

def setRegistry (s : Server σ δ) (registry : Registry) : Server σ δ :=
  { s with connections := { s.connections with registry } }

/-- A nonce that has not been used. -/
def freshNonce (s : Server σ δ) : Nonce × Server σ δ :=
  (s.nonces s.drawn, { s with drawn := s.drawn + 1 })

/-- Drops the read tasks whose sessions have ended. -/
def prune (s : Server σ δ) : Server σ δ :=
  let lives (t : ReadTask) : Bool := (s.registry.lookupSession t.identity t.session).isSome
  { s with tasks := s.tasks.filter lives }

end Server

end HomeHub
