import HomeHub.Registry

/-!
The registry together with the links that it has released. A link is held by a session, or it is
among the released ones, where its writer goes on until its queue is written. Links are numbered in
the order in which they were made, also those that never got a session.
-/

namespace HomeHub

structure Connections where
  registry : Registry
  released : List Link
  /-- How many links there have been. -/
  made : Nat
  deriving DecidableEq, Repr

/-- What a link is made of. -/
structure Transport where
  /-- Frames that may wait for the sink. -/
  slots : Nat
  sink : Sink
  deriving DecidableEq, Repr

namespace Connections

def new (config : Registry.Config) : Connections := ⟨Registry.new config, [], 0⟩

/-- Admits a connection, with or without a transport. -/
def enroll (c : Connections) (identity : String) (transport : Option Transport) (now : Time) :
    Except AdmissionFault Admission × Connections :=
  let link := transport.map fun t => Link.new c.made t.slots t.sink
  let (result, registry, rejected) := c.registry.enroll identity link now
  (result, ⟨registry, c.released ++ rejected.toList, c.made + link.toList.length⟩)

/-- Takes in what an operation that ends sessions gives. -/
def settle (c : Connections) (ended : List Session × Registry) : List Session × Connections :=
  (ended.1,
    { c with registry := ended.2, released := c.released ++ Registry.releasedLinks ended.1 })

def evict (c : Connections) (identity : String) : List Session × Connections :=
  c.settle (c.registry.evict identity)

def evictSession (c : Connections) (identity : String) (id : Nat) : List Session × Connections :=
  c.settle (c.registry.evictSession identity id)

def reap (c : Connections) (now : Time) (timeout : Nat) : List Session × Connections :=
  c.settle (c.registry.reap now timeout)

def closeAll (c : Connections) : List Session × Connections := c.settle c.registry.closeAll

/-- Every link, in the order of their numbers. -/
def links (c : Connections) : List Link :=
  (c.registry.sessions.filterMap (·.link) ++ c.released).mergeSort fun a b => a.number ≤ b.number

/-- Changes every link. -/
def mapLinks (c : Connections) (change : Link → Link) : Connections :=
  let changeSession (s : Session) : Session := { s with link := s.link.map change }
  { c with
    registry := { c.registry with slots := c.registry.slots.map (Option.map changeSession) }
    released := c.released.map change }

/-- Lets every writer go on until it waits. -/
def run (c : Connections) : Connections := c.mapLinks Link.run

/-- Forgets the calls that the sinks have logged. -/
def clearLogs (c : Connections) : Connections := c.mapLinks Link.clearLog

/-- Blocks or unblocks the sink of a link. -/
def setBlocked (c : Connections) (number : Nat) (blocked : Bool) : Connections :=
  c.mapLinks fun l => if l.number = number then l.setBlocked blocked else l

end Connections

end HomeHub
