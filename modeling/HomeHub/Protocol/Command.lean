/-!
The closed vocabulary of message types and their names on the wire.
-/

namespace HomeHub

inductive Command
  /-- A liveness probe, echoed at once. -/
  | heartbeat
  /-- A question for the device description. -/
  | identity
  /-- A change of the service's state. -/
  | configure
  /-- A question for the service's state. -/
  | query
  /-- A failure notice, which only the hub sends. -/
  | error
  /-- Any other name; never written. -/
  | unrecognized
  deriving DecidableEq, Repr

namespace Command

/-- The commands that have a name on the wire. -/
def all : List Command := [heartbeat, identity, configure, query, error]

def wire : Command → String
  | heartbeat => "PING"
  | identity => "INFO"
  | configure => "SET"
  | query => "GET"
  | error => "ERROR"
  | unrecognized => ""

/-- Names are matched in upper case only. -/
def ofWire (name : String) : Command :=
  if name = "PING" then heartbeat
  else if name = "INFO" then identity
  else if name = "SET" then configure
  else if name = "GET" then query
  else if name = "ERROR" then error
  else unrecognized

/-- Whether a client may send it. -/
def isInbound : Command → Bool
  | error | unrecognized => false
  | _ => true

/-- Whether the domain service answers it. -/
def isDomain : Command → Bool
  | configure | query => true
  | _ => false

/-- The name in messages for people. -/
def display : Command → String
  | unrecognized => "UNRECOGNIZED"
  | c => c.wire

end Command

end HomeHub
