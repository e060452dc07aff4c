import HomeHub.Json.Parser
import HomeHub.Json.Printer
import HomeHub.Protocol.Command
import HomeHub.Text.Quoted

/-!
Message envelopes. An inbound message is an object with a string `type`; `id` is an opaque token
that the reply echoes, and `body`, or else `data`, is for the domain service. An outbound message
is a reply or an error notice.
-/

namespace HomeHub

/-- Why an inbound message is dropped. -/
inductive ProtocolFault
  /-- The payload is no JSON document. -/
  | malformed
  | notObject
  /-- `type` is absent or no string. -/
  | missingType
  | unrecognized (name : String)
  /-- A type that only the hub may send. -/
  | sendOnly (name : String)
  deriving DecidableEq, Repr

def ProtocolFault.message : ProtocolFault → String
  | .malformed => "malformed message"
  | .notObject => "malformed message: document is not an object"
  | .missingType => "missing or non-string type field"
  | .unrecognized name => "unrecognized type " ++ Text.quoted name
  | .sendOnly name => "send-only type " ++ Text.quoted name ++ " received"

/-- A validated inbound message. -/
structure Inbound where
  /-- Empty if the client sent no string. -/
  id : String
  command : Command
  /-- The empty object if the client sent none. -/
  body : Json

namespace Inbound

/-- The `id` of a message, if it is a string. -/
def idOf (members : List (String × Json)) : String :=
  match Json.member? "id" members with
  | some (.string s) => s
  | _ => ""

/-- `body` wins over `data`, even when it is null. -/
def bodyOf (members : List (String × Json)) : Json :=
  match Json.member? "body" members with
  | some v => v
  | none => (Json.member? "data" members).getD (.object [])

/-- Validates the members of a document. -/
def ofMembers (members : List (String × Json)) : Except ProtocolFault Inbound :=
  match Json.member? "type" members with
  | some (.string name) =>
    match Command.ofWire name with
    | .unrecognized => .error (.unrecognized name)
    | .error => .error (.sendOnly name)
    | command => .ok ⟨idOf members, command, bodyOf members⟩
  | _ => .error .missingType

def parse (payload : Bytes) : Except ProtocolFault Inbound :=
  match Json.ofBytes? payload with
  | none => .error .malformed
  | some (.object members) => ofMembers members
  | some _ => .error .notObject

end Inbound

/-- A message from the hub. -/
inductive Outbound
  /-- A reply to one client, or without `id` a notice to all. -/
  | reply (id : Option String) (clientId : String) (command : Command) (data : Option Json)
  | error (clientId : String) (message : String)

namespace Outbound

/-- The client identity in messages that answer no client. -/
def hubIdentity : String := "server"

def heartbeat (id clientId : String) : Outbound := .reply (some id) clientId .heartbeat none

def answer (id clientId : String) (command : Command) (data : Json) : Outbound :=
  .reply (some id) clientId command (some data)

/-- A notice to every client. -/
def broadcast (data : Json) : Outbound := .reply none hubIdentity .query (some data)

def command : Outbound → Command
  | .reply _ _ c _ => c
  | .error _ _ => .error

/-- The document, its members in the order in which they are written. -/
def toJson : Outbound → Json
  | .reply id clientId c data =>
    .object ((id.map fun s => ("id", .string s)).toList
      ++ [("client_id", .string clientId), ("type", .string c.wire)]
      ++ (data.map fun v => ("data", v)).toList)
  | .error clientId message =>
    .object [("client_id", .string clientId), ("type", .string Command.error.wire),
      ("message", .string message)]

def text (m : Outbound) : String := m.toJson.text

def bytes (m : Outbound) : Bytes := m.toJson.bytes

end Outbound

end HomeHub
