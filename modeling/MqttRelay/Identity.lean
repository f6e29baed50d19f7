import MqttRelay.Value.Decode

/-!
# Client identity

The id under which a client is known and the broker it belongs to.
-/

namespace MqttRelay

/-- A client id with the address of its broker. -/
structure Identity where
  clientId : String
  host : String
  port : UInt16
  deriving DecidableEq, Inhabited, Repr

namespace Identity

/-- The address of the broker. -/
def brokerUrl (i : Identity) : String :=
  "mqtt://" ++ i.host ++ ":" ++ toString i.port.toNat

/-- The notation of an identity in diagnostics. -/
def debugText (i : Identity) : String :=
  Text.record "ClientIdentity" [("client_id", Text.quoted i.clientId),
    ("host", Text.quoted i.host), ("port", toString i.port.toNat)]

/-- The fields of an identity. -/
def toValue (i : Identity) : Value :=
  .object [("clientId", .str i.clientId), ("host", .str i.host), ("port", .nat i.port.toNat)]

/-- The record of an identity. -/
def record : Record Identity :=
  (Record.pure Identity.mk).required "clientId" Reader.string
    |>.required "host" Reader.string |>.required "port" Reader.uint16

/-- Reads an identity. -/
def read : Reader Identity := record.read "ClientIdentity"

end Identity

end MqttRelay
