import MqttRelay.Identity
import MqttRelay.Options

/-!
# Client configuration

What is needed to make one client: its identity and its options.

Results:
* `identity_port`: the identity has the port of the configuration.
-/

namespace MqttRelay.Client

/-- What one client is made from. -/
structure Config where
  clientId : String
  host : String
  port : UInt16
  options : Options := {}
  deriving DecidableEq, Inhabited, Repr

namespace Config

/-- The identity of the client. -/
def identity (c : Config) : Identity := ⟨c.clientId, c.host, c.port⟩

theorem identity_port (c : Config) : c.identity.port = c.port := rfl

/-- The fields of a configuration. -/
def toValue (c : Config) : Value :=
  .object [("clientId", .str c.clientId), ("host", .str c.host), ("port", .nat c.port.toNat),
    ("options", c.options.toValue)]

/-- The record of a configuration. -/
def record : Record Config :=
  (Record.pure Config.mk).required "clientId" Reader.string
    |>.required "host" Reader.string |>.required "port" Reader.uint16
    |>.withDefault "options" Options.read .empty

/-- Reads a configuration. -/
def read : Reader Config := record.read "ClientConfig"

end Config

end MqttRelay.Client
