import MqttRelay.Value.Decode

/-!
# Connection options

The options of a connection. Each may be unset, which means "as it is already": options are
laid over one another field by field, and what is unset at the end takes a default.

Results:
* `merge_empty`, `empty_merge`, `merge_assoc`: laying options over one another is a monoid.
-/

namespace MqttRelay

/-- The options for connecting and reconnecting; each may be unset. -/
structure Options where
  /-- Seconds between signs of life. -/
  keepAlive : Option UInt16 := none
  /-- Start without the broker's memory of earlier sessions. -/
  cleanSession : Option Bool := none
  username : Option String := none
  password : Option String := none
  /-- Connect over TLS. -/
  tls : Option Bool := none
  /-- Reconnect with growing delays after a lost connection. -/
  autoReconnect : Option Bool := none
  /-- Most attempts in one cycle of reconnection; unset means no bound. -/
  retryCount : Option UInt32 := none
  /-- First delay, in milliseconds. -/
  backoffTime : Option UInt64 := none
  /-- Longest delay, in seconds. -/
  maxBackoffTime : Option UInt64 := none
  /-- Most random milliseconds added to a delay. -/
  jitter : Option UInt64 := none
  deriving DecidableEq, Inhabited, Repr

/-- The parameters of one connect request. -/
structure ConnectParameters where
  keepAlive : UInt16
  cleanSession : Bool
  username : String
  password : String
  deriving DecidableEq, Inhabited, Repr

namespace Options

/-- No option set. -/
def empty : Options := {}

/-- Lays `overrides` over the options: what it sets replaces what was there. -/
def merge (options overrides : Options) : Options where
  keepAlive := overrides.keepAlive <|> options.keepAlive
  cleanSession := overrides.cleanSession <|> options.cleanSession
  username := overrides.username <|> options.username
  password := overrides.password <|> options.password
  tls := overrides.tls <|> options.tls
  autoReconnect := overrides.autoReconnect <|> options.autoReconnect
  retryCount := overrides.retryCount <|> options.retryCount
  backoffTime := overrides.backoffTime <|> options.backoffTime
  maxBackoffTime := overrides.maxBackoffTime <|> options.maxBackoffTime
  jitter := overrides.jitter <|> options.jitter

/-- Lays overrides over the options, if there are any. -/
def mergeOpt (options : Options) : Option Options → Options
  | none => options
  | some overrides => options.merge overrides

@[simp] theorem merge_empty (o : Options) : o.merge empty = o := by
  cases o; rfl

@[simp] theorem empty_merge (o : Options) : empty.merge o = o := by
  simp [merge, empty]

theorem orElse_assoc {α : Type} (a b c : Option α) : (a <|> b <|> c) = ((a <|> b) <|> c) := by
  cases a <;> rfl

/-- Overrides laid over one after another act as their own merge does. -/
theorem merge_assoc (a b c : Options) : (a.merge b).merge c = a.merge (b.merge c) := by
  simp only [merge, orElse_assoc]

/-! ## Resolved values -/

/-- Whether a lost connection is to be made again. -/
def reconnects (o : Options) : Bool := o.autoReconnect.getD false

/-- Whether the connection is to use TLS. -/
def usesTls (o : Options) : Bool := o.tls.getD false

/-- The parameters of a connect request: sixty seconds of keep-alive, a clean session and no
credentials, unless set. -/
def parameters (o : Options) : ConnectParameters where
  keepAlive := o.keepAlive.getD 60
  cleanSession := o.cleanSession.getD true
  username := o.username.getD ""
  password := o.password.getD ""

/-- Sets a user and a password. -/
def withCredentials (o : Options) (username password : String) : Options :=
  { o with username := some username, password := some password }

/-- Turns reconnection on, with a bound on the attempts or without one. -/
def withReconnect (o : Options) (retryCount : Option UInt32) : Options :=
  { o with autoReconnect := some true, retryCount := retryCount }

/-- Sets the delays of reconnection. -/
def withBackoff (o : Options) (firstMs maxSecs jitterMs : UInt64) : Options :=
  { o with backoffTime := some firstMs, maxBackoffTime := some maxSecs, jitter := some jitterMs }

/-! ## Written forms -/

/-- What stands for a password wherever it could be seen. -/
def hidden : String := Text.quoted "***"

/-- The notation of options in diagnostics; the password is hidden. -/
def debugText (o : Options) : String :=
  Text.record "ConnectionOptions"
    [("keep_alive", Text.optional (o.keepAlive.map fun n => toString n.toNat)),
     ("clean_session", Text.optional (o.cleanSession.map Text.truth)),
     ("username", Text.optional (o.username.map Text.quoted)),
     ("password", Text.optional (o.password.map fun _ => hidden)),
     ("enable_ssl_config", Text.optional (o.tls.map Text.truth)),
     ("auto_reconnect", Text.optional (o.autoReconnect.map Text.truth)),
     ("retry_count", Text.optional (o.retryCount.map fun n => toString n.toNat)),
     ("backoff_time", Text.optional (o.backoffTime.map fun n => toString n.toNat)),
     ("max_backoff_time", Text.optional (o.maxBackoffTime.map fun n => toString n.toNat)),
     ("jitter", Text.optional (o.jitter.map fun n => toString n.toNat))]

/-- The fields of options; what is unset is left out. -/
def toValue (o : Options) : Value :=
  .object (List.flatten
    [field "keepAlive" (o.keepAlive.map fun n => .nat n.toNat),
     field "cleanSession" (o.cleanSession.map .bool),
     field "username" (o.username.map .str),
     field "password" (o.password.map .str),
     field "enableSslConfig" (o.tls.map .bool),
     field "autoReconnect" (o.autoReconnect.map .bool),
     field "retryCount" (o.retryCount.map fun n => .nat n.toNat),
     field "backoffTime" (o.backoffTime.map fun n => .nat n.toNat),
     field "maxBackoffTime" (o.maxBackoffTime.map fun n => .nat n.toNat),
     field "jitter" (o.jitter.map fun n => .nat n.toNat)])
where
  field (key : String) (v : Option Value) : List (String × Value) :=
    (v.map fun v => (key, v)).toList

/-- The record of options. -/
def record : Record Options :=
  (Record.pure Options.mk).optional "keepAlive" Reader.uint16
    |>.optional "cleanSession" Reader.bool |>.optional "username" Reader.string
    |>.optional "password" Reader.string |>.optional "enableSslConfig" Reader.bool
    |>.optional "autoReconnect" Reader.bool |>.optional "retryCount" Reader.uint32
    |>.optional "backoffTime" Reader.uint64 |>.optional "maxBackoffTime" Reader.uint64
    |>.optional "jitter" Reader.uint64

/-- Reads options. -/
def read : Reader Options := record.read "ConnectionOptions"

end Options

namespace ConnectParameters

/-- The parameters when nothing is set. -/
def standard : ConnectParameters := Options.empty.parameters

/-- The notation of parameters in diagnostics; the password is hidden. -/
def debugText (p : ConnectParameters) : String :=
  Text.record "NativeConnectOptions"
    [("keep_alive", toString p.keepAlive.toNat), ("clean_session", Text.truth p.cleanSession),
     ("username", Text.quoted p.username), ("password", Options.hidden)]

/-- The fields of parameters. -/
def toValue (p : ConnectParameters) : Value :=
  .object [("keepAlive", .nat p.keepAlive.toNat), ("cleanSession", .bool p.cleanSession),
    ("username", .str p.username), ("password", .str p.password)]

/-- The record of parameters. -/
def record : Record ConnectParameters :=
  (Record.pure ConnectParameters.mk).required "keepAlive" Reader.uint16
    |>.required "cleanSession" Reader.bool |>.required "username" Reader.string
    |>.required "password" Reader.string

/-- Reads parameters. -/
def read : Reader ConnectParameters := record.read "NativeConnectOptions"

end ConnectParameters

end MqttRelay
