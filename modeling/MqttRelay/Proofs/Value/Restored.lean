import MqttRelay.Client.Config
import MqttRelay.Event.Notice
import MqttRelay.Proofs.Value.Record

/-!
# What is written is read back

Typed data are written as the fields of an object, and what is unset is left out. Reading takes what
is absent for unset, or for a default, so that a written field and the column that reads it have to
agree on the key, the type and the default. Here this is said of one column at a time, and of a
record by the list of its columns.

* `Undoes` — a reader gives back what is written, which is never null.
* `Restores` — a reader gives back what is written as an object, and passes over all other keys.

Results:
* `Record.readWith_present`: fields that are present and fit a record are read as its data.
* `Record.restores`: a record whose columns fit what is written restores it.
* `Event.all_restored`: every event, and all options, parameters, identities and configurations
  are restored.
-/

namespace MqttRelay

variable {α β : Type}

/-! ## One value -/

/-- A reader gives back what is written. What is written is not null, which would be read as
absent. -/
def Reader.Undoes (read : Reader β) (write : β → Value) : Prop :=
  ∀ b, write b ≠ .null ∧ read (write b) = .ok b

namespace Reader

theorem string_undoes : string.Undoes .str := fun _ => ⟨nofun, rfl⟩

theorem bool_undoes : bool.Undoes .bool := fun _ => ⟨nofun, rfl⟩

/-- A natural number below a bound is read as a number up to it. -/
theorem int_nat {n : Nat} {high : Int} (h : n ≤ high) (wanted : String) :
    int 0 high wanted (.nat n) = .ok (n : Int) :=
  int_of_mem ⟨by omega, h⟩ wanted

theorem uint16_undoes : uint16.Undoes fun n => .nat n.toNat := by
  intro n
  have hn := n.toNat_lt
  refine ⟨nofun, ?_⟩
  rw [uint16, int_nat (by omega)]
  simp [Except.map]

theorem uint32_undoes : uint32.Undoes fun n => .nat n.toNat := by
  intro n
  have hn := n.toNat_lt
  refine ⟨nofun, ?_⟩
  rw [uint32, int_nat (by omega)]
  simp [Except.map]

theorem uint64_undoes : uint64.Undoes fun n => .nat n.toNat := by
  intro n
  have hn := n.toNat_lt
  refine ⟨nofun, ?_⟩
  rw [uint64, int_nat (by omega)]
  simp [Except.map]

end Reader

theorem ReasonCode.read_undoes : ReasonCode.read.Undoes ReasonCode.toValue :=
  fun r => ⟨nofun, r.read_toValue⟩

theorem Qos.read_undoes : Qos.read.Undoes Qos.toValue := fun q => ⟨nofun, q.read_toValue⟩

/-! ## Objects -/

/-- A reader gives back what is written as an object, and a key that is none of the given ones
makes no difference to it, whatever the object holds. -/
structure Restores (keys : List String) (write : α → Value) (read : Reader α) : Prop where
  restored : ∀ a, read (write a) = .ok a
  isObject : ∀ a, ∃ fields, write a = .obj fields
  ignored : ∀ key, key ∉ keys → ∀ v fields,
    read (.obj (Assoc.insert key v fields)) = read (.obj fields)

/-- The value of a key among fields of which some may be absent. -/
theorem Event.get?_present {pairs : List (String × Option Value)} (h : (pairs.map (·.1)).Nodup)
    (key : String) : Assoc.get? (present pairs) key = (Assoc.get? pairs key).join := by
  induction pairs with
  | nil => rfl
  | cons p pairs ih =>
    obtain ⟨hp, hpairs⟩ := List.nodup_cons.1 h
    obtain ⟨other, o⟩ := p
    rw [Assoc.get?_cons]
    by_cases hkey : other = key
    · rw [if_pos hkey]
      cases o with
      | some v => exact (Assoc.get?_cons (other, v) _ key).trans (if_pos hkey)
      | none =>
        have habsent : Assoc.get? pairs key = none := Assoc.get?_eq_none_of_notMem (hkey ▸ hp)
        exact (ih hpairs).trans (by rw [habsent]; rfl)
    · rw [if_neg hkey, ← ih hpairs]
      cases o with
      | some v => exact (Assoc.get?_cons (other, v) _ key).trans (if_neg hkey)
      | none => rfl

theorem Event.keys_present_sublist (pairs : List (String × Option Value)) :
    ((present pairs).map (·.1)).Sublist (pairs.map (·.1)) := by
  induction pairs with
  | nil => exact List.Sublist.refl []
  | cons p pairs ih =>
    obtain ⟨key, o⟩ := p
    cases o with
    | some v => exact ih.cons_cons key
    | none => exact ih.cons key

open Event (present get?_present keys_present_sublist)

/-- A record is read from the fields that are present, if they fit it. -/
theorem Record.readWith_present {r : Record α} {keys : List String} (hnodup : keys.Nodup)
    (hkeys : r.columns.map (·.key) = keys)
    {pairs : List (String × Option Value)} (hpairs : pairs.map (·.1) = keys) {a : α}
    (h : r.Reads (fun key => (Assoc.get? pairs key).join) a) (surplus : Surplus) (name : String) :
    r.readWith surplus name (.object (present pairs)) = .ok a := by
  have hpresent : (pairs.map (·.1)).Nodup := hpairs ▸ hnodup
  have hvalues : Assoc.get? (Assoc.ofList (present pairs)) =
      fun key => (Assoc.get? pairs key).join := by
    funext key
    rw [Assoc.get?_ofList (hpresent.sublist (keys_present_sublist _)), get?_present hpresent]
  refine (readWith_obj_eq_ok_iff_fits (hkeys ▸ hnodup) (.ofList _) surplus name a).2 ?_
  rw [hvalues]
  exact h.toFits

/-- A record restores what is written field by field under the keys of its columns, if the fields
that are present fit them. -/
theorem Record.restores [Inhabited α] (pairs : α → List (String × Option Value)) {r : Record α}
    {name : String} {read : Reader α} (hread : read = r.read name) {write : α → Value}
    (hwrite : ∀ a, write a = .object (present (pairs a))) {keys : List String}
    (hkeys : r.columns.map (·.key) = keys) (hnodup : keys.Nodup)
    (hpairs : ∀ a, (pairs a).map (·.1) = keys)
    (hreads : ∀ a, r.Reads (fun key => (Assoc.get? (pairs a) key).join) a) :
    Restores keys write read where
  restored a := by
    rw [hread, hwrite]
    exact readWith_present hnodup hkeys (hpairs a) (hreads a) .refused name
  isObject a := ⟨_, hwrite a⟩
  ignored key hkey v fields := by
    rw [hread]
    exact readWith_insert (hreads default).toReadsColumns (hkeys ▸ hkey) .refused name v fields

/-! ## Options, parameters, identities and configurations -/

/-- The fields of options, of which those that are unset are left out. -/
def Options.pairs (o : Options) : List (String × Option Value) :=
  [("keepAlive", o.keepAlive.map fun n => .nat n.toNat),
    ("cleanSession", o.cleanSession.map .bool), ("username", o.username.map .str),
    ("password", o.password.map .str), ("enableSslConfig", o.tls.map .bool),
    ("autoReconnect", o.autoReconnect.map .bool),
    ("retryCount", o.retryCount.map fun n => .nat n.toNat),
    ("backoffTime", o.backoffTime.map fun n => .nat n.toNat),
    ("maxBackoffTime", o.maxBackoffTime.map fun n => .nat n.toNat),
    ("jitter", o.jitter.map fun n => .nat n.toNat)]

theorem Options.toValue_eq (o : Options) : o.toValue = .object (present o.pairs) := by
  rw [present, List.filterMap_eq_flatMap_toList]
  rfl

theorem Options.restores :
    Restores ["keepAlive", "cleanSession", "username", "password", "enableSslConfig",
      "autoReconnect", "retryCount", "backoffTime", "maxBackoffTime", "jitter"]
      Options.toValue Options.read := by
  refine Record.restores Options.pairs rfl Options.toValue_eq rfl (by decide) (fun _ => rfl) ?_
  intro o
  exact Record.Reads.pure Options.mk |>.optional rfl Reader.uint16_undoes
    |>.optional rfl Reader.bool_undoes |>.optional rfl Reader.string_undoes
    |>.optional rfl Reader.string_undoes |>.optional rfl Reader.bool_undoes
    |>.optional rfl Reader.bool_undoes |>.optional rfl Reader.uint32_undoes
    |>.optional rfl Reader.uint64_undoes |>.optional rfl Reader.uint64_undoes
    |>.optional rfl Reader.uint64_undoes

theorem ConnectParameters.restores :
    Restores ["keepAlive", "cleanSession", "username", "password"] ConnectParameters.toValue
      ConnectParameters.read := by
  refine Record.restores (fun p : ConnectParameters =>
    [("keepAlive", some (.nat p.keepAlive.toNat)), ("cleanSession", some (.bool p.cleanSession)),
     ("username", some (.str p.username)), ("password", some (.str p.password))])
    rfl (fun _ => rfl) rfl (by decide) (fun _ => rfl) ?_
  intro p
  exact Record.Reads.pure ConnectParameters.mk
    |>.required rfl (Reader.uint16_undoes p.keepAlive).2 |>.required rfl rfl
    |>.required rfl rfl |>.required rfl rfl

theorem Identity.restores :
    Restores ["clientId", "host", "port"] Identity.toValue Identity.read := by
  refine Record.restores (fun i : Identity => [("clientId", some (.str i.clientId)),
    ("host", some (.str i.host)), ("port", some (.nat i.port.toNat))])
    rfl (fun _ => rfl) rfl (by decide) (fun _ => rfl) ?_
  intro i
  exact Record.Reads.pure Identity.mk |>.required rfl rfl |>.required rfl rfl
    |>.required rfl (Reader.uint16_undoes i.port).2

theorem Client.Config.restores :
    Restores ["clientId", "host", "port", "options"] Client.Config.toValue Client.Config.read := by
  refine Record.restores (fun c : Client.Config => [("clientId", some (.str c.clientId)),
    ("host", some (.str c.host)), ("port", some (.nat c.port.toNat)),
    ("options", some c.options.toValue)])
    rfl (fun _ => rfl) rfl (by decide) (fun _ => rfl) ?_
  intro c
  exact Record.Reads.pure Client.Config.mk |>.required rfl rfl |>.required rfl rfl
    |>.required rfl (Reader.uint16_undoes c.port).2
    |>.withDefault rfl (Options.restores.restored c.options) _

/-! ## Events -/

namespace Event

/-- A reader gives back the event that a payload was made from, and a key that is none of the given
ones makes no difference to it, whatever the payload holds. -/
structure Restores (keys : List String) (payload : α → Payload) (read : Reader α) : Prop where
  restored : ∀ e, (payload e).decode read = .ok e
  ignored : ∀ key, key ∉ keys → ∀ v (p : Payload), (p.insert key v).decode read = p.decode read

theorem Restores.of {keys : List String} {payload : α → Payload} {read : Reader α}
    (h : MqttRelay.Restores keys (fun e => (payload e).toValue) read) :
    Restores keys payload read where
  restored := h.restored
  ignored key hkey v p := h.ignored key hkey v p.fields

theorem Initialized.restores : Restores ["clientInit"] Initialized.payload Initialized.read := by
  refine .of (Record.restores (fun e : Initialized => [("clientInit", some (.bool e.ready))])
    rfl (fun _ => rfl) rfl (by decide) (fun _ => rfl) ?_)
  intro e
  exact Record.Reads.pure Initialized.mk |>.withDefault rfl rfl _

theorem Connected.restores : Restores ["reasonCode"] Connected.payload Connected.read := by
  refine .of (Record.restores (fun e : Connected => [("reasonCode", some e.reason.toValue)])
    rfl (fun _ => rfl) rfl (by decide) (fun _ => rfl) ?_)
  intro e
  exact Record.Reads.pure Connected.mk |>.withDefault rfl e.reason.read_toValue _

theorem Disconnected.restores :
    Restores ["reasonCode", "errorMessage"] Disconnected.payload Disconnected.read := by
  refine .of (Record.restores (fun e : Disconnected => [("reasonCode", some e.reason.toValue),
    ("errorMessage", e.message.map .str)])
    rfl (fun _ => rfl) rfl (by decide) (fun _ => rfl) ?_)
  intro e
  exact Record.Reads.pure Disconnected.mk |>.withDefault rfl e.reason.read_toValue _
    |>.optional rfl Reader.string_undoes

theorem Failure.restores :
    Restores ["errorMessage", "errorType", "reasonCode", "errorCause", "topic", "clientInit",
      "clientConnected", "clientDisconnected", "clientSubscribed", "clientUnsubscribed"]
      Failure.payload Failure.read := by
  refine .of (Record.restores (fun e : Failure =>
    [("errorMessage", some (.str e.message)), ("errorType", e.operation.map .str),
     ("reasonCode", some e.reason.toValue), ("errorCause", e.cause.map .str),
     ("topic", e.topic.map .str), ("clientInit", e.initialized.map .bool),
     ("clientConnected", e.connected.map .bool),
     ("clientDisconnected", e.disconnected.map .bool),
     ("clientSubscribed", e.subscribed.map .bool),
     ("clientUnsubscribed", e.unsubscribed.map .bool)])
    rfl (fun _ => rfl) rfl (by decide) (fun _ => rfl) ?_)
  intro e
  exact Record.Reads.pure Failure.mk |>.withDefault rfl rfl _
    |>.optional rfl Reader.string_undoes |>.withDefault rfl e.reason.read_toValue _
    |>.optional rfl Reader.string_undoes |>.optional rfl Reader.string_undoes
    |>.optional rfl Reader.bool_undoes |>.optional rfl Reader.bool_undoes
    |>.optional rfl Reader.bool_undoes |>.optional rfl Reader.bool_undoes
    |>.optional rfl Reader.bool_undoes

theorem Message.restores :
    Restores ["payload", "topic", "qos"] Message.payload Message.read := by
  refine .of (Record.restores (fun e : Message => [("payload", some (.str e.payloadText)),
    ("topic", some (.str e.topic)), ("qos", some e.qos.toValue)])
    rfl (fun _ => rfl) rfl (by decide) (fun _ => rfl) ?_)
  intro e
  exact Record.Reads.pure Message.mk |>.required rfl rfl |>.required rfl rfl
    |>.required rfl e.qos.read_toValue

theorem Subscribed.restores :
    Restores ["message", "topic", "qos"] Subscribed.payload Subscribed.read := by
  refine .of (Record.restores (fun e : Subscribed => [("message", some (.str e.message)),
    ("topic", some (.str e.topic)), ("qos", some e.qos.toValue)])
    rfl (fun _ => rfl) rfl (by decide) (fun _ => rfl) ?_)
  intro e
  exact Record.Reads.pure Subscribed.mk |>.withDefault rfl rfl _ |>.required rfl rfl
    |>.required rfl e.qos.read_toValue

theorem SubscribeFailed.restores :
    Restores ["errorMessage", "topic", "reasonCode"] SubscribeFailed.payload
      SubscribeFailed.read := by
  refine .of (Record.restores (fun e : SubscribeFailed => [("errorMessage", some (.str e.message)),
    ("topic", e.topic.map .str), ("reasonCode", e.reason.map ReasonCode.toValue)])
    rfl (fun _ => rfl) rfl (by decide) (fun _ => rfl) ?_)
  intro e
  exact Record.Reads.pure SubscribeFailed.mk |>.withDefault rfl rfl _
    |>.optional rfl Reader.string_undoes |>.optional rfl ReasonCode.read_undoes

/-- Every event is read back from its payload, and options, parameters, identities and
configurations from what is written for them. A key that is none of the columns makes no
difference. -/
theorem all_restored :
    (Restores ["clientInit"] Initialized.payload Initialized.read ∧
      Restores ["reasonCode"] Connected.payload Connected.read ∧
      Restores ["reasonCode", "errorMessage"] Disconnected.payload Disconnected.read ∧
      Restores ["errorMessage", "errorType", "reasonCode", "errorCause", "topic", "clientInit",
        "clientConnected", "clientDisconnected", "clientSubscribed", "clientUnsubscribed"]
        Failure.payload Failure.read ∧
      Restores ["payload", "topic", "qos"] Message.payload Message.read ∧
      Restores ["message", "topic", "qos"] Subscribed.payload Subscribed.read ∧
      Restores ["errorMessage", "topic", "reasonCode"] SubscribeFailed.payload
        SubscribeFailed.read) ∧
    MqttRelay.Restores ["keepAlive", "cleanSession", "username", "password", "enableSslConfig",
      "autoReconnect", "retryCount", "backoffTime", "maxBackoffTime", "jitter"]
      Options.toValue Options.read ∧
    MqttRelay.Restores ["keepAlive", "cleanSession", "username", "password"]
      ConnectParameters.toValue ConnectParameters.read ∧
    MqttRelay.Restores ["clientId", "host", "port"] Identity.toValue Identity.read ∧
    MqttRelay.Restores ["clientId", "host", "port", "options"] Client.Config.toValue
      Client.Config.read :=
  ⟨⟨Initialized.restores, Connected.restores, Disconnected.restores, Failure.restores,
      Message.restores, Subscribed.restores, SubscribeFailed.restores⟩,
    Options.restores, ConnectParameters.restores, Identity.restores, Client.Config.restores⟩

end Event

end MqttRelay
