import MqttRelay.Client.System
import MqttRelay.Native.Recorder

/-!
# Steps of a scenario

A scenario is a program of operations on clients, on the recording native layer and on the
clock. Callbacks and interceptors run programs of their own, so that operations nest.

Results:
* `weights_append`: the turns of programs run one after the other add up.
-/

namespace MqttRelay.Scenario

open Client (Config Interest)

/-- What an interceptor does at one call: a program at once, then a delay if there is one, a
second program, and its verdict. -/
structure Plan (S : Type) where
  first : List S := []
  /-- Whether it panics before the delay. -/
  panicsEarly : Bool := false
  delayMs : Option Nat := none
  second : List S := []
  /-- Whether it panics after the delay. -/
  panicsLate : Bool := false
  fails : Bool := false
  overrides : Option Options := none
  deriving Inhabited

/-- What a subscription asks for, with the programs of its callbacks: one for messages and one
for its grant and its refusal. Each callback has turns of its own. -/
structure Wish (S : Type) where
  label : String
  topic : String
  qos : Qos
  wantsGrant : Bool := true
  wantsRefusal : Bool := true
  onMessage : List S := []
  onOutcome : List S := []
  turns : Nat := 1
  /-- Whether the callbacks for messages, grants and refusals panic. -/
  panics : Bool × Bool × Bool := (false, false, false)
  deriving Inhabited

/-- A callback on a client, with its program. -/
structure Watch (S : Type) where
  label : String
  interest : Interest
  program : List S := []
  turns : Nat := 1
  panics : Bool := false
  deriving Inhabited

/-- One step of a scenario. Clients, callbacks and subscriptions go by names. -/
inductive Step where
  | create (label : String) (config : Config)
  | connect (client : String) (overrides : Option Options)
  | disconnect (client : String)
  | remove (client : String)
  /-- Lets go of a client. -/
  | drop (client : String)
  | info (client : String)
  | on (client : String) (watch : Watch Step)
  | intercept (client label : String) (plan : List (Plan Step))
  /-- Removes a callback or an interceptor. -/
  | off (label : String)
  | subscribe (client : String) (wish : Wish Step)
  | unsubscribe (label : String)
  /-- Delivers an event by its flat name. -/
  | emit (event : String) (payload : Event.Payload)
  /-- Delivers an event of a subscription. -/
  | emitOf (subscription : String) (kind : Event.Kind) (payload : Event.Payload)
  | connected (clientId : String)
  | disconnected (clientId : String) (reason : ReasonCode)
  | initialized (clientId : String) (ready : Bool)
  | failure (clientId : String) (event : Event.Failure)
  | message (subscription topic payload : String) (qos : Qos)
  | publish (clientId topic payload : String) (qos : Qos)
  | granted (subscription topic : String) (qos : Qos)
  | notGranted (subscription message : String)
  | removeAll (event : String)
  | count (event : String)
  /-- Makes an operation of the native layer fail. -/
  | fail (operation : Native.Operation)
  | restore (operation : Native.Operation)
  | behave (behavior : Native.Behavior)
  /-- Reports the requests so far, after forgetting them if asked to. -/
  | calls (clear : Bool)
  | broker (clientId topic : String)
  | request (r : Native.Request)
  | status (clientId : String)
  | metrics
  | newShared
  | setUpShared (label : String) (config : Config)
  | connectShared (overrides : Option Options)
  | disconnectShared
  | removeShared
  | subscribeShared (wish : Wish Step)
  | sharedInfo
  | onShared (watch : Watch Step)
  | dropShared
  /-- Moves the clock on; at the outside only. -/
  | advance (ms : Nat)
  deriving Inhabited

/-- The name of a step. -/
def Step.name : Step → String
  | .create .. => "create"
  | .connect .. => "connect"
  | .disconnect _ => "disconnect"
  | .remove _ => "remove"
  | .drop _ => "drop"
  | .info _ => "info"
  | .on .. => "on"
  | .intercept .. => "interceptor"
  | .off _ => "off"
  | .subscribe .. => "subscribe"
  | .unsubscribe _ => "unsubscribe"
  | .emit .. => "emit"
  | .emitOf .. => "emit_sub"
  | .connected _ => "connected"
  | .disconnected .. => "disconnected"
  | .initialized .. => "initialized"
  | .failure .. => "error"
  | .message .. => "message"
  | .publish .. => "publish"
  | .granted .. => "sub_success"
  | .notGranted .. => "sub_failed"
  | .removeAll _ => "remove_all"
  | .count _ => "count"
  | .fail _ => "native_fail"
  | .restore _ => "native_restore"
  | .behave _ => "behavior"
  | .calls _ => "calls"
  | .broker .. => "broker"
  | .request _ => "native_call"
  | .status _ => "native_call"
  | .metrics => "metrics"
  | .newShared => "shared_new"
  | .setUpShared .. => "shared_init"
  | .connectShared _ => "shared_connect"
  | .disconnectShared => "shared_disconnect"
  | .removeShared => "shared_remove"
  | .subscribeShared _ => "shared_subscribe"
  | .sharedInfo => "shared_info"
  | .onShared _ => "shared_on"
  | .dropShared => "shared_drop"
  | .advance _ => "advance"

/-! ## Turns -/

mutual

/-- The turns that a step can ever hand out to callbacks. -/
def Step.weight : Step → Nat
  | .on _ ⟨_, _, program, turns, _⟩ => turns * (1 + weights program)
  | .onShared ⟨_, _, program, turns, _⟩ => turns * (1 + weights program)
  | .subscribe _ ⟨_, _, _, _, _, onMessage, onOutcome, turns, _⟩ =>
    turns * (1 + weights onMessage) + 2 * (turns * (1 + weights onOutcome))
  | .subscribeShared ⟨_, _, _, _, _, onMessage, onOutcome, turns, _⟩ =>
    turns * (1 + weights onMessage) + 2 * (turns * (1 + weights onOutcome))
  | _ => 0

/-- The turns that the steps of a program can ever hand out to callbacks. -/
def weights : List Step → Nat
  | [] => 0
  | s :: ss => s.weight + weights ss

end

/-- The turns of programs run one after the other add up. -/
theorem weights_append (a b : List Step) : weights (a ++ b) = weights a + weights b := by
  induction a with
  | nil => simp [weights]
  | cons s ss ih => simp [weights, ih, Nat.add_assoc]

end MqttRelay.Scenario
