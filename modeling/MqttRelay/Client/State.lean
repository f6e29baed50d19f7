import MqttRelay.Metrics
import MqttRelay.ReasonCode
import MqttRelay.Retry.Policy
import MqttRelay.Status

/-!
# The state of a client

A client's status, options and reconnection, moved by inputs: requests of the application,
events of the native layer, fired timers and answers of the interceptor. Each input is one
uninterrupted stretch of work. What it does beside moving the state comes back in order:
effects that touch nobody, and at most one thing to ask of the outside. A cycle of
reconnection carries a generation, and whatever was started under an earlier generation finds
itself superseded.

Results:
* `endCycle_generation`: ending a cycle supersedes everything started in it.
* `step_of_removed`: a removed client asks nothing of the outside and schedules nothing.
-/

namespace MqttRelay.Client

/-- Whence a connect request comes. -/
inductive Origin where
  | application
  | retry
  deriving DecidableEq, Inhabited, Repr

/-- Where a client stands with reconnection. -/
structure RetryState where
  /-- The attempts made in the current cycle. -/
  count : UInt32 := 0
  /-- Whether a timer is running. -/
  timer : Bool := false
  /-- What is started belongs to a generation; every cancellation begins a new one. -/
  generation : Nat := 0
  /-- The reason of the latest end of a connection. -/
  reason : Option ReasonCode := none
  /-- Whether a cycle is open; a lost connection opens one. -/
  inCycle : Bool := false
  deriving DecidableEq, Inhabited, Repr

/-- The latest end of a connection: the status it arrived in and its reason. -/
structure Ending where
  before : Status
  reason : ReasonCode
  deriving DecidableEq, Inhabited, Repr

/-- The state of a client, with interceptors of type `I`. -/
structure State (I : Type) where
  options : Options
  status : Status := .disconnected
  retry : RetryState := {}
  /-- The installed interceptor and the number of its installation. -/
  interceptor : Option (Nat × I) := none
  lastEnding : Option Ending := none
  removed : Bool := false
  random : Retry.Random := .middle
  deriving Inhabited

/-- What moves a client. -/
inductive Input where
  /-- The application asks for a connection, with overrides of the options or without. -/
  | connect (overrides : Option Options)
  /-- The application asks for the end of the connection. -/
  | disconnect
  /-- The application gives the client up. -/
  | remove
  /-- The native layer refused a connect request. -/
  | refused (origin : Origin)
  /-- A connection was acknowledged. -/
  | acknowledged
  /-- A connection or an attempt ended. -/
  | ended (reason : ReasonCode)
  /-- The timer of a generation fired. -/
  | fired (generation : Nat)
  /-- The interceptor of a generation's attempt answered, with overrides or without. -/
  | answered (generation : Nat) (overrides : Option Options)
  /-- The interceptor of a generation's attempt failed, or panicked. -/
  | failed (generation : Nat) (panicked : Bool)
  deriving DecidableEq, Inhabited, Repr

/-- What a step does beside moving the state. -/
inductive Effect where
  /-- To count an occurrence. -/
  | count (o : Metrics.Occurrence)
  /-- To fire a timer of this generation after a delay in milliseconds. -/
  | schedule (generation : Nat) (delayMs : Nat)
  deriving DecidableEq, Inhabited, Repr

/-- What a step asks of the outside at its end, with interceptors of type `I`. -/
inductive Ask (I : Type) where
  /-- To send a connect request. -/
  | connect (parameters : ConnectParameters) (origin : Origin)
  /-- To send a disconnect request. -/
  | disconnect
  /-- To ask the interceptor before an attempt of this generation. -/
  | consult (interceptor : I) (reason : Option ReasonCode) (generation : Nat)
  deriving Inhabited

/-- A step's result: the state after it, its effects, and what it asks. -/
structure Move (I : Type) where
  state : State I
  effects : List Effect := []
  ask : Option (Ask I) := none
  deriving Inhabited

namespace RetryState

/-- Stops the timer and supersedes whatever was started. -/
def cancelTimer (r : RetryState) : RetryState :=
  { r with timer := false, generation := r.generation + 1 }

/-- Ends the cycle. -/
def endCycle (r : RetryState) : RetryState := { r.cancelTimer with inCycle := false }

@[simp] theorem endCycle_generation (r : RetryState) :
    r.endCycle.generation = r.generation + 1 := rfl

@[simp] theorem endCycle_timer (r : RetryState) : r.endCycle.timer = false := rfl

@[simp] theorem endCycle_inCycle (r : RetryState) : r.endCycle.inCycle = false := rfl

end RetryState

namespace State

variable {I : Type}

/-- Ends the client's cycle of reconnection. -/
def endCycle (s : State I) : State I := { s with retry := s.retry.endCycle }

/-- Sends a connect request, if the status still is connecting. -/
def issue (s : State I) (origin : Origin) : Move I :=
  if s.removed || !s.status.mayConnect then { state := s }
  else
    { state := s
      effects := [.count .attempted]
      ask := some (.connect s.options.parameters origin) }

/-- Schedules the next attempt of the open cycle, or ends the cycle. Without a runtime nothing
can be scheduled and the cycle is given up. -/
def plan (runtime : Bool) (s : State I) : State I × List Effect :=
  let policy := Retry.Policy.ofOptions s.options
  match Retry.decide s.retry.count policy with
  | .proceed attempt =>
    let (delay, random) := policy.drawDelay attempt s.random
    let retry := { s.retry.cancelTimer with count := attempt }
    if runtime then
      ({ s with retry := { retry with timer := true }, random := random },
        [.schedule retry.generation delay.toNat, .count .retryScheduled])
    else
      ({ s with retry := { retry with inCycle := false }, random := random },
        [.count .cycleAbandoned])
  | .exhausted => (s.endCycle, [.count .cycleAbandoned])
  | .disabled => (s.endCycle, [])

/-- A requested connection: it ends any cycle and starts counting anew. -/
def connect (overrides : Option Options) (s : State I) : Move I :=
  if s.removed then { state := s }
  else
    let s := { s with
      retry := { s.retry.endCycle with count := 0 }
      status := .connecting
      options := s.options.mergeOpt overrides }
    s.issue .application

/-- A requested end of the connection. -/
def disconnect (s : State I) : Move I :=
  if s.removed then { state := s }
  else { state := { s.endCycle with status := .disconnected }, ask := some .disconnect }

/-- The end of the client. -/
def remove (s : State I) : State I :=
  { s.endCycle with status := .disconnected, interceptor := none, removed := true }

/-- A refused connect request: a retry takes its cycle with it. -/
def refused (origin : Origin) (s : State I) : State I × List Effect :=
  if origin = .retry ∧ s.retry.inCycle then
    (s.endCycle, [.count .connectFailed, .count .cycleAbandoned])
  else (s, [.count .connectFailed])

/-- An acknowledged connection; it counts only while connecting. -/
def acknowledged (s : State I) : State I × List Effect :=
  if s.removed then (s, [])
  else
    match s.status.afterConnected with
    | some status =>
      ({ s with status := status, retry := { s.retry.endCycle with count := 0, reason := none } },
        [.count .connected])
    | none => (s, [])

/-- The end of a connection or of an attempt. A lost connection opens a cycle if reconnection
is on. A failed attempt goes on with an open cycle, unless its next attempt is already
scheduled: one failure reported twice uses up no attempt. -/
def ended (runtime : Bool) (reason : ReasonCode) (s : State I) : State I × List Effect :=
  if s.removed then (s, [])
  else
    let before := s.status
    let s := { s with
      lastEnding := some ⟨before, reason⟩
      retry := { s.retry with reason := some reason }
      status := before.afterDisconnected }
    match Disconnect.kind before with
    | .connectionLost =>
      if s.options.reconnects then
        let (s, effects) := plan runtime { s with retry := { s.retry with inCycle := true } }
        (s, .count .connectionLost :: effects)
      else (s, [.count .connectionLost])
    | .connectFailed =>
      if s.retry.inCycle && !s.retry.timer then
        let (s, effects) := plan runtime s
        (s, .count .connectFailed :: effects)
      else (s, [.count .connectFailed])
    | .afterDisconnect => (s, [])

/-- Makes the attempt of a generation, unless it was superseded. -/
def answered (generation : Nat) (overrides : Option Options) (s : State I) :
    Move I :=
  if s.removed || s.retry.generation != generation then { state := s }
  else
    let s := { s with options := s.options.mergeOpt overrides, status := .connecting }
    s.issue .retry

/-- A fired timer: the interceptor is asked if there is one, and the attempt made if not. -/
def fired (generation : Nat) (s : State I) : Move I :=
  if s.removed || s.retry.generation != generation then { state := s }
  else
    let s := { s with retry := { s.retry with timer := false } }
    if s.status = .connected then { state := { s with retry := { s.retry with inCycle := false } } }
    else
      match s.interceptor with
      | some (_, i) => { state := s, ask := some (.consult i s.retry.reason generation) }
      | none => s.answered generation none

/-- A failed interceptor gives the cycle of its generation up. -/
def failed (generation : Nat) (panicked : Bool) (s : State I) : State I × List Effect :=
  (if s.retry.generation = generation then { s with retry := { s.retry with inCycle := false } }
    else s,
    (if panicked then [.count .panicked] else []) ++ [.count .cycleAbandoned])

/-- A result that asks nothing. -/
def quiet (r : State I × List Effect) : Move I := { state := r.1, effects := r.2 }

/-- One step of a client. -/
def step (runtime : Bool) (input : Input) (s : State I) : Move I :=
  match input with
  | .connect overrides => s.connect overrides
  | .disconnect => s.disconnect
  | .remove => { state := s.remove }
  | .refused origin => quiet (s.refused origin)
  | .acknowledged => quiet s.acknowledged
  | .ended reason => quiet (s.ended runtime reason)
  | .fired generation => s.fired generation
  | .answered generation overrides => s.answered generation overrides
  | .failed generation panicked => quiet (s.failed generation panicked)

/-- A run of a client: the state at its end, and every step's result in order. -/
def run (runtime : Bool) : List Input → State I → State I × List (Move I)
  | [], s => (s, [])
  | i :: is, s =>
    let move := s.step runtime i
    let (last, moves) := run runtime is move.state
    (last, move :: moves)

/-- Installs an interceptor under a number. -/
def install (number : Nat) (interceptor : I) (s : State I) : State I :=
  { s with interceptor := some (number, interceptor) }

/-- Takes the interceptor of a number out, unless a later one replaced it. -/
def uninstall (number : Nat) (s : State I) : State I :=
  match s.interceptor with
  | some (n, _) => if n = number then { s with interceptor := none } else s
  | none => s

/-- A removed client asks nothing of the outside and schedules nothing. -/
theorem step_of_removed (runtime : Bool) (input : Input) (s : State I) (h : s.removed = true) :
    (s.step runtime input).ask.isNone = true ∧
      ∀ e ∈ (s.step runtime input).effects, ∃ o, e = .count o := by
  cases input with
  | refused origin =>
    refine ⟨rfl, fun e he => ?_⟩
    simp only [step, quiet, refused] at he
    split at he <;> simp at he
    · rcases he with rfl | rfl
      · exact ⟨_, rfl⟩
      · exact ⟨_, rfl⟩
    · exact ⟨_, he⟩
  | failed generation panicked =>
    refine ⟨rfl, fun e he => ?_⟩
    simp only [step, quiet, failed] at he
    cases panicked <;> simp at he
    · exact ⟨_, he⟩
    · rcases he with rfl | rfl
      · exact ⟨_, rfl⟩
      · exact ⟨_, rfl⟩
  | _ => simp [step, quiet, connect, disconnect, acknowledged, ended, fired, answered, h]

end State

end MqttRelay.Client
