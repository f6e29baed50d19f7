import MqttRelay.Client.Shared

/-!
# The clock

Tasks run one at a time, in the order in which their turn came, until none is left; then time
may move on, from one due time to the next. Tasks due at the same time get their turns in the
order in which they fell asleep.

Results:
* `settle_of_idle`: with nothing to do nothing is done.
* `advance_now`: the clock stands where it was to be moved.
-/

namespace MqttRelay.Client

/-- What an interceptor decides about an attempt. -/
inductive Verdict where
  /-- It may be made, with overrides of the options or without. -/
  | proceed (overrides : Option Options)
  /-- It is not made: the interceptor failed or panicked. -/
  | fail (panicked : Bool)
  deriving DecidableEq, Inhabited, Repr

/-- What an interceptor answers when it is asked. -/
inductive Advice where
  | decided (v : Verdict)
  /-- It comes back to this question after a delay in milliseconds. -/
  | waiting (delayMs call : Nat)
  deriving DecidableEq, Inhabited, Repr

/-- What clients act through, with the application's interceptors by number. -/
structure Surroundings (N A : Type) extends Outside N A where
  consult : Nat → Option ReasonCode → World N A → World N A × Advice
  /-- Comes back to a question. -/
  resume : Nat → Nat → World N A → World N A × Verdict

namespace Surroundings

variable {N A : Type}

/-- Moves a client by the verdict of its interceptor. -/
def conclude (x : Surroundings N A) (client generation : Nat) (v : Verdict) (w : World N A) :
    World N A :=
  match v with
  | .proceed overrides => x.drive client (.answered generation overrides) w
  | .fail panicked => x.drive client (.failed generation panicked) w

/-- Comes back to a question and moves the client by the verdict. -/
def resumeAndConclude (x : Surroundings N A) (client generation interceptor call : Nat)
    (w : World N A) : World N A :=
  let (w, v) := x.resume interceptor call w
  x.conclude client generation v w

/-- Lets a construction that goes on sleep until its time is up, if it ever is. -/
def watch (p : World N A × Option Nat) : World N A :=
  match p with
  | (w, none) => w
  | (w, some creation) =>
    match w.store.patience with
    | none => w
    | some delayMs => w.update (·.sleep delayMs (.await creation))

/-- Runs a task. -/
def run (x : Surroundings N A) (t : Task) (w : World N A) : World N A :=
  match t with
  | .retry client generation delayMs =>
    if delayMs = 0 then fire client generation w
    else w.update (·.sleep delayMs (.fire client generation))
  | .fire client generation => fire client generation w
  | .consult client generation interceptor reason =>
    match x.consult interceptor reason (w.pin client) with
    | (w, .decided v) => (x.conclude client generation v w).unpin client
    | (w, .waiting 0 call) =>
      (x.resumeAndConclude client generation interceptor call w).unpin client
    | (w, .waiting delayMs call) =>
      (w.update (·.sleep delayMs (.resume client generation interceptor call))).unpin client
  | .resume client generation interceptor call =>
    (x.resumeAndConclude client generation interceptor call (w.pin client)).unpin client
  | .create label config => watch (x.create (.name label) config w)
  | .await creation => w.await creation
  | .setUp shared label config => watch (x.setUp shared label config w)
  | .proceed shared label config => watch (x.proceed shared label config w)
where
  fire (client generation : Nat) (w : World N A) : World N A :=
    if w.isHeld client then x.drive client (.fired generation) w else w

/-- Runs tasks until none is left; at most `fuel` of them. -/
def settle (x : Surroundings N A) : (fuel : Nat) → World N A → World N A
  | 0, w => w
  | fuel + 1, w =>
    match w.store.ready with
    | [] => w
    | t :: ts => settle x fuel (x.run t (w.update fun s => { s with ready := ts }))

/-- Wakes the tasks whose time has come. -/
def wakeDue (w : World N A) : World N A :=
  w.update fun s =>
    { s with
      ready := s.ready ++ (s.sleeping.filter (·.1 ≤ s.now)).map (·.2)
      sleeping := s.sleeping.filter fun p => !(p.1 ≤ s.now) }

/-- Moves the clock on to a time, stopping at every time at which a task is due, and runs what
is due there; at most `fuel` stops. -/
def advance (x : Surroundings N A) (target : Nat) : (fuel : Nat) → World N A → World N A
  | 0, w => w.update fun s => { s with now := target }
  | fuel + 1, w =>
    match w.store.sleeping with
    | (due, _) :: _ =>
      if due ≤ target then
        advance x target fuel
          (x.settle (fuel + 1) (wakeDue (w.update fun s => { s with now := max s.now due })))
      else w.update fun s => { s with now := target }
    | [] => w.update fun s => { s with now := target }

/-- With nothing to do nothing is done. -/
theorem settle_of_idle (x : Surroundings N A) (fuel : Nat) (w : World N A)
    (h : w.store.ready = []) : x.settle fuel w = w := by
  cases fuel with
  | zero => rfl
  | succ fuel => simp [settle, h]

/-- The clock stands where it was to be moved. -/
theorem advance_now (x : Surroundings N A) (target fuel : Nat) (w : World N A) :
    (x.advance target fuel w).store.now = target := by
  induction fuel generalizing w with
  | zero => rfl
  | succ fuel ih =>
    unfold advance
    split
    · split
      · exact ih _
      · rfl
    · rfl

end Surroundings

end MqttRelay.Client
