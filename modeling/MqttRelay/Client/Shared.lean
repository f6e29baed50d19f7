import MqttRelay.Client.Creation

/-!
# A shared client

At most one client at a time, made when it is first needed and made anew when another
configuration is asked for. Callbacks may be registered before there is a client; they wait
and are attached to the next one. Initializations run one after another.

Results:
* `pending_register`: a callback waits exactly when there is no client.
-/

namespace MqttRelay.Client

variable {N A : Type}

/-- The number of callbacks that wait for a client. -/
def Shared.pending (h : Shared) : Nat :=
  h.registrations.countP fun r => r.2 matches .queued ..

namespace World

/-- A shared client. -/
def shared? (w : World N A) (shared : Nat) : Option Shared := w.store.shareds[shared]?

/-- The client that a shared client holds. -/
def sharedClient? (w : World N A) (shared : Nat) : Option Nat :=
  (w.shared? shared).bind (·.client)

/-- Makes the application a new shared client. -/
def newShared (w : World N A) : World N A :=
  w.update fun s => { s with shareds := s.shareds ++ [{}], shared := some s.shareds.length }

/-- Ends an initialization; the next one that waits has its turn. -/
def unlock (shared : Nat) (w : World N A) : World N A :=
  match w.shared? shared with
  | none => w
  | some h =>
    match h.waiting with
    | [] => w.update (·.modifyShared shared fun h => { h with locked := false })
    | (label, config) :: rest =>
      w.update fun s =>
        (s.modifyShared shared fun h => { h with waiting := rest }).enqueue
          (.proceed shared label config)

/-- Attaches the callbacks that wait to a client, in order of registration. -/
def attachQueued (shared client : Nat) (w : World N A) : World N A :=
  match w.shared? shared with
  | none => w
  | some h =>
    let (w, registrations) := h.registrations.foldl (fun (w, done) r =>
      match r.2 with
      | .queued interest callback =>
        let (w, handle) := w.on client interest callback
        (w, done ++ [(r.1, Registration.attached handle)])
      | .attached _ => (w, done ++ [r])) (w, [])
    w.update (·.modifyShared shared fun h => { h with registrations := registrations })

/-- Registers a callback with a shared client; the answer is the number of the registration. -/
def register (shared : Nat) (interest : Interest) (callback : Nat) (w : World N A) :
    World N A × Nat :=
  let id := ((w.shared? shared).map (·.nextId)).getD 0
  let (w, registration) := match w.sharedClient? shared with
    | some client =>
      let (w, handle) := w.on client interest callback
      (w, Registration.attached handle)
    | none => (w, .queued interest callback)
  (w.update (·.modifyShared shared fun h =>
    { h with registrations := h.registrations ++ [(id, registration)], nextId := id + 1 }), id)

/-- Removes a registration, and the listener it may be attached by. -/
def deregister (shared id : Nat) (w : World N A) : World N A :=
  if w.store.sharedIsHeld shared then
    let found : Option (Nat × Registration) :=
      (w.shared? shared).bind fun h => h.registrations.find? (·.1 == id)
    let w := w.update (·.modifyShared shared fun h =>
      { h with registrations := h.registrations.filter (·.1 != id) })
    match found with
    | some (_, .attached handle) => w.off handle
    | _ => w
  else w

end World

/-! ## The end of a construction -/

namespace World

/-- Hands a client over to whoever wanted it, or the news that there is none. -/
def finish (requester : Requester) (client : Option Nat) (w : World N A) : World N A :=
  match requester with
  | .name label =>
    let w := w.note (.made requester client.isSome)
    match client with
    | some c => w.update (·.hold label c)
    | none => w
  | .shared shared label =>
    let w := match client with
      | some c =>
        (w.attachQueued shared c).update (·.modifyShared shared fun h =>
          { h with client := some c })
      | none => w
    let w := (w.unlock shared).note (.made requester client.isSome)
    match client with
    | some c => w.update (·.hold label c)
    | none => w

/-- Looks at a construction and finishes it if it came to its end. -/
def await (creation : Nat) (w : World N A) : World N A :=
  match w.store.creations[creation]? with
  | none => w
  | some c =>
    match w.look creation with
    | (w, some true) => w.finish c.requester (some c.client)
    | (w, some false) => w.finish c.requester none
    | (w, none) => w

/-- Whether a construction is still going on. -/
def isPending (creation : Nat) (w : World N A) : Bool :=
  (w.store.creations[creation]?.map fun c => !c.ended).getD false

end World

namespace Outside

/-- Makes a client, as far as it goes at once; the answer is the number of the construction if
it goes on. -/
def create (outside : Outside N A) (requester : Requester) (config : Config) (w : World N A) :
    World N A × Option Nat :=
  match outside.start requester config w with
  | (w, none) => (w.finish requester none, none)
  | (w, some creation) =>
    let w := w.await creation
    (w, if w.isPending creation then some creation else none)

/-- Initializes a shared client whose turn it is, as far as it goes at once: the client stays
if it was made from this very configuration, and is replaced otherwise. -/
def proceed (outside : Outside N A) (shared : Nat) (label : String) (config : Config)
    (w : World N A) : World N A × Option Nat :=
  match w.shared? shared with
  | none => (w, none)
  | some h =>
    match h.client with
    | some client =>
      if h.config = some config then
        let w := (w.unlock shared).note (.made (.shared shared label) true)
        (w.update (·.hold label client), none)
      else
        let w := w.update (·.modifyShared shared fun h =>
          { h with config := some config, client := none })
        outside.create (.shared shared label) config (outside.remove client w)
    | none =>
      let w := w.update (·.modifyShared shared fun h => { h with config := some config })
      outside.create (.shared shared label) config w

/-- Initializes a shared client, or waits for the turn. -/
def setUp (outside : Outside N A) (shared : Nat) (label : String) (config : Config)
    (w : World N A) : World N A × Option Nat :=
  match w.shared? shared with
  | none => (w, none)
  | some h =>
    if h.locked then
      (w.update (·.modifyShared shared fun h =>
        { h with waiting := h.waiting ++ [(label, config)] }), none)
    else
      outside.proceed shared label config
        (w.update (·.modifyShared shared fun h => { h with locked := true }))

/-- Gives the client of a shared client up and forgets its configuration. -/
def removeShared (outside : Outside N A) (shared : Nat) (w : World N A) : World N A :=
  let client := w.sharedClient? shared
  let w := w.update (·.modifyShared shared fun h => { h with client := none, config := none })
  match client with
  | some c => outside.remove c w
  | none => w

end Outside

/-! ## Waiting callbacks -/

/-- A callback waits exactly when there is no client. -/
theorem pending_register (shared : Nat) (interest : Interest) (callback : Nat) (w : World N A)
    (h : Shared) (hs : w.shared? shared = some h) (hc : h.client = none) :
    (((w.register shared interest callback).1.shared? shared).map Shared.pending) =
      some (h.pending + 1) := by
  have hn : w.sharedClient? shared = none := by simp [World.sharedClient?, hs, hc]
  have hs' : w.store.shareds[shared]? = some h := hs
  simp [World.register, hn, World.update, World.shared?, System.modifyShared, hs', Shared.pending]

end MqttRelay.Client
