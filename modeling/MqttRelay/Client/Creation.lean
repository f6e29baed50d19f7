import MqttRelay.Client.Operations
import MqttRelay.Text.Blank

/-!
# Making clients

A client is made by the native layer, which answers with an event. Whoever wants it waits for
the first answer, for a time or for ever; if the answer never comes, is no, or cannot come any
more because its listener was removed by others, there is no client.

Results:
* `begin_of_blank`: without a host nothing is asked of the native layer.
* `look_of_ended`: an ended construction is not ended again.
-/

namespace MqttRelay.Client

variable {N A : Type}

namespace World

/-- Marks a construction as ended. -/
def close (creation : Nat) (w : World N A) : World N A :=
  w.update (·.modifyCreation creation fun c => { c with ended := true })

/-- Ends a construction without a client: the listeners that it added go. -/
def fail (creation : Nat) (w : World N A) : World N A :=
  match w.store.creations[creation]? with
  | none => w
  | some c =>
    let lifecycle := ((w.client? c.client).map (·.lifecycle)).getD []
    let w := w.setRouter ((w.router.remove c.listener).removeEach lifecycle)
    let w := w.update (·.modifyClient c.client fun m => { m with lifecycle := [] })
    World.close creation (w.count .initFailed)

/-- Looks whether a construction has come to its end, and ends it then; the answer is whether
there is a client, or none while it goes on. -/
def look (creation : Nat) (w : World N A) : World N A × Option Bool :=
  match w.store.creations[creation]? with
  | none => (w, none)
  | some c =>
    if c.ended then (w, none)
    else
      match c.answer with
      | some true =>
        let w := w.setRouter (w.router.remove c.listener)
        (World.close creation (w.count .clientCreated), some true)
      | some false => (w.fail creation, some false)
      | none =>
        if !w.router.isActive c.listener.id || c.due.any (· ≤ w.store.now) then
          (w.fail creation, some false)
        else (w, none)

/-- Adds a client with the listeners that move it, and a listener for the answer to its
making; the answer is the number of the construction. -/
def addClient (requester : Requester) (config : Config) (w : World N A) : World N A × Nat :=
  let creation := w.store.creations.length
  let client := w.store.clients.length
  let key := Event.Key.client config.clientId
  let (r, listener) := w.router.addKey (key .initialized) (.answer creation)
  let (r, h1) := r.addKey (key .connected) (.acknowledge client)
  let (r, h2) := r.addKey (key .disconnected) (.lose client)
  ((w.setRouter r).update fun s =>
    { s with
      clients := s.clients ++ [{
        identity := config.identity
        state := { options := config.options }
        lifecycle := [h1, h2] }]
      creations := s.creations ++ [{
        requester := requester
        client := client
        listener := listener }] },
    creation)

end World

namespace Outside

/-- Begins to make a client; the answer is the number of the construction, unless it already
failed. -/
def start (outside : Outside N A) (requester : Requester) (config : Config) (w : World N A) :
    World N A × Option Nat :=
  if Text.isBlankText config.host then (w.count .initFailed, none)
  else
    let (w, creation) := w.addClient requester config
    match outside.request
      (.create config.clientId config.host config.port config.options.usesTls) w with
    | (w, some _) => (World.fail creation w, none)
    | (w, none) =>
      let due := w.store.patience.map (w.store.now + ·)
      (w.update (·.modifyCreation creation fun c => { c with due := due }), some creation)

theorem begin_of_blank (outside : Outside N A) (requester : Requester) (config : Config)
    (w : World N A) (h : Text.isBlankText config.host = true) :
    (outside.start requester config w).2 = none ∧
      (outside.start requester config w).1.store = w.store := by
  simp [start, h, Hub.count]

end Outside

namespace World

/-- An ended construction is not ended again. -/
theorem look_of_ended (creation : Nat) (w : World N A) (c : Creation)
    (hc : w.store.creations[creation]? = some c) (h : c.ended = true) :
    w.look creation = (w, none) := by
  simp [look, hc, h]

end World

end MqttRelay.Client
