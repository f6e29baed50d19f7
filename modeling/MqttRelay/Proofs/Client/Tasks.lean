import MqttRelay.Client.Clock
import MqttRelay.Proofs.Client.Stages

/-!
# The stages of tasks

The making of clients, shared clients, and the tasks that wait for their turn or their time come to
stages as well, as operations do: a construction begins, is looked at and ends, a shared client is
locked, loses its client and gets another one, and an interceptor is asked. So a relation that
composes holds across a task if it holds across the stages of the task, and across whatever happens
if it holds across tasks.

* `Happening` — what may happen to clients while no operation runs.
* `Surroundings.KeepsTo` — callbacks and interceptors whose doings keep to a relation.
* `World.strip`, `Outside.asks`, `World.limit` — the stages of a construction.
* `World.lock`, `Outside.drop` — the stages of an initialization.

Results:
* `Outside.proceed_of_offers`, `Outside.proceed_of_not_offers`: initializations by their stages.
* `Composable.look`, `Composable.finish`, `Composable.start`: what a relation that composes holds
  across when a client is made.
* `Composable.proceed`, `Composable.setUp`: when a client is shared.
* `Composable.consult`, `Composable.turn`: when a task has its turn.
-/

namespace MqttRelay.Client

open Native

variable {N A : Type}

/-! ## Whatever happens -/

/-- What may happen to clients while no operation runs. -/
inductive Happening (N A : Type) where
  /-- The application operates on a client or a subscription. -/
  | perform (o : Operation)
  /-- An event is delivered under its flat name. -/
  | emit (event : String) (payload : Event.Payload)
  /-- The application makes a request of its own. -/
  | request (r : Request)
  /-- A task has its turn, whenever it may be: a timer fires, or an interceptor comes back. -/
  | turn (t : Task)
  | create (requester : Requester) (config : Config)
  | newShared
  | setUp (shared : Nat) (label : String) (config : Config)
  | removeShared (shared : Nat)
  | register (shared : Nat) (interest : Interest) (callback : Nat)
  | deregister (shared id : Nat)
  /-- The native layer, the application's data, the time and the names of clients change. -/
  | beside (native : N) (app : A) (now : Nat) (names : Assoc Nat)

/-- Whether a task puts a question to an interceptor. -/
def Task.isQuestion : Task → Bool
  | .consult .. => true
  | _ => false

namespace Surroundings

/-- A task has its turn. A question that it leaves is put to the interceptor at once. -/
def turn (x : Surroundings N A) (t : Task) (w : World N A) : World N A :=
  let after := x.run t w
  match after.store.ready with
  | q :: rest =>
    if q.isQuestion then x.run q (after.update fun s => { s with ready := rest }) else after
  | [] => after

/-- The world after something happened. -/
def happen (x : Surroundings N A) (h : Happening N A) (w : World N A) : World N A :=
  match h with
  | .perform o => x.perform o w
  | .emit event payload => (Hub.emit x.act event payload w).1
  | .request r => (x.request r w).1
  | .turn t => x.turn t w
  | .create requester config => (x.create requester config w).1
  | .newShared => w.newShared
  | .setUp shared label config => (x.setUp shared label config w).1
  | .removeShared shared => x.removeShared shared w
  | .register shared interest callback => (w.register shared interest callback).1
  | .deregister shared id => w.deregister shared id
  | .beside native app now names =>
    w.update fun s => { s with native := native, app := app, now := now, names := names }

/-- What callbacks and interceptors do keeps to a relation. -/
structure KeepsTo (x : Surroundings N A) (R : World N A → World N A → Prop) : Prop where
  tell : ∀ callback notice w, R w (x.tell callback notice w).1
  consult : ∀ interceptor reason w, R w (x.consult interceptor reason w).1
  resume : ∀ interceptor call w, R w (x.resume interceptor call w).1

end Surroundings

/-! ## Stages of a construction -/

/-- What the native layer does about the making of a client that was added with its listeners. -/
def Outside.asks (outside : Outside N A) (requester : Requester) (config : Config)
    (w : World N A) : World N A × Option Fault :=
  outside.request (.create config.clientId config.host config.port config.options.usesTls)
    (w.addClient requester config).1

namespace World

/-- The listeners that were added for a construction go. -/
def strip (c : Creation) (w : World N A) : World N A :=
  let lifecycle := ((w.client? c.client).map (·.lifecycle)).getD []
  (w.setRouter ((w.router.remove c.listener).removeEach lifecycle)).update
    (·.modifyClient c.client fun m => { m with lifecycle := [] })

/-- A construction waits as long as the patience lasts. -/
def limit (creation : Nat) (w : World N A) : World N A :=
  w.update (·.modifyCreation creation fun c =>
    { c with due := w.store.patience.map (w.store.now + ·) })

/-- It is the listener for its answer, or one that moves its client. -/
theorem mem_stripped {c : Creation} {w : World N A} {handle : Router.Handle}
    (h : handle ∈ c.listener :: ((w.client? c.client).map (·.lifecycle)).getD []) :
    handle = c.listener ∨ ∃ m, w.client? c.client = some m ∧ handle ∈ m.lifecycle := by
  refine (List.mem_cons.1 h).imp_right fun h => ?_
  cases hm : w.client? c.client with
  | none =>
    rw [hm] at h
    cases h
  | some m =>
    rw [hm] at h
    exact ⟨m, rfl, h⟩

theorem fail_eq {creation : Nat} {c : Creation} {w : World N A}
    (hc : w.store.creations[creation]? = some c) :
    w.fail creation = World.close creation ((w.strip c).count .initFailed) := by
  simp only [World.fail, hc]
  rfl

/-- A construction that is looked at goes on, or it ends, with a client or without. -/
theorem look_cases (creation : Nat) (w : World N A) :
    w.look creation = (w, none) ∨ ∃ c, w.store.creations[creation]? = some c ∧
      (w.look creation =
          (World.close creation ((w.off c.listener).count .clientCreated), some true) ∨
        w.look creation = (w.fail creation, some false)) := by
  unfold World.look
  split
  · exact .inl rfl
  · next c hc =>
    split
    · exact .inl rfl
    · split
      · exact .inr ⟨c, hc, .inl rfl⟩
      · exact .inr ⟨c, hc, .inr rfl⟩
      · split
        · exact .inr ⟨c, hc, .inr rfl⟩
        · exact .inl rfl

/-- Only a construction that goes on comes to its end. -/
theorem ended_eq_false_of_look {creation : Nat} {c : Creation} {made : Bool} {w : World N A}
    (hc : w.store.creations[creation]? = some c) (h : (w.look creation).2 = some made) :
    c.ended = false := by
  cases hended : c.ended with
  | false => rfl
  | true =>
    rw [look_of_ended creation w c hc hended] at h
    cases h

/-! ## Stages of an initialization -/

/-- The configuration that a shared client keeps. -/
def sharedConfig? (shared : Nat) (w : World N A) : Option Config :=
  (w.shared? shared).bind (·.config)

/-- A shared client holds a client that it can give out for this configuration. -/
def offers (shared : Nat) (config : Config) (w : World N A) : Bool :=
  (w.sharedClient? shared).isSome && w.sharedConfig? shared == some config

/-- An initialization of a shared client takes the lock. -/
def lock (shared : Nat) (w : World N A) : World N A :=
  w.update (·.modifyShared shared fun h => { h with locked := true })

end World

/-- A callback is entered with a shared client. -/
def Shared.enrol (id : Nat) (registration : Registration) (h : Shared) : Shared :=
  { h with registrations := h.registrations ++ [(id, registration)], nextId := id + 1 }

/-- A registration is struck out. -/
def Shared.strike (id : Nat) (h : Shared) : Shared :=
  { h with registrations := h.registrations.filter (·.1 != id) }

namespace Outside

open World

theorem start_eq (outside : Outside N A) (requester : Requester) (config : Config)
    (w : World N A) :
    outside.start requester config w =
      if Text.isBlankText config.host then (w.count .initFailed, none)
      else match outside.asks requester config w with
        | (asked, some _) => (asked.fail w.store.creations.length, none)
        | (asked, none) => (asked.limit w.store.creations.length, some w.store.creations.length) :=
  rfl

/-- A construction that goes on has the next number, and waits. -/
theorem start_some {outside : Outside N A} {requester : Requester} {config : Config}
    {w v : World N A} {creation : Nat} (h : outside.start requester config w = (v, some creation)) :
    creation = w.store.creations.length ∧
      v = (outside.asks requester config w).1.limit w.store.creations.length := by
  rw [start_eq] at h
  split at h
  · cases h
  · split at h
    · cases h
    · next ha =>
      obtain ⟨rfl, hnumber⟩ := Prod.mk.inj h
      exact ⟨(Option.some.inj hnumber).symm, by rw [ha]⟩

/-- Takes the client out of a shared client, sets what is kept of its configuration, and removes
the client. -/
def drop (outside : Outside N A) (shared : Nat) (config : Option Config) (w : World N A) :
    World N A :=
  let rest := w.update (·.modifyShared shared fun h => { h with client := none, config := config })
  match w.sharedClient? shared with
  | some client => outside.remove client rest
  | none => rest

theorem removeShared_eq (outside : Outside N A) (shared : Nat) (w : World N A) :
    outside.removeShared shared w = outside.drop shared none w := rfl

/-- In its turn an initialization hands out the client that is offered. -/
theorem proceed_of_offers (outside : Outside N A) {shared client : Nat} {config : Config}
    {w : World N A} (ho : w.offers shared config = true)
    (hc : w.sharedClient? shared = some client) (label : String) :
    outside.proceed shared label config w =
      (((w.unlock shared).note (.made (.shared shared label) true)).update (·.hold label client),
        none) := by
  obtain ⟨s, hs, hclient⟩ := Option.bind_eq_some_iff.1 hc
  have hconfig : s.config = some config := by
    simpa [offers, hc, sharedConfig?, hs] using ho
  simp only [proceed, hs, hclient, hconfig, if_true]

/-- If no client is offered, it drops what there is and makes one. -/
theorem proceed_of_not_offers (outside : Outside N A) {shared : Nat} {config : Config}
    {w : World N A} {s : Shared} (hs : w.shared? shared = some s)
    (ho : w.offers shared config = false) (label : String) :
    outside.proceed shared label config w =
      outside.create (.shared shared label) config (outside.drop shared (some config) w) := by
  simp only [offers, sharedClient?, sharedConfig?, hs, Option.bind_some] at ho
  simp only [proceed, hs, drop, sharedClient?, Option.bind_some]
  cases hc : s.client with
  | some client =>
    have hconfig : s.config ≠ some config := by simpa [hc] using ho
    simp only [if_neg hconfig]
  | none =>
    have hsame : w.store.modifyShared shared (fun h => { h with config := some config }) =
        w.store.modifyShared shared fun h => { h with client := none, config := some config } := by
      have hget : w.store.shareds[shared]? = some s := hs
      simp only [System.modifyShared, System.mk.injEq, true_and, and_true]
      apply List.ext_getElem?
      intro i
      rw [List.getElem?_modify, List.getElem?_modify]
      by_cases hi : shared = i
      · subst hi
        simp [hget, ← hc]
      · simp [hi]
    simp only [World.update, hsame]

end Outside

/-! ## Relations that compose -/

section

variable {R : World N A → World N A → Prop}

/-- A callback is attached to the client of a shared client, or waits for one. -/
theorem register_rel {shared : Nat} {interest : Interest} {callback : Nat} {w : World N A}
    (hattached : ∀ client id, w.sharedClient? shared = some client →
      R w ((w.on client interest callback).1.update (·.modifyShared shared
        (Shared.enrol id (.attached (w.on client interest callback).2)))))
    (hqueued : ∀ id, w.sharedClient? shared = none →
      R w (w.update (·.modifyShared shared (Shared.enrol id (.queued interest callback))))) :
    R w (w.register shared interest callback).1 := by
  unfold World.register
  dsimp only
  split
  · next client hclient => exact hattached client _ hclient
  · next hclient => exact hqueued _ hclient

/-- The verdict of an interceptor moves its client. -/
theorem conclude_rel {x : Surroundings N A} {client generation : Nat} {w : World N A}
    (hanswered : ∀ overrides, R w (x.drive client (.answered generation overrides) w))
    (hfailed : ∀ panicked, R w (x.drive client (.failed generation panicked) w)) (v : Verdict) :
    R w (x.conclude client generation v w) := by
  cases v with
  | proceed overrides => exact hanswered overrides
  | fail panicked => exact hfailed panicked

/-- The timer of a retry moves its client, if somebody holds it still. -/
theorem fire_rel {x : Surroundings N A} {client generation : Nat} {w : World N A}
    (hidle : R w w) (hdrive : R w (x.drive client (.fired generation) w)) :
    R w (Surroundings.run.fire x client generation w) := by
  unfold Surroundings.run.fire
  split
  · exact hdrive
  · exact hidle

/-- A retry fires at once, or sleeps for its delay. -/
theorem retry_rel {x : Surroundings N A} {client generation delayMs : Nat} {w : World N A}
    (hfire : R w (x.run (.fire client generation) w))
    (hsleep : R w (w.update (·.sleep delayMs (.fire client generation)))) :
    R w (x.run (.retry client generation delayMs) w) := by
  simp only [Surroundings.run]
  split
  · exact hfire
  · exact hsleep

end

namespace Composable

variable {R : World N A → World N A → Prop} (hR : Composable R)

include hR

/-! ### Constructions -/

/-- A construction fails, once its listeners went. -/
theorem fail {creation : Nat} {w : World N A}
    (hfailed : ∀ c, w.store.creations[creation]? = some c →
      R w (World.close creation ((w.strip c).count .initFailed))) : R w (w.fail creation) := by
  unfold World.fail
  split
  · exact hR.refl w
  · next c hc => exact hfailed c hc

/-- A construction is looked at: it goes on, or there is a client, or it fails. -/
theorem look {creation : Nat} {w : World N A}
    (hmade : ∀ c, w.store.creations[creation]? = some c →
      R w (World.close creation ((w.off c.listener).count .clientCreated)))
    (hfail : R w (w.fail creation)) : R w (w.look creation).1 := by
  rcases w.look_cases creation with h | ⟨c, hc, h | h⟩
  · rw [h]
    exact hR.refl w
  · rw [h]
    exact hmade c hc
  · rw [h]
    exact hfail

/-- Whoever has the turn next has it, or the lock is free. -/
theorem unlock {shared : Nat} {w : World N A}
    (hfree : R w (w.update (·.modifyShared shared fun h => { h with locked := false })))
    (hshift : ∀ rest, R w (w.update (·.modifyShared shared fun h => { h with waiting := rest })))
    (hnext : ∀ label config v, R v (World.update v (·.enqueue (.proceed shared label config)))) :
    R w (w.unlock shared) := by
  unfold World.unlock
  split
  · exact hR.refl w
  · split
    · exact hfree
    · exact hR.trans (hshift _) (hnext _ _ _)

/-- Callbacks that wait are attached one by one. -/
theorem attachQueued {shared client : Nat}
    (hon : ∀ interest callback v, R v (World.on client interest callback v).1)
    (hset : ∀ registrations v, R v (World.update v
      (·.modifyShared shared fun h => { h with registrations := registrations })))
    (w : World N A) : R w (w.attachQueued shared client) := by
  unfold World.attachQueued
  split
  · exact hR.refl w
  · next h _ =>
    dsimp only
    refine hR.trans ?_ (hset _ _)
    -- The induction is on the registrations, from whatever was attached before them.
    have hattached : R w ((w, []) : World N A × List (Nat × Registration)).1 := hR.refl w
    generalize ((w, []) : World N A × List (Nat × Registration)) = p at hattached ⊢
    induction h.registrations generalizing p with
    | nil => exact hattached
    | cons r registrations ih =>
      rw [List.foldl_cons]
      apply ih
      obtain ⟨id, registration⟩ := r
      cases registration with
      | queued interest callback => exact hR.trans hattached (hon interest callback p.1)
      | attached handle => exact hattached

/-- Whoever wanted a client gets it, or the news that there is none. -/
theorem finish {requester : Requester} {client : Option Nat} {w : World N A}
    (hhand : ∀ shared label c, requester = .shared shared label → client = some c →
      R w ((w.attachQueued shared c).update
        (·.modifyShared shared fun h => { h with client := some c })))
    (hunlock : ∀ shared label, requester = .shared shared label →
      ∀ v, R v (World.unlock shared v))
    (hnote : ∀ made v, R v (World.note v (.made requester made)))
    (hhold : ∀ label c v, R v (World.update v (·.hold label c))) :
    R w (w.finish requester client) := by
  unfold World.finish
  cases requester with
  | name label =>
    cases client with
    | none => exact hnote _ w
    | some c => exact hR.trans (hnote _ w) (hhold label c _)
  | shared shared label =>
    have hend (v : World N A) (made : Bool) :
        R v ((v.unlock shared).note (.made (.shared shared label) made)) :=
      hR.trans (hunlock shared label rfl v) (hnote made _)
    cases client with
    | none => exact hend w false
    | some c =>
      exact hR.trans (hR.trans (hhand shared label c rfl rfl) (hend _ true)) (hhold label c _)

/-- A construction is looked at, and whoever wanted the client hears of its end. -/
theorem await {creation : Nat} {w : World N A} (hlook : R w (w.look creation).1)
    (hfinish : ∀ c made, w.store.creations[creation]? = some c →
      (w.look creation).2 = some made → R (w.look creation).1
        ((w.look creation).1.finish c.requester (if made then some c.client else none))) :
    R w (w.await creation) := by
  unfold World.await
  split
  · exact hR.refl w
  · next c hc =>
    split
    · next h =>
      rw [h] at hlook hfinish
      exact hR.trans hlook (hfinish c true hc rfl)
    · next h =>
      rw [h] at hlook hfinish
      exact hR.trans hlook (hfinish c false hc rfl)
    · next h =>
      rw [h] at hlook
      exact hlook

variable {outside : Outside N A}

/-- A construction begins, unless there is no host or the native layer refuses. -/
theorem start {requester : Requester} {config : Config} {w : World N A}
    (hblank : R w (w.count .initFailed)) (hasked : R w (outside.asks requester config w).1)
    (hfail : R (outside.asks requester config w).1
      ((outside.asks requester config w).1.fail w.store.creations.length))
    (hlimit : R (outside.asks requester config w).1
      ((outside.asks requester config w).1.limit w.store.creations.length)) :
    R w (outside.start requester config w).1 := by
  rw [outside.start_eq]
  split
  · exact hblank
  · split
    · next h =>
      rw [h] at hasked hfail
      exact hR.trans hasked hfail
    · next h =>
      rw [h] at hasked hlimit
      exact hR.trans hasked hlimit

/-- A client is made, as far as it goes at once. -/
theorem create {requester : Requester} {config : Config} {w : World N A}
    (hstart : R w (outside.start requester config w).1)
    (hfinish : ∀ v, outside.start requester config w = (v, none) → R v (v.finish requester none))
    (hawait : ∀ v creation, outside.start requester config w = (v, some creation) →
      R v (v.await creation)) : R w (outside.create requester config w).1 := by
  unfold Outside.create
  split
  · next h =>
    rw [h] at hstart
    exact hR.trans hstart (hfinish _ h)
  · next h =>
    rw [h] at hstart
    exact hR.trans hstart (hawait _ _ h)

/-! ### Shared clients -/

/-- A registration is removed, and the listener that it may be attached by. -/
theorem deregister {shared id : Nat} {w : World N A}
    (hstrike : R w (w.update (·.modifyShared shared (Shared.strike id))))
    (hoff : ∀ number handle, ((w.shared? shared).bind fun h =>
        h.registrations.find? (·.1 == id)) = some (number, .attached handle) →
      R w ((w.update (·.modifyShared shared (Shared.strike id))).off handle)) :
    R w (w.deregister shared id) := by
  unfold World.deregister
  split
  · dsimp only
    split
    · next number handle hfound => exact hoff number handle hfound
    · exact hstrike
  · exact hR.refl w

/-- A shared client loses its client, which is given up. -/
theorem drop {shared : Nat} {config : Option Config} {w : World N A}
    (hforget : R w (w.update
      (·.modifyShared shared fun h => { h with client := none, config := config })))
    (hremove : ∀ client v, w.sharedClient? shared = some client → R v (outside.remove client v)) :
    R w (outside.drop shared config w) := by
  unfold Outside.drop
  split
  · next client hclient => exact hR.trans hforget (hremove client _ hclient)
  · exact hforget

/-- An initialization hands out the client that is offered, or gives it up for another one. -/
theorem proceed {shared : Nat} {label : String} {config : Config} {w : World N A}
    (hkeep : ∀ client, w.sharedClient? shared = some client →
      R w (((w.unlock shared).note (.made (.shared shared label) true)).update
        (·.hold label client)))
    (hdrop : w.offers shared config = false → R w (outside.drop shared (some config) w))
    (hcreate : w.offers shared config = false → R (outside.drop shared (some config) w)
      (outside.create (.shared shared label) config
        (outside.drop shared (some config) w)).1) :
    R w (outside.proceed shared label config w).1 := by
  cases hs : w.shared? shared with
  | none =>
    rw [show outside.proceed shared label config w = (w, none) by
      simp only [Outside.proceed, hs]]
    exact hR.refl w
  | some s =>
    cases ho : w.offers shared config with
    | true =>
      obtain ⟨client, hclient⟩ := Option.isSome_iff_exists.1 (Bool.and_eq_true_iff.1 ho).1
      rw [outside.proceed_of_offers ho hclient]
      exact hkeep client hclient
    | false =>
      rw [outside.proceed_of_not_offers hs ho]
      exact hR.trans (hdrop ho) (hcreate ho)

/-- An initialization has its turn at once if nobody holds the lock, or else waits for it. -/
theorem setUp {shared : Nat} {label : String} {config : Config} {w : World N A}
    (hwait : R w (w.update (·.modifyShared shared fun h =>
      { h with waiting := h.waiting ++ [(label, config)] })))
    (hlock : R w (w.lock shared))
    (hproceed : ∀ h, w.shared? shared = some h → h.locked = false →
      R (w.lock shared) (outside.proceed shared label config (w.lock shared)).1) :
    R w (outside.setUp shared label config w).1 := by
  unfold Outside.setUp
  split
  · exact hR.refl w
  · next h hs =>
    split
    · exact hwait
    · next hfree => exact hR.trans hlock (hproceed h hs (by simpa using hfree))

/-! ### Tasks -/

omit outside in
theorem watch (hsleep : ∀ delayMs creation v,
      R v (World.update v (·.sleep delayMs (.await creation)))) (p : World N A × Option Nat) :
    R p.1 (Surroundings.watch p) := by
  unfold Surroundings.watch
  split
  · exact hR.refl _
  · split
    · exact hR.refl _
    · exact hsleep _ _ _

variable {x : Surroundings N A} {client generation interceptor : Nat} {w : World N A}

/-- A question is put to an interceptor, which decides, or comes back to it at once or later. -/
theorem consult {reason : Option ReasonCode}
    (hasked : R (w.pin client) (x.consult interceptor reason (w.pin client)).1)
    (hconclude : ∀ v, R (x.consult interceptor reason (w.pin client)).1
      (x.conclude client generation v (x.consult interceptor reason (w.pin client)).1))
    (hresume : ∀ call, R (x.consult interceptor reason (w.pin client)).1
      (x.resumeAndConclude client generation interceptor call
        (x.consult interceptor reason (w.pin client)).1))
    (hsleep : ∀ delayMs call v,
      R v (World.update v (·.sleep delayMs (.resume client generation interceptor call)))) :
    R w (x.run (.consult client generation interceptor reason) w) := by
  unfold Surroundings.run
  dsimp only
  split
  · next h =>
    rw [h] at hasked hconclude
    exact hR.held (hR.trans hasked (hconclude _))
  · next h =>
    rw [h] at hasked hresume
    exact hR.held (hR.trans hasked (hresume _))
  · next h =>
    rw [h] at hasked
    exact hR.held (hR.trans hasked (hsleep _ _ _))

/-- The question that a task leaves is put at once. -/
theorem question {t : Task}
    (htaken : ∀ q rest, (x.run t w).store.ready = q :: rest → q.isQuestion = true →
      R (x.run t w) ((x.run t w).update fun s => { s with ready := rest }))
    (hconsult : ∀ client generation interceptor reason v,
      R v (x.run (.consult client generation interceptor reason) v)) :
    R (x.run t w) (x.turn t w) := by
  unfold Surroundings.turn
  dsimp only
  split
  · next q rest hready =>
    split
    · next hq =>
      cases q with
      | consult client generation interceptor reason =>
        exact hR.trans (htaken _ rest hready hq) (hconsult client generation interceptor reason _)
      | _ => cases hq
    · exact hR.refl _
  · exact hR.refl _

end Composable

end MqttRelay.Client
