import MqttRelay.Proofs.Client.Composing
import MqttRelay.Proofs.Client.ElsewhereTasks

/-!
# Relations that compose while work waits

The making of clients, shared clients, and the tasks that wait for their turn or their time come
down to small changes as well: a client is made with its listeners, and constructions change. A
relation may hold across changes of some constructions only; then it holds across whatever happens,
unless another construction has its turn.

Results:
* `Works.create`, `Works.setUp`: what such a relation holds across.
* `Works.run`: it holds across tasks.
* `Works.happen`: it holds across whatever happens.
-/

namespace MqttRelay.Client

open Native

variable {N A : Type}

namespace World

/-- A relation that composes, and holds as well where a client is made and where one of certain
constructions changes. -/
structure Works (mayChange : Nat → Prop) (R : World N A → World N A → Prop) : Prop
    extends Composes R where
  make : ∀ requester config w, R w (w.addClient requester config).1
  alter : ∀ {creation}, mayChange creation → ∀ (f : Creation → Creation) w,
    R w (w.update (·.modifyCreation creation f))

namespace Works

variable {mayChange : Nat → Prop} {R : World N A → World N A → Prop} (hR : Works mayChange R)

include hR

/-! ## Making clients -/

theorem close {creation : Nat} (hc : mayChange creation) (w : World N A) :
    R w (w.close creation) := hR.alter hc _ w

theorem strip (c : Creation) (w : World N A) : R w (w.strip c) := by
  unfold World.strip
  cases hm : w.client? c.client with
  | none =>
    have hnone : (w.off c.listener).store.clients.length ≤ c.client :=
      List.getElem?_eq_none_iff.1 hm
    refine hR.trans (hR.off c.listener w) (hR.aside rfl ?_ rfl)
    exact congrArg (List.map (·.lifecycle)) (List.modify_eq_self hnone)
  | some m =>
    exact hR.trans (hR.off c.listener w) (hR.gone (w := w.off c.listener) hm (hR.refl _))

theorem fail {creation : Nat} (hc : mayChange creation) (w : World N A) :
    R w (w.fail creation) :=
  hR.composable.fail fun c _ =>
    hR.trans (hR.trans (hR.strip c w) (hR.count .initFailed _)) (hR.close hc _)

theorem look {creation : Nat} (hc : mayChange creation) (w : World N A) :
    R w (w.look creation).1 :=
  hR.composable.look (fun c _ => hR.trans (hR.trans (hR.off c.listener w)
    (hR.count .clientCreated _)) (hR.close hc _)) (hR.fail hc w)

/-! ## Shared clients -/

theorem hold (name : String) (client : Nat) (w : World N A) :
    R w (w.update (·.hold name client)) := hR.aside rfl rfl rfl

theorem unlock (shared : Nat) (w : World N A) : R w (w.unlock shared) :=
  hR.composable.unlock (hR.modifyShared shared _ w) (fun _ => hR.modifyShared shared _ w)
    fun _ _ => hR.enqueue _

theorem attachQueued (shared client : Nat) (w : World N A) :
    R w (w.attachQueued shared client) :=
  hR.composable.attachQueued (hR.on client) (fun _ => hR.modifyShared shared _) w

theorem register (shared : Nat) (interest : Interest) (callback : Nat) (w : World N A) :
    R w (w.register shared interest callback).1 :=
  register_rel
    (fun client _ _ => hR.trans (hR.on client interest callback w) (hR.modifyShared shared _ _))
    fun _ _ => hR.modifyShared shared _ w

theorem deregister (shared id : Nat) (w : World N A) : R w (w.deregister shared id) :=
  hR.composable.deregister (hR.modifyShared shared _ w)
    fun _ handle _ => hR.trans (hR.modifyShared shared _ w) (hR.off handle _)

theorem finish (requester : Requester) (client : Option Nat) (w : World N A) :
    R w (w.finish requester client) :=
  hR.composable.finish
    (fun shared _ c _ _ => hR.trans (hR.attachQueued shared c w) (hR.modifyShared shared _ _))
    (fun shared _ _ => hR.unlock shared) (fun _ => hR.note _) hR.hold

theorem await {creation : Nat} (hc : mayChange creation) (w : World N A) :
    R w (w.await creation) :=
  hR.composable.await (hR.look hc w) fun _ _ _ _ => hR.finish _ _ _

section Operations

variable {outside : Outside N A}
  (htell : ∀ callback notice w, R w (outside.tell callback notice w).1)

include htell

theorem start (requester : Requester) (config : Config) {w : World N A}
    (hnew : mayChange w.store.creations.length) : R w (outside.start requester config w).1 :=
  hR.composable.start (hR.count _ w)
    (hR.trans (hR.make requester config w) (hR.request htell _ _)) (hR.fail hnew _)
    (hR.alter hnew _ _)

theorem create (requester : Requester) (config : Config) {w : World N A}
    (hnew : mayChange w.store.creations.length) : R w (outside.create requester config w).1 :=
  hR.composable.create (hR.start htell requester config hnew)
    (fun _ _ => hR.finish requester none _)
    fun _ _ h => hR.await (by rwa [(Outside.start_some h).1]) _

theorem drop (shared : Nat) (config : Option Config) (w : World N A) :
    R w (outside.drop shared config w) :=
  hR.composable.drop (hR.modifyShared shared _ w) fun client v _ => hR.remove htell client v

/-- A shared client is made as any other, whatever was done before: the construction has whatever
number is the next by then. -/
theorem proceed (shared : Nat) (label : String) (config : Config) {w : World N A}
    (hnew : ∀ v, R w v → mayChange v.store.creations.length) :
    R w (outside.proceed shared label config w).1 :=
  hR.composable.proceed
    (fun client _ =>
      hR.trans (hR.trans (hR.unlock shared w) (hR.note _ _)) (hR.hold label client _))
    (fun _ => hR.drop htell shared _ w)
    fun _ => hR.create htell _ config (hnew _ (hR.drop htell shared _ w))

theorem setUp (shared : Nat) (label : String) (config : Config) {w : World N A}
    (hnew : ∀ v, R w v → mayChange v.store.creations.length) :
    R w (outside.setUp shared label config w).1 := by
  have hlocked : R w (w.lock shared) := hR.modifyShared shared _ w
  exact hR.composable.setUp (hR.modifyShared shared _ w) hlocked fun _ _ _ =>
    hR.proceed htell shared label config fun v hv => hnew v (hR.trans hlocked hv)

theorem removeShared (shared : Nat) (w : World N A) : R w (outside.removeShared shared w) :=
  hR.drop htell shared none w

end Operations

end Works

end World

/-! ## Tasks -/

namespace World.Works

variable {mayChange : Nat → Prop} {R : World N A → World N A → Prop} (hR : Works mayChange R)
  {x : Surroundings N A} (hx : x.KeepsTo R)

include hR

theorem watch (p : World N A × Option Nat) : R p.1 (Surroundings.watch p) :=
  hR.composable.watch (fun delayMs _ => hR.sleep delayMs _) p

include hx

theorem conclude (client generation : Nat) (v : Verdict) (w : World N A) :
    R w (x.conclude client generation v w) :=
  conclude_rel (fun _ => hR.drive hx.tell client _ w) (fun _ => hR.drive hx.tell client _ w) v

theorem resumeAndConclude (client generation interceptor call : Nat) (w : World N A) :
    R w (x.resumeAndConclude client generation interceptor call w) :=
  hR.trans (hx.resume interceptor call w) (hR.conclude hx client generation _ _)

/-- A question is put to an interceptor. -/
theorem consult (client generation interceptor : Nat) (reason : Option ReasonCode)
    (w : World N A) : R w (x.run (.consult client generation interceptor reason) w) :=
  hR.composable.consult (hx.consult interceptor reason (w.pin client))
    (fun _ => hR.conclude hx client generation _ _)
    (fun _ => hR.resumeAndConclude hx client generation interceptor _ _)
    fun delayMs _ => hR.sleep delayMs _

theorem fire (client generation : Nat) (w : World N A) :
    R w (Surroundings.run.fire x client generation w) :=
  fire_rel (hR.refl w) (hR.drive hx.tell client _ w)

/-- A task has its turn, if it does not wait for a construction that may not change. -/
theorem run {t : Task} {w : World N A} (ht : ∀ creation, t = .await creation → mayChange creation)
    (hnew : ∀ v, R w v → mayChange v.store.creations.length) : R w (x.run t w) := by
  cases t with
  | retry client generation delayMs =>
    exact retry_rel (hR.fire hx client generation w) (hR.sleep _ _ w)
  | fire client generation => exact hR.fire hx client generation w
  | consult client generation interceptor reason =>
    exact hR.consult hx client generation interceptor reason w
  | resume client generation interceptor call =>
    exact hR.composable.held (hR.resumeAndConclude hx client generation interceptor call _)
  | create label config =>
    exact hR.trans (hR.create hx.tell _ config (hnew w (hR.refl w))) (hR.watch _)
  | await creation => exact hR.await (ht creation rfl) w
  | setUp shared label config =>
    exact hR.trans (hR.setUp hx.tell shared label config hnew) (hR.watch _)
  | proceed shared label config =>
    exact hR.trans (hR.proceed hx.tell shared label config hnew) (hR.watch _)

/-- The question that a task leaves is put, if it leaves one. -/
theorem turn_of_run {t : Task} {w : World N A} (h : R w (x.run t w)) : R w (x.turn t w) :=
  hR.trans h (hR.composable.question (fun _ _ _ _ => hR.aside rfl rfl rfl) (hR.consult hx))

/-- Such a relation holds across whatever happens, but for the turn of a construction that may not
change. -/
theorem happen {h : Happening N A} {w : World N A}
    (hturn : ∀ creation, h = .turn (.await creation) → mayChange creation)
    (hnew : ∀ v, R w v → mayChange v.store.creations.length) : R w (x.happen h w) := by
  cases h with
  | perform o => exact hR.perform hx.tell o w
  | emit event payload => exact hR.emit hx.tell event payload w
  | request r => exact hR.request hx.tell r w
  | turn t => exact hR.turn_of_run hx (hR.run hx (fun _ ht => hturn _ (congrArg _ ht)) hnew)
  | create requester config => exact hR.create hx.tell requester config (hnew w (hR.refl w))
  | newShared => exact hR.aside rfl rfl rfl
  | setUp shared label config => exact hR.setUp hx.tell shared label config hnew
  | removeShared shared => exact hR.removeShared hx.tell shared w
  | register shared interest callback => exact hR.register shared interest callback w
  | deregister shared id => exact hR.deregister shared id w
  | beside native app now names => exact hR.aside rfl rfl rfl

end World.Works

end MqttRelay.Client
