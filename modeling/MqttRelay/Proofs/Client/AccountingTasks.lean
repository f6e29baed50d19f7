import MqttRelay.Proofs.Client.Accounting
import MqttRelay.Proofs.Client.Work

/-!
# The accounts while work waits

The making of clients, shared clients, and the tasks that wait for their turn or their time change
the accounts in transactions as well, and so does whatever ever happens to clients.

Results:
* `Transacts.create`, `Transacts.setUp`: clients are made and shared in transactions.
* `Transacts.run`: so do tasks what they do.
* `Transacts.happen`: whatever happens comes down to transactions.
-/

namespace MqttRelay.Client

open Native

variable {N A : Type}

namespace World.Transacts

/-! ## Making clients -/

theorem close (creation : Nat) (w : World N A) : Transacts w (w.close creation) := of_eq rfl

theorem strip (c : Creation) (w : World N A) : Transacts w (w.strip c) := by
  unfold World.strip
  dsimp only
  generalize ((w.client? c.client).map (·.lifecycle)).getD [] = lifecycle
  exact (listen ((w.router.remove c.listener).removeEach lifecycle) w).trans
    (change c.client _ fun _ => ⟨rfl, rfl⟩)

theorem fail (creation : Nat) (w : World N A) : Transacts w (w.fail creation) :=
  composable.fail fun c _ => ((strip c w).trans (count rfl _)).trans (close creation _)

theorem look (creation : Nat) (w : World N A) : Transacts w (w.look creation).1 :=
  composable.look (fun _ _ => ((listen _ w).trans (count rfl _)).trans (close creation _))
    (fail creation w)

theorem addClient (requester : Requester) (config : Config) (w : World N A) :
    Transacts w (w.addClient requester config).1 := by
  refine single ?_
  have hmade : (w.addClient requester config).1.accounts =
      { w.accounts with clients := w.accounts.clients ++ [{ clientId := config.clientId }] } :=
    Accounts.ext List.map_append rfl rfl
  rw [hmade]
  exact .make w.accounts config.clientId

/-! ## Shared clients -/

theorem modifyShared (number : Nat) (f : Shared → Shared) (w : World N A) :
    Transacts w (w.update (·.modifyShared number f)) := of_eq rfl

theorem hold (name : String) (client : Nat) (w : World N A) :
    Transacts w (w.update (·.hold name client)) := of_eq rfl

theorem on (client : Nat) (interest : Interest) (callback : Nat) (w : World N A) :
    Transacts w (w.on client interest callback).1 := of_eq rfl

theorem unlock (shared : Nat) (w : World N A) : Transacts w (w.unlock shared) :=
  composable.unlock (modifyShared shared _ w) (fun _ => modifyShared shared _ w)
    fun _ _ _ => of_eq rfl

theorem attachQueued (shared client : Nat) (w : World N A) :
    Transacts w (w.attachQueued shared client) :=
  composable.attachQueued (on client) (fun _ => modifyShared shared _) w

theorem register (shared : Nat) (interest : Interest) (callback : Nat) (w : World N A) :
    Transacts w (w.register shared interest callback).1 :=
  register_rel (fun client _ _ => (on client interest callback w).trans (modifyShared shared _ _))
    fun _ _ => modifyShared shared _ w

theorem deregister (shared id : Nat) (w : World N A) : Transacts w (w.deregister shared id) :=
  composable.deregister (modifyShared shared _ w)
    fun _ _ _ => (modifyShared shared _ w).trans (listen _ _)

theorem finish (requester : Requester) (client : Option Nat) (w : World N A) :
    Transacts w (w.finish requester client) :=
  composable.finish
    (fun shared _ c _ _ => (attachQueued shared c w).trans (modifyShared shared _ _))
    (fun shared _ _ => unlock shared) (fun _ => note _) hold

theorem await (creation : Nat) (w : World N A) : Transacts w (w.await creation) :=
  composable.await (look creation w) fun _ _ _ _ => finish _ _ _

section Operations

variable {outside : Outside N A}
  (htell : ∀ callback notice w, Transacts w (outside.tell callback notice w).1)

include htell

theorem start (requester : Requester) (config : Config) (w : World N A) :
    Transacts w (outside.start requester config w).1 :=
  composable.start (count rfl w) ((addClient requester config w).trans (request htell _ _))
    (fail _ _) (of_eq rfl)

theorem create (requester : Requester) (config : Config) (w : World N A) :
    Transacts w (outside.create requester config w).1 :=
  composable.create (start htell requester config w) (fun _ _ => finish requester none _)
    fun _ _ _ => await _ _

theorem drop (shared : Nat) (config : Option Config) (w : World N A) :
    Transacts w (outside.drop shared config w) :=
  composable.drop (modifyShared shared _ w) fun client v _ => remove htell client v

theorem proceed (shared : Nat) (label : String) (config : Config) (w : World N A) :
    Transacts w (outside.proceed shared label config w).1 :=
  composable.proceed
    (fun client _ => ((unlock shared w).trans (note _ _)).trans (hold label client _))
    (fun _ => drop htell shared _ w) fun _ => create htell _ config _

theorem setUp (shared : Nat) (label : String) (config : Config) (w : World N A) :
    Transacts w (outside.setUp shared label config w).1 :=
  composable.setUp (modifyShared shared _ w) (modifyShared shared _ w)
    fun _ _ _ => proceed htell shared label config _

theorem removeShared (shared : Nat) (w : World N A) :
    Transacts w (outside.removeShared shared w) := drop htell shared none w

end Operations

end World.Transacts

/-! ## Tasks -/

/-- What callbacks and interceptors do comes down to transactions. -/
structure Surroundings.OfTransactions (x : Surroundings N A) : Prop where
  tell : ∀ callback notice w, World.Transacts w (x.tell callback notice w).1
  consult : ∀ interceptor reason w, World.Transacts w (x.consult interceptor reason w).1
  resume : ∀ interceptor call w, World.Transacts w (x.resume interceptor call w).1

namespace World.Transacts

theorem sleep (delayMs : Nat) (t : Task) (w : World N A) :
    Transacts w (w.update (·.sleep delayMs t)) := of_eq rfl

theorem watch (p : World N A × Option Nat) : Transacts p.1 (Surroundings.watch p) :=
  composable.watch (fun delayMs _ => sleep delayMs _) p

section Tasks

variable {x : Surroundings N A} (hx : x.OfTransactions)

include hx

theorem conclude (client generation : Nat) (v : Verdict) (w : World N A) :
    Transacts w (x.conclude client generation v w) :=
  conclude_rel (fun _ => drive hx.tell client _ w) (fun _ => drive hx.tell client _ w) v

theorem resumeAndConclude (client generation interceptor call : Nat) (w : World N A) :
    Transacts w (x.resumeAndConclude client generation interceptor call w) :=
  (hx.resume interceptor call w).trans (conclude hx client generation _ _)

/-- A question is put to an interceptor. -/
theorem consult (client generation interceptor : Nat) (reason : Option ReasonCode)
    (w : World N A) :
    Transacts w (x.run (.consult client generation interceptor reason) w) :=
  composable.consult (hx.consult interceptor reason (w.pin client))
    (fun _ => conclude hx client generation _ _)
    (fun _ => resumeAndConclude hx client generation interceptor _ _)
    fun delayMs _ => sleep delayMs _

theorem fire (client generation : Nat) (w : World N A) :
    Transacts w (Surroundings.run.fire x client generation w) :=
  fire_rel (refl w) (drive hx.tell client _ w)

/-- A task has its turn. -/
theorem run (t : Task) (w : World N A) : Transacts w (x.run t w) := by
  cases t with
  | retry client generation delayMs =>
    exact retry_rel (fire hx client generation w) (sleep delayMs _ w)
  | fire client generation => exact fire hx client generation w
  | consult client generation interceptor reason =>
    exact consult hx client generation interceptor reason w
  | resume client generation interceptor call =>
    exact composable.held (resumeAndConclude hx client generation interceptor call _)
  | create label config => exact (create hx.tell _ config w).trans (watch _)
  | await creation => exact await creation w
  | setUp shared label config => exact (setUp hx.tell shared label config w).trans (watch _)
  | proceed shared label config => exact (proceed hx.tell shared label config w).trans (watch _)

/-- A task has its turn, and so has the question that it leaves. -/
theorem turnOf (t : Task) (w : World N A) : Transacts w (x.turn t w) :=
  (run hx t w).trans (composable.question (fun _ _ _ _ => of_eq rfl) (consult hx))

/-- Whatever happens comes down to transactions. -/
theorem happen (h : Happening N A) (w : World N A) : Transacts w (x.happen h w) := by
  cases h with
  | perform o => exact perform hx.tell o w
  | emit event payload => exact emit hx.tell event payload w
  | request r => exact request hx.tell r w
  | turn t => exact turnOf hx t w
  | create requester config => exact create hx.tell requester config w
  | newShared => exact of_eq rfl
  | setUp shared label config => exact setUp hx.tell shared label config w
  | removeShared shared => exact removeShared hx.tell shared w
  | register shared interest callback => exact register shared interest callback w
  | deregister shared id => exact deregister shared id w
  | beside native app now names => exact of_eq rfl

end Tasks

end World.Transacts

end MqttRelay.Client
