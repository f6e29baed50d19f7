import MqttRelay.Proofs.Client.Pieces

/-!
# Work that waits

The making of clients, shared clients, and the tasks that wait for their turn or their time are
made of pieces as well, so that pieces lead to whatever ever happens to clients.

Results:
* `Leads.create`, `Leads.setUp`: clients are made and shared in pieces.
* `Leads.run`, `Leads.advance`: tasks are made of pieces, in whatever order they have their turns.
* `Leads.happen`: pieces lead to whatever happens.
-/

namespace MqttRelay.Client

open Native

variable {N A : Type}

namespace World.Leads

/-! ## Making clients -/

theorem close (creation : Nat) (w : World N A) : Leads w (w.close creation) :=
  modifyCreation creation _ w

theorem strip (c : Creation) (w : World N A) : Leads w (w.strip c) := by
  unfold World.strip
  dsimp only
  generalize ((w.client? c.client).map (·.lifecycle)).getD [] = lifecycle
  have hlisten : Leads w (w.setRouter ((w.router.remove c.listener).removeEach lifecycle)) :=
    (off c.listener w).trans (removeEach lifecycle _)
  exact hlisten.trans (keep c.client _ fun _ => ⟨rfl, rfl, rfl, rfl⟩)

theorem fail (creation : Nat) (w : World N A) : Leads w (w.fail creation) :=
  composable.fail fun c _ => ((strip c w).trans (count .initFailed _)).trans (close creation _)

theorem look (creation : Nat) (w : World N A) : Leads w (w.look creation).1 :=
  composable.look (fun c _ => ((off c.listener w).trans (count .clientCreated _)).trans
    (close creation _)) (fail creation w)

theorem addClient (requester : Requester) (config : Config) (w : World N A) :
    Leads w (w.addClient requester config).1 := by
  let key := Event.Key.client config.clientId
  let r₁ := w.router.addKey (key .initialized) (.answer w.store.creations.length)
  let r₂ := r₁.1.addKey (key .connected) (.acknowledge w.store.clients.length)
  let r₃ := r₂.1.addKey (key .disconnected) (.lose w.store.clients.length)
  let m : Member :=
    { identity := config.identity
      state := { options := config.options }
      lifecycle := [r₂.2, r₃.2] }
  have hlisten : Leads w (w.setRouter r₃.1) :=
    ((addKey _ _ w).trans (addKey _ _ _)).trans (addKey _ _ _)
  have hmake := hlisten.trans (piece (.make _ m ⟨⟨config.options, rfl⟩, rfl⟩))
  exact hmake.trans (aside rfl rfl rfl rfl rfl)

/-! ## Shared clients -/

theorem modifyShared (number : Nat) (f : Shared → Shared) (w : World N A) :
    Leads w (w.update (·.modifyShared number f)) := aside rfl rfl rfl rfl rfl

theorem hold (name : String) (client : Nat) (w : World N A) :
    Leads w (w.update (·.hold name client)) := aside rfl rfl rfl rfl rfl

theorem newShared (w : World N A) : Leads w w.newShared := aside rfl rfl rfl rfl rfl

theorem unlock (shared : Nat) (w : World N A) : Leads w (w.unlock shared) :=
  composable.unlock (modifyShared shared _ w) (fun _ => modifyShared shared _ w)
    fun _ _ => enqueue rfl

theorem attachQueued (shared client : Nat) (w : World N A) :
    Leads w (w.attachQueued shared client) :=
  composable.attachQueued (on client) (fun _ => modifyShared shared _) w

theorem register (shared : Nat) (interest : Interest) (callback : Nat) (w : World N A) :
    Leads w (w.register shared interest callback).1 :=
  register_rel (fun client _ _ => (on client interest callback w).trans (modifyShared shared _ _))
    fun _ _ => modifyShared shared _ w

theorem deregister (shared id : Nat) (w : World N A) : Leads w (w.deregister shared id) :=
  composable.deregister (modifyShared shared _ w)
    fun _ handle _ => (modifyShared shared _ w).trans (off handle _)

theorem finish (requester : Requester) (client : Option Nat) (w : World N A) :
    Leads w (w.finish requester client) :=
  composable.finish
    (fun shared _ c _ _ => (attachQueued shared c w).trans (modifyShared shared _ _))
    (fun shared _ _ => unlock shared) (fun _ => note _) hold

theorem await (creation : Nat) (w : World N A) : Leads w (w.await creation) :=
  composable.await (look creation w) fun _ _ _ _ => finish _ _ _

section Operations

variable {outside : Outside N A}
  (htell : ∀ callback notice w, Leads w (outside.tell callback notice w).1)

include htell

theorem start (requester : Requester) (config : Config) (w : World N A) :
    Leads w (outside.start requester config w).1 :=
  composable.start (count _ w) ((addClient requester config w).trans (request htell _ _))
    (fail _ _) (modifyCreation _ _ _)

theorem create (requester : Requester) (config : Config) (w : World N A) :
    Leads w (outside.create requester config w).1 :=
  composable.create (start htell requester config w) (fun _ _ => finish requester none _)
    fun _ _ _ => await _ _

theorem drop (shared : Nat) (config : Option Config) (w : World N A) :
    Leads w (outside.drop shared config w) :=
  composable.drop (modifyShared shared _ w) fun client v _ => remove htell client v

theorem proceed (shared : Nat) (label : String) (config : Config) (w : World N A) :
    Leads w (outside.proceed shared label config w).1 :=
  composable.proceed
    (fun client _ => ((unlock shared w).trans (note _ _)).trans (hold label client _))
    (fun _ => drop htell shared _ w) fun _ => create htell _ config _

theorem setUp (shared : Nat) (label : String) (config : Config) (w : World N A) :
    Leads w (outside.setUp shared label config w).1 :=
  composable.setUp (modifyShared shared _ w) (modifyShared shared _ w)
    fun _ _ _ => proceed htell shared label config _

theorem removeShared (shared : Nat) (w : World N A) :
    Leads w (outside.removeShared shared w) := drop htell shared none w

end Operations

/-! ## The clock -/

theorem mem_insertSleeping {due : Nat} {t : Task} {ps : List (Nat × Task)} {p : Nat × Task}
    (h : p ∈ System.insertSleeping due t ps) : p = (due, t) ∨ p ∈ ps := by
  induction ps with
  | nil => exact .inl (List.mem_singleton.1 h)
  | cons q ps ih =>
    unfold System.insertSleeping at h
    split at h
    · exact List.mem_cons.1 h
    · rcases List.mem_cons.1 h with rfl | h
      · exact .inr List.mem_cons_self
      · exact (ih h).imp_right (List.mem_cons_of_mem q)

/-- A task sleeps that puts no question. -/
theorem sleep (delayMs : Nat) {t : Task} (h : t.isQuestion = false) (w : World N A) :
    Leads w (w.update (·.sleep delayMs t)) := by
  refine beside rfl rfl rfl fun u hu => ?_
  simp only [System.tasks, update, System.sleep, List.mem_append, List.mem_map] at hu ⊢
  rcases hu with hu | ⟨p, hp, rfl⟩
  · exact .inl (.inl hu)
  · rcases mem_insertSleeping hp with rfl | hp
    · exact .inr h
    · exact .inl (.inr ⟨p, hp, rfl⟩)

theorem clock (now : Nat) (w : World N A) :
    Leads w (w.update fun s => { s with now := now }) := aside rfl rfl rfl rfl rfl

theorem wakeDue (w : World N A) : Leads w (Surroundings.wakeDue w) := by
  refine beside rfl rfl rfl fun t ht => .inl ?_
  simp only [Surroundings.wakeDue, update, System.tasks, List.mem_append, List.mem_map,
    List.mem_filter] at ht ⊢
  rcases ht with (ht | ⟨p, ⟨hp, -⟩, rfl⟩) | ⟨p, ⟨hp, -⟩, rfl⟩
  · exact .inl ht
  · exact .inr ⟨p, hp, rfl⟩
  · exact .inr ⟨p, hp, rfl⟩

theorem taken {w : World N A} {t : Task} {ts : List Task} (h : w.store.ready = t :: ts) :
    Leads w (w.update fun s => { s with ready := ts }) := by
  refine beside rfl rfl rfl fun u hu => .inl ?_
  rw [System.tasks, h]
  exact List.mem_cons_of_mem t hu

theorem watch (p : World N A × Option Nat) : Leads p.1 (Surroundings.watch p) :=
  composable.watch (fun delayMs _ => sleep delayMs rfl) p

end World.Leads

namespace World

/-- Pieces lead to a world, or to one with a question that is put before anything else. -/
def LeadsOn (w after : World N A) : Prop := Leads w after ∨ Questioned w after

namespace LeadsOn

variable {w v after : World N A}

theorem of_leads (ha : LeadsOn v after) (h : Leads w v) : LeadsOn w after := by
  rcases ha with ha | ⟨u, t, hu, ht, rfl⟩
  · exact .inl (h.trans ha)
  · exact .inr ⟨u, t, h.trans hu, ht, rfl⟩

/-- Unless a question comes first, pieces lead to the world. -/
theorem leads (h : LeadsOn w v) (hfirst : ∀ t ∈ v.store.ready.head?, t.isQuestion = false) :
    Leads w v := by
  rcases h with h | ⟨u, t, -, ht, rfl⟩
  · exact h
  · exact absurd (ht.symm.trans (hfirst t rfl)) nofun

theorem clock (h : LeadsOn w v) (now : Nat) :
    LeadsOn w (v.update fun s => { s with now := now }) := by
  rcases h with h | ⟨u, t, h, ht, rfl⟩
  · exact .inl (h.trans (.clock now v))
  · exact .inr ⟨_, t, h.trans (.clock now u), ht, rfl⟩

theorem wakeDue (h : LeadsOn w v) : LeadsOn w (Surroundings.wakeDue v) := by
  rcases h with h | ⟨u, t, h, ht, rfl⟩
  · exact .inl (h.trans (.wakeDue v))
  · exact .inr ⟨_, t, h.trans (.wakeDue u), ht, rfl⟩

end LeadsOn

end World

namespace Surroundings

open World

/-- What callbacks and interceptors do is made of pieces of work. -/
structure OfPieces (x : Surroundings N A) : Prop where
  tell : ∀ callback notice w, Leads w (x.tell callback notice w).1
  consult : ∀ interceptor reason w, Leads w (x.consult interceptor reason w).1
  resume : ∀ interceptor call w, Leads w (x.resume interceptor call w).1

end Surroundings

namespace World.Leads

section Tasks

variable {x : Surroundings N A} (hx : x.OfPieces)

include hx

theorem conclude (client generation : Nat) (v : Verdict) (w : World N A) :
    Leads w (x.conclude client generation v w) :=
  conclude_rel (fun _ => drive hx.tell client rfl w) (fun _ => drive hx.tell client rfl w) v

theorem resumeAndConclude (client generation interceptor call : Nat) (w : World N A) :
    Leads w (x.resumeAndConclude client generation interceptor call w) :=
  (hx.resume interceptor call w).trans (conclude hx client generation _ _)

/-- A question is put to an interceptor. -/
theorem consult (client generation interceptor : Nat) (reason : Option ReasonCode)
    (w : World N A) : Leads w (x.run (.consult client generation interceptor reason) w) :=
  composable.consult (hx.consult interceptor reason (w.pin client))
    (fun _ => conclude hx client generation _ _)
    (fun _ => resumeAndConclude hx client generation interceptor _ _)
    fun delayMs _ => sleep delayMs rfl

theorem fire (client generation : Nat) (w : World N A) :
    LeadsOn w (Surroundings.run.fire x client generation w) :=
  fire_rel (.inl (refl w)) ((drive_cases hx.tell client _ w).imp_right And.right)

/-- A task has its turn. -/
theorem run (t : Task) (w : World N A) : LeadsOn w (x.run t w) := by
  cases t with
  | retry client generation delayMs =>
    exact retry_rel (fire hx client generation w) (.inl (sleep delayMs rfl w))
  | fire client generation => exact fire hx client generation w
  | consult client generation interceptor reason =>
    exact .inl (consult hx client generation interceptor reason w)
  | resume client generation interceptor call =>
    exact .inl (((pin client w).trans
      (resumeAndConclude hx client generation interceptor call _)).trans (unpin client _))
  | create label config => exact .inl ((create hx.tell _ config w).trans (watch _))
  | await creation => exact .inl (await creation w)
  | setUp shared label config => exact .inl ((setUp hx.tell shared label config w).trans (watch _))
  | proceed shared label config =>
    exact .inl ((proceed hx.tell shared label config w).trans (watch _))

/-- The question that comes first is put. -/
theorem question {w v : World N A} (h : LeadsOn w v) {t : Task} {ts : List Task}
    (hready : v.store.ready = t :: ts) (ht : t.isQuestion = true) :
    Leads w (x.run t (v.update fun s => { s with ready := ts })) := by
  have htaken : Leads w (v.update fun s => { s with ready := ts }) := by
    rcases h with h | ⟨u, q, h, -, rfl⟩
    · exact h.trans (taken hready)
    · obtain ⟨rfl, rfl⟩ := List.cons.inj hready
      exact h
  cases t with
  | consult client generation interceptor reason =>
    exact htaken.trans (consult hx client generation interceptor reason _)
  | _ => cases ht

/-- The first task has its turn. -/
theorem first {w v : World N A} (h : LeadsOn w v) {t : Task} {ts : List Task}
    (hready : v.store.ready = t :: ts) :
    LeadsOn w (x.run t (v.update fun s => { s with ready := ts })) := by
  cases ht : t.isQuestion with
  | true => exact .inl (question hx h hready ht)
  | false => exact (run hx t _).of_leads ((h.leads (by simp [hready, ht])).trans (taken hready))

theorem settle_on {w v : World N A} (h : LeadsOn w v) (fuel : Nat) :
    LeadsOn w (x.settle fuel v) := by
  induction fuel generalizing v with
  | zero => exact h
  | succ fuel ih =>
    unfold Surroundings.settle
    split
    · exact h
    · next t ts hready => exact ih (first hx h hready)

theorem advance_on {w v : World N A} (h : LeadsOn w v) (target fuel : Nat) :
    LeadsOn w (x.advance target fuel v) := by
  induction fuel generalizing v with
  | zero => exact h.clock target
  | succ fuel ih =>
    unfold Surroundings.advance
    split
    · split
      · exact ih (settle_on hx (h.clock _).wakeDue (fuel + 1))
      · exact h.clock target
    · exact h.clock target

/-- All work whose turn has come is done. -/
theorem settle (fuel : Nat) (w : World N A) (h : (x.settle fuel w).store.ready = []) :
    Leads w (x.settle fuel w) :=
  (settle_on hx (.inl (refl w)) fuel).leads (by simp [h])

/-- The clock moves on, and all work that comes due is done. -/
theorem advance (target fuel : Nat) (w : World N A)
    (h : (x.advance target fuel w).store.ready = []) : Leads w (x.advance target fuel w) :=
  (advance_on hx (.inl (refl w)) target fuel).leads (by simp [h])

/-- A task has its turn, and so has the question that it leaves. -/
theorem turn_task (t : Task) (w : World N A) : Leads w (x.turn t w) := by
  have hrun := run hx t w
  unfold Surroundings.turn
  dsimp only
  split
  · next q rest hready =>
    split
    · next hq => exact question hx hrun hready hq
    · next hq => exact hrun.leads (by simpa [hready] using hq)
  · next hready => exact hrun.leads (by simp [hready])

/-- Pieces lead to whatever happens. -/
theorem happen (h : Happening N A) (w : World N A) : Leads w (x.happen h w) := by
  cases h with
  | perform o => exact perform hx.tell o w
  | emit event payload => exact emit hx.tell event payload w
  | request r => exact request hx.tell r w
  | turn t => exact turn_task hx t w
  | create requester config => exact create hx.tell requester config w
  | newShared => exact newShared w
  | setUp shared label config => exact setUp hx.tell shared label config w
  | removeShared shared => exact removeShared hx.tell shared w
  | register shared interest callback => exact register shared interest callback w
  | deregister shared id => exact deregister shared id w
  | beside native app now names => exact aside rfl rfl rfl rfl rfl

end Tasks

end World.Leads

end MqttRelay.Client
