import MqttRelay.Proofs.Client.Elsewhere
import MqttRelay.Proofs.Client.Work

/-!
# Tasks that leave a shared client undisturbed

Constructions of other clients, other shared clients, registrations of callbacks, and tasks that
neither begin an initialization of a shared client nor bring one on leave it undisturbed as well.

Results:
* `Frame.create`, `Frame.setUp`, `Frame.removeShared`: what is done for others.
* `Frame.run`, `Frame.question`: the turn of a task that brings no initialization of the shared
  client on.
-/

namespace MqttRelay.Client

open Native

variable {N A : Type}

namespace World

/-! ## A client is made -/

theorem creations_addClient (requester : Requester) (config : Config) (w : World N A) :
    ∃ listener, (w.addClient requester config).1.store.creations = w.store.creations ++
      [{ requester := requester, client := w.store.clients.length, listener := listener }] :=
  ⟨_, rfl⟩

theorem lasting_addClient (requester : Requester) (config : Config) (w : World N A) :
    Lasting w (w.addClient requester config).1 := by
  have happend {α : Type} {as : List α} {b a : α} {k : Nat} (h : as[k]? = some a) :
      (as ++ [b])[k]? = some a :=
    (List.getElem?_append_left (List.getElem?_eq_some_iff.1 h).1).trans h
  exact ⟨fun client m hm => ⟨m, happend hm, .refl m⟩,
    fun k c hc => ⟨c, happend hc, rfl, rfl⟩⟩

theorem clients_addClient (requester : Requester) (config : Config) (w : World N A) :
    ∃ lifecycle, (w.addClient requester config).1.store.clients = w.store.clients ++
      [{ identity := config.identity, state := { options := config.options },
         lifecycle := lifecycle }] :=
  ⟨_, rfl⟩

/-- A client that was just made was not given up. -/
theorem isRemoved_addClient (requester : Requester) (config : Config) (w : World N A)
    (client : Nat) (h : (w.addClient requester config).1.isRemoved client = true) :
    w.isRemoved client = true := by
  obtain ⟨lifecycle, hclients⟩ := w.clients_addClient requester config
  obtain ⟨m, hm, hremoved⟩ := (Option.any_eq_true _ _).1 h
  rw [client?, hclients] at hm
  rcases Nat.lt_trichotomy client w.store.clients.length with hlt | rfl | hgt
  · rw [List.getElem?_append_left hlt] at hm
    simp [isRemoved, client?, hm, hremoved]
  · rw [List.getElem?_concat_length] at hm
    cases hm
    cases hremoved
  · rw [List.getElem?_eq_none (by simpa using Nat.succ_le_of_lt hgt)] at hm
    cases hm

theorem creations_close (creation other : Nat) (w : World N A) :
    (w.close creation).store.creations[other]? = (w.store.creations[other]?).map fun c =>
      if creation = other then { c with ended := true } else c := by
  simp only [World.close, update, System.modifyCreation, List.getElem?_modify]
  split <;> rfl

theorem lasting_close (creation : Nat) (w : World N A) : Lasting w (w.close creation) := by
  refine ⟨fun client m hm => ⟨m, hm, .refl m⟩, fun k c hc => ?_⟩
  rw [creations_close, hc]
  refine ⟨_, rfl, ?_⟩
  split <;> exact ⟨rfl, rfl⟩

theorem constructs?_close (shared creation other : Nat) (w : World N A) :
    (w.close creation).constructs? shared other =
      if creation = other then none else w.constructs? shared other := by
  rw [constructs?, creations_close, constructs?]
  cases w.store.creations[other]? with
  | none => simp
  | some c =>
    simp only [Option.map_some, Option.bind_some]
    split
    · simp
    · rfl

/-! ## Initializations -/

theorem shared?_modifyShared (number : Nat) (f : Shared → Shared) (shared : Nat) (w : World N A) :
    (w.update (·.modifyShared number f)).shared? shared =
      (w.shared? shared).map fun h => if number = shared then f h else h := by
  simp only [shared?, update, System.modifyShared, List.getElem?_modify]
  split <;> rfl

theorem shared?_newShared (shared : Nat) (w : World N A) :
    w.newShared.shared? shared = w.shared? shared ∨
      w.newShared.shared? shared = some {} ∧ w.shared? shared = none := by
  simp only [shared?, World.newShared, update]
  rcases Nat.lt_trichotomy shared w.store.shareds.length with hlt | rfl | hlt
  · exact .inl (List.getElem?_append_left hlt)
  · exact .inr ⟨List.getElem?_concat_length, List.getElem?_eq_none (Nat.le_refl _)⟩
  · refine .inl ((List.getElem?_eq_none ?_).trans (List.getElem?_eq_none (by omega)).symm)
    simp only [List.length_append, List.length_singleton]
    omega

theorem lock_keeps (shared : Nat) (w : World N A) :
    (w.lock shared).sharedClient? shared = w.sharedClient? shared ∧
      (w.lock shared).sharedConfig? shared = w.sharedConfig? shared := by
  simp only [sharedClient?, sharedConfig?, World.lock, shared?_modifyShared]
  cases w.shared? shared <;> simp

/-- The initialization of a shared client that has its turn with a task, and the world in which it
has it. -/
def turnOf? (shared : Nat) (t : Task) (w : World N A) :
    Option (String × Config × World N A) :=
  match t with
  | .proceed number label config =>
    if number = shared ∧ (w.shared? shared).isSome = true then some (label, config, w) else none
  | .setUp number label config =>
    if number = shared ∧ (w.shared? shared).isSome = true ∧ w.isLocked shared = false then
      some (label, config, w.lock shared)
    else none
  | _ => none

/-- The configuration of the client that begins to be made in the turn of a task. -/
def beginsIn? (shared : Nat) (t : Task) (w : World N A) : Option Config :=
  match w.turnOf? shared t with
  | some (_, config, v) => if v.offers shared config then none else some config
  | none => none

namespace Elsewhere

variable {shared : Nat}

/-! ## Shared clients -/

/-- Another shared client changes, or this one beside its client, its configuration and its
lock. -/
theorem modifyShared (number : Nat) {f : Shared → Shared} (w : World N A)
    (hf : number = shared → ∀ h, (f h).client = h.client ∧ (f h).config = h.config ∧
      (f h).locked = h.locked) : Elsewhere shared w (w.update (·.modifyShared number f)) := by
  refine ⟨⟨fun client m hm => ⟨m, hm, .refl m⟩, fun k c hc => ⟨c, hc, rfl, rfl⟩⟩, rfl, ?_, ?_, ?_,
    fun _ => rfl, rfl, fun _ => id⟩
  all_goals
    simp only [sharedClient?, sharedConfig?, isLocked, shared?_modifyShared]
    cases w.shared? shared with
    | none => rfl
    | some h =>
      simp only [Option.map_some, Option.bind_some, Option.any_some]
      split
      · next hn =>
        obtain ⟨hclient, hconfig, hlocked⟩ := hf hn h
        assumption
      · rfl

theorem hold (name : String) (client : Nat) (w : World N A) :
    Elsewhere shared w (w.update (·.hold name client)) := aside rfl rfl rfl rfl rfl rfl

/-- A shared client that was just made is as if it had been there. -/
theorem newShared (w : World N A) : Elsewhere shared w w.newShared := by
  refine ⟨⟨fun client m hm => ⟨m, hm, .refl m⟩, fun k c hc => ⟨c, hc, rfl, rfl⟩⟩, rfl, ?_, ?_, ?_,
    fun _ => rfl, rfl, fun _ => id⟩
  all_goals
    simp only [sharedClient?, sharedConfig?, isLocked]
    rcases w.shared?_newShared shared with h | ⟨h, h'⟩
    · rw [h]
    · rw [h, h']
      rfl

/-- The initialization of another shared client ends. -/
theorem unlock {number : Nat} (hne : number ≠ shared) (w : World N A) :
    Elsewhere shared w (w.unlock number) :=
  composable.unlock (modifyShared number w fun h => absurd h hne)
    (fun _ => modifyShared number w fun h => absurd h hne)
    fun _ _ => enqueue (by simpa [Task.proceeds] using hne)

/-- Callbacks that wait are attached to a client. -/
theorem attachQueued (number client : Nat) (w : World N A) :
    Elsewhere shared w (w.attachQueued number client) :=
  composable.attachQueued (fun _ _ v => setRouter _ v)
    (fun _ v => modifyShared number v fun _ _ => ⟨rfl, rfl, rfl⟩) w

theorem register (number : Nat) (interest : Interest) (callback : Nat) (w : World N A) :
    Elsewhere shared w (w.register number interest callback).1 :=
  register_rel (fun _ _ _ => (setRouter _ w).trans (modifyShared number _ fun _ _ =>
    ⟨rfl, rfl, rfl⟩)) fun _ _ => modifyShared number w fun _ _ => ⟨rfl, rfl, rfl⟩

theorem deregister (number id : Nat) (w : World N A) :
    Elsewhere shared w (w.deregister number id) := by
  have hstrike : Elsewhere shared w (w.update (·.modifyShared number (Shared.strike id))) :=
    modifyShared number w fun _ _ => ⟨rfl, rfl, rfl⟩
  exact composable.deregister hstrike fun _ _ _ => hstrike.trans (setRouter _ _)

/-! ## Constructions -/

/-- A construction ends that does not go on for the shared client. -/
theorem close {creation : Nat} {w : World N A} (h : w.constructs? shared creation = none) :
    Elsewhere shared w (w.close creation) := by
  refine ⟨lasting_close creation w, rfl, rfl, rfl, rfl, fun k => ?_, rfl, fun _ => id⟩
  rw [constructs?_close]
  split
  · next hk => exact hk ▸ h.symm
  · rfl

/-- Before a construction fails its listeners go. -/
theorem strip (c : Creation) (w : World N A) :
    Elsewhere shared w ((w.strip c).count .initFailed) :=
  ((setRouter _ w).trans (modifyClient c.client (f := fun m => { m with lifecycle := [] })
    fun _ _ => ⟨⟨rfl, id, id⟩, id⟩)).trans (count _ _)

/-- A look at a construction does nothing, or it closes it once its listeners went. -/
theorem look_cases (shared creation : Nat) (w : World N A) :
    w.look creation = (w, none) ∨
      ∃ v answer, Elsewhere shared w v ∧ w.look creation = (v.close creation, some answer) := by
  rcases w.look_cases creation with h | ⟨c, hc, h | h⟩
  · exact .inl h
  · exact .inr ⟨_, true, (setRouter _ w).trans (count .clientCreated _), h⟩
  · exact .inr ⟨_, false, strip c w, by rw [h, fail_eq hc]⟩

theorem fail {creation : Nat} {w : World N A} (h : w.constructs? shared creation = none) :
    Elsewhere shared w (w.fail creation) :=
  composable.fail fun c _ => (strip c w).trans (close (((strip c w).constructs creation).trans h))

theorem look {creation : Nat} {w : World N A} (h : w.constructs? shared creation = none) :
    Elsewhere shared w (w.look creation).1 := by
  rcases look_cases shared creation w with hl | ⟨v, _, hv, hl⟩
  · rw [hl]
    exact refl w
  · rw [hl]
    exact hv.trans (close ((hv.constructs creation).trans h))

/-- A client is handed to somebody else. -/
theorem finish {requester : Requester} (hne : requester.isOf shared = false)
    (client : Option Nat) (w : World N A) : Elsewhere shared w (w.finish requester client) := by
  have hnumber {number : Nat} {label : String} (hr : requester = .shared number label) :
      number ≠ shared := by simpa [hr, Requester.isOf] using hne
  exact composable.finish
    (fun number _ c hr _ => (attachQueued number c w).trans
      (modifyShared number _ fun h => absurd h (hnumber hr)))
    (fun _ _ hr => unlock (hnumber hr)) (fun _ => note _) hold

/-- A construction that goes on, but not for the shared client, is somebody else's. -/
theorem isOf_of_constructs {w : World N A} {creation : Nat} {c : Creation}
    (hc : w.store.creations[creation]? = some c) (h : w.constructs? shared creation = none)
    (hended : c.ended = false) : c.requester.isOf shared = false := by
  simpa [constructs?, hc, hended] using h

theorem await {creation : Nat} {w : World N A} (h : w.constructs? shared creation = none) :
    Elsewhere shared w (w.await creation) :=
  composable.await (look h) fun _ _ hc hmade =>
    finish (isOf_of_constructs hc h (ended_eq_false_of_look hc hmade)) _ _

/-- A client is made for somebody else. -/
theorem addClient {requester : Requester} (hne : requester.isOf shared = false) (config : Config)
    (w : World N A) : Elsewhere shared w (w.addClient requester config).1 := by
  refine ⟨lasting_addClient requester config w, rfl, rfl, rfl, rfl, fun k => ?_, rfl,
    isRemoved_addClient requester config w⟩
  obtain ⟨listener, h⟩ := w.creations_addClient requester config
  rw [constructs?, h, constructs?]
  rcases Nat.lt_trichotomy k w.store.creations.length with hlt | rfl | hlt
  · rw [List.getElem?_append_left hlt]
  · rw [List.getElem?_concat_length, List.getElem?_eq_none (Nat.le_refl _)]
    simp [hne]
  · rw [List.getElem?_eq_none (Nat.le_of_lt hlt), List.getElem?_eq_none]
    simpa using Nat.succ_le_of_lt hlt

/-! ## The clock -/

/-- A task sleeps that is no initialization of the shared client. -/
theorem sleep (delayMs : Nat) {t : Task} (h : t.proceeds shared = false) (w : World N A) :
    Elsewhere shared w (w.update (·.sleep delayMs t)) := by
  refine of_clients rfl rfl rfl rfl ?_
  have hinsert (due : Nat) (ps : List (Nat × Task)) :
      ((System.insertSleeping due t ps).map (·.2)).countP (·.proceeds shared) =
        (ps.map (·.2)).countP (·.proceeds shared) := by
    induction ps with
    | nil => simp [System.insertSleeping, h]
    | cons p ps ih =>
      unfold System.insertSleeping
      split
      · simp [h]
      · simp only [List.map_cons, List.countP_cons, ih]
  simp only [World.turns, System.tasks, update, System.sleep, List.countP_append, hinsert]

theorem watch (p : World N A × Option Nat) : Elsewhere shared p.1 (Surroundings.watch p) :=
  composable.watch (fun delayMs _ => sleep delayMs rfl) p

/-- Tasks whose time has come wait for their turn. -/
theorem wakeDue (w : World N A) : Elsewhere shared w (Surroundings.wakeDue w) := by
  refine of_clients rfl rfl rfl rfl ?_
  have hsplit := (List.filter_append_perm (fun p : Nat × Task => decide (p.1 ≤ w.store.now))
    w.store.sleeping).map (·.2)
  have hcount := hsplit.countP_eq (·.proceeds shared)
  simp only [List.map_append, List.countP_append] at hcount
  simp only [World.turns, System.tasks, update, Surroundings.wakeDue, List.countP_append]
  omega

end Elsewhere

/-! ## What is done for others -/

/-- Whether a task begins an initialization of a shared client or brings one on. -/
def advances (shared : Nat) (w : World N A) : Task → Bool
  | .await creation => (w.constructs? shared creation).isSome
  | .setUp number .. => number == shared
  | .proceed number .. => number == shared
  | _ => false

namespace Frame

variable {shared : Nat} {mayGo : Nat → Prop} {R : World N A → World N A → Prop}

section Operations

variable {outside : Outside N A} (hR : Frame shared mayGo R)
  (htell : ∀ callback notice w, R w (outside.tell callback notice w).1)

include hR htell

/-- A client is added for somebody else, and asked for. -/
theorem asks {requester : Requester} (hne : requester.isOf shared = false) (config : Config)
    (w : World N A) : R w (outside.asks requester config w).1 :=
  hR.trans (hR.elsewhere (.addClient hne config w)) (hR.request htell _ _)

/-- The construction is somebody else's, whatever happens meanwhile. -/
theorem constructs?_asks {requester : Requester} (hne : requester.isOf shared = false)
    (config : Config) (w : World N A) :
    (outside.asks requester config w).1.constructs? shared w.store.creations.length = none := by
  have hasked := hR.lasting (hR.request htell
    (.create config.clientId config.host config.port config.options.usesTls)
    (w.addClient requester config).1)
  obtain ⟨listener, hcreations⟩ := w.creations_addClient requester config
  obtain ⟨c, hc, hrequester, -⟩ := hasked.creations w.store.creations.length _
    (by rw [hcreations]; exact List.getElem?_concat_length)
  simp [constructs?, Outside.asks, hc, hrequester, hne]

omit hR htell in
theorem limit (creation : Nat) (w : World N A) : Elsewhere shared w (w.limit creation) :=
  .modifyCreation creation w fun _ => ⟨rfl, rfl, rfl⟩

theorem start {requester : Requester} (hne : requester.isOf shared = false) (config : Config)
    (w : World N A) : R w (outside.start requester config w).1 :=
  hR.composable.start (hR.elsewhere (.count _ w)) (hR.asks htell hne config w)
    (hR.elsewhere (.fail (hR.constructs?_asks htell hne config w))) (hR.elsewhere (limit _ _))

theorem create {requester : Requester} (hne : requester.isOf shared = false) (config : Config)
    (w : World N A) : R w (outside.create requester config w).1 := by
  refine hR.composable.create (hR.start htell hne config w)
    (fun v _ => hR.elsewhere (.finish hne none v)) fun v creation h => hR.elsewhere (.await ?_)
  obtain ⟨rfl, rfl⟩ := Outside.start_some h
  exact ((limit _ _).constructs _).trans (hR.constructs?_asks htell hne config w)

theorem drop {number : Nat} (hne : number ≠ shared) (config : Option Config) {w : World N A}
    (hgone : ∀ client, w.sharedClient? number = some client → mayGo client) :
    R w (outside.drop number config w) :=
  hR.composable.drop (hR.elsewhere (.modifyShared number w fun h => absurd h hne))
    fun client v hc => hR.remove htell (hgone client hc) v

theorem proceed {number : Nat} (hne : number ≠ shared) (label : String) (config : Config)
    {w : World N A} (hgone : ∀ client, w.offers number config = false →
      w.sharedClient? number = some client → mayGo client) :
    R w (outside.proceed number label config w).1 := by
  have hrequester : (Requester.shared number label).isOf shared = false := by
    simpa [Requester.isOf] using hne
  exact hR.composable.proceed
    (fun client _ => hR.elsewhere (((Elsewhere.unlock hne w).trans (.note _ _)).trans
      (.hold label client _)))
    (fun ho => hR.drop htell hne _ fun client => hgone client ho)
    fun _ => hR.create htell hrequester config _

theorem setUp {number : Nat} (hne : number ≠ shared) (label : String) (config : Config)
    {w : World N A} (hgone : ∀ client, w.isLocked number = false → w.offers number config = false →
      w.sharedClient? number = some client → mayGo client) :
    R w (outside.setUp number label config w).1 := by
  have hmodify (f : Shared → Shared) : R w (w.update (·.modifyShared number f)) :=
    hR.elsewhere (.modifyShared number w fun h => absurd h hne)
  refine hR.composable.setUp (hmodify _) (hmodify _) fun s hs hlocked => ?_
  obtain ⟨hclient, hconfig⟩ := w.lock_keeps number
  refine hR.proceed htell hne label config fun client ho hc =>
    hgone client (by simpa [isLocked, hs] using hlocked) ?_ (hclient.symm.trans hc)
  rw [offers, ← hclient, ← hconfig]
  exact ho

theorem removeShared {number : Nat} (hne : number ≠ shared) {w : World N A}
    (hgone : ∀ client, w.sharedClient? number = some client → mayGo client) :
    R w (outside.removeShared number w) := hR.drop htell hne none hgone

end Operations

end Frame

end World

/-! ## Tasks -/

namespace World.Frame

variable {shared : Nat} {mayGo : Nat → Prop} {R : World N A → World N A → Prop}
  {x : Surroundings N A} (hR : Frame shared mayGo R) (hx : x.KeepsTo R)

include hR hx

theorem conclude (client generation : Nat) (v : Verdict) (w : World N A) :
    R w (x.conclude client generation v w) :=
  conclude_rel (fun overrides => hR.drive hx.tell client (.answered generation overrides) nofun w)
    (fun panicked => hR.drive hx.tell client (.failed generation panicked) nofun w) v

theorem resumeAndConclude (client generation interceptor call : Nat) (w : World N A) :
    R w (x.resumeAndConclude client generation interceptor call w) :=
  hR.trans (hx.resume interceptor call w) (hR.conclude hx client generation _ _)

/-- A question is put to an interceptor. -/
theorem consult (client generation interceptor : Nat) (reason : Option ReasonCode)
    (w : World N A) : R w (x.run (.consult client generation interceptor reason) w) :=
  hR.composable.consult (hx.consult interceptor reason (w.pin client))
    (fun _ => hR.conclude hx client generation _ _)
    (fun _ => hR.resumeAndConclude hx client generation interceptor _ _)
    fun delayMs _ v => hR.elsewhere (.sleep delayMs rfl v)

/-- A task has its turn that brings no initialization of the shared client on. -/
theorem run {t : Task} {w : World N A} (h : w.advances shared t = false)
    (hgone : ∀ number config client, w.beginsIn? number t = some config →
      w.sharedClient? number = some client → mayGo client) : R w (x.run t w) := by
  have hfire (client generation : Nat) : R w (Surroundings.run.fire x client generation w) :=
    fire_rel (hR.refl w) (hR.drive hx.tell client (.fired generation) nofun w)
  have hwatch {p : World N A × Option Nat} (hp : R w p.1) : R w (Surroundings.watch p) :=
    hR.trans hp (hR.elsewhere (.watch p))
  cases t with
  | retry client generation delayMs =>
    exact retry_rel (hfire client generation) (hR.elsewhere (.sleep delayMs rfl w))
  | fire client generation => exact hfire client generation
  | consult client generation interceptor reason =>
    exact hR.consult hx client generation interceptor reason w
  | resume client generation interceptor call =>
    exact hR.composable.held (hR.resumeAndConclude hx client generation interceptor call _)
  | create label config =>
    exact hwatch (hR.create hx.tell (rfl : (Requester.name label).isOf shared = false) config w)
  | await creation => exact hR.elsewhere (.await (by simpa [advances] using h))
  | setUp number label config =>
    refine hwatch (hR.setUp hx.tell (by simpa [advances] using h) label config
      fun client hlocked ho hc => hgone number config client ?_ hc)
    obtain ⟨s, hs, -⟩ := Option.bind_eq_some_iff.1 hc
    obtain ⟨hclient, hconfig⟩ := w.lock_keeps number
    have ho : (w.lock number).offers number config = false := by rwa [offers, hclient, hconfig]
    simp [beginsIn?, turnOf?, hs, hlocked, ho]
  | proceed number label config =>
    refine hwatch (hR.proceed hx.tell (by simpa [advances] using h) label config
      fun client ho hc => hgone number config client ?_ hc)
    obtain ⟨s, hs, -⟩ := Option.bind_eq_some_iff.1 hc
    simp [beginsIn?, turnOf?, hs, ho]

/-- The question that a task leaves is put at once. -/
theorem question (t : Task) (w : World N A) : R (x.run t w) (x.turn t w) := by
  refine hR.composable.question (fun q rest hready hq => hR.elsewhere ?_) (hR.consult hx)
  have hproceeds : q.proceeds shared = false := by
    cases q with
    | consult => rfl
    | _ => cases hq
  refine .of_clients rfl rfl rfl rfl ?_
  simp [World.turns, System.tasks, update, hready, hproceeds]

end World.Frame

end MqttRelay.Client
