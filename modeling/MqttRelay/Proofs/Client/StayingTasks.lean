import MqttRelay.Proofs.Client.Staying
import MqttRelay.Proofs.Client.Work

/-!
# Tasks that keep to a realm

The retries of a client keep to a realm that owns it. A realm that owns all clients is kept to by
whatever happens: clients are made and shared, and tasks have their turns, in whatever order.

Results:
* `Stays.fire`, `Stays.consult`: retries of a client keep to a realm that owns it.
* `Stays.happen`: whatever happens keeps to a realm that owns all clients.
* `Reached.kept`, `Reached.happen`: the books of worlds that are reached are kept, and whatever
  happens there leads to one that is reached.
-/

namespace MqttRelay.Client

open Event Native

variable {N A : Type}

/-- A realm that owns all clients, hears all names and has all callbacks and all data. -/
structure Realm.Wide (r : Realm N A) : Prop where
  owner : ∀ id, r.owner id
  member : ∀ client, r.member client
  heard : ∀ name, r.heard name
  callback : ∀ callback, r.callback callback
  kept : ∀ w after, r.kept w after

theorem Realm.Wide.admits {r : Realm N A} (h : r.Wide) (handler : Handler) : r.Admits handler := by
  cases handler with
  | answer => trivial
  | acknowledge client => exact h.member client
  | lose client => exact h.member client
  | tell _ _ callback => exact h.callback callback
  | message callback => exact h.callback callback
  | subscribed => exact fun callback _ => h.callback callback
  | subscribeFailed => exact fun callback _ => h.callback callback

theorem Realm.Wide.owns {r : Realm N A} (h : r.Wide) (w : World N A) (client : Nat) :
    r.Owns w client := fun m _ => h.owner m.identity.clientId

namespace Surroundings

open World

/-- What an interceptor does keeps to a realm. -/
structure Heeds (x : Surroundings N A) (r : Realm N A) (start : World N A) (interceptor : Nat) :
    Prop where
  consult : ∀ reason w, Stays r start w (x.consult interceptor reason w).1
  resume : ∀ call w, Stays r start w (x.resume interceptor call w).1

end Surroundings

namespace World.Stays

variable {r : Realm N A} {start : World N A}

/-! ## The clock -/

theorem sleep (delayMs : Nat) (t : Task) (w : World N A) :
    Stays r start w (w.update (·.sleep delayMs t)) :=
  aside rfl rfl rfl rfl rfl rfl (.inl ⟨rfl, rfl⟩)

theorem watch (p : World N A × Option Nat) : Stays r start p.1 (Surroundings.watch p) :=
  composable.watch (fun delayMs _ => sleep delayMs _) p

/-! ## Retries -/

section Retries

variable {x : Surroundings N A} (hstart : Settled r start)
  (htell : ∀ callback notice w, r.callback callback →
    Stays r start w (x.tell callback notice w).1)
  (hlayer : Fits x.layer r)

include hstart htell hlayer

/-- The timer of a client that the realm owns fires. -/
theorem fire {client : Nat} {w : World N A} (howns : r.Owns w client) (generation : Nat) :
    Stays r start w (Surroundings.run.fire x client generation w) :=
  fire_rel (refl w) (drive hstart htell hlayer howns _)

theorem conclude {client : Nat} {w : World N A} (howns : r.Owns w client) (generation : Nat)
    (v : Verdict) : Stays r start w (x.conclude client generation v w) :=
  conclude_rel (fun _ => drive hstart htell hlayer howns _)
    (fun _ => drive hstart htell hlayer howns _) v

omit hstart htell hlayer in
/-- A client that the realm owns is its own still, whatever acts followed. -/
theorem owns_after {client : Nat} {w after : World N A} (howns : r.Owns w client)
    (hheld : ∃ m, w.client? client = some m) (h : Acts r w after) : r.Owns after client := by
  obtain ⟨m, hm⟩ := hheld
  exact Realm.owns_of_later h.later hm (howns m hm)

variable {interceptor : Nat} (hheeds : x.Heeds r start interceptor)

include hheeds

theorem resumeAndConclude {client : Nat} {w : World N A} (howns : r.Owns w client)
    (hheld : ∃ m, w.client? client = some m) (generation call : Nat) :
    Stays r start w (x.resumeAndConclude client generation interceptor call w) := by
  intro hw
  have hresumed := hheeds.resume call w hw
  exact (Stays.trans (fun _ => hresumed) (conclude hstart htell hlayer
    (owns_after howns hheld hresumed) generation _)) hw

/-- A question is put to an interceptor of a client that the realm owns. -/
theorem consult {client : Nat} {w : World N A} (howns : r.Owns w client)
    (hheld : ∃ m, w.client? client = some m) (generation : Nat) (reason : Option ReasonCode) :
    Stays r start w (x.run (.consult client generation interceptor reason) w) := by
  intro hw
  have hasked : Stays r start (w.pin client) (x.consult interceptor reason (w.pin client)).1 :=
    hheeds.consult reason (w.pin client)
  have hlater := ((pin client w).trans hasked) hw
  have howns' := owns_after howns hheld hlater
  have hheld' : ∃ m, (x.consult interceptor reason (w.pin client)).1.client? client = some m := by
    obtain ⟨m, hm⟩ := hheld
    obtain ⟨m', hm', -⟩ := hlater.later.client hm
    exact ⟨m', hm'⟩
  exact composable.consult hasked (fun _ => conclude hstart htell hlayer howns' generation _)
    (fun _ => resumeAndConclude hstart htell hlayer hheeds howns' hheld' generation _)
    (fun delayMs _ => sleep delayMs _) hw

/-- An interceptor comes back to a question. -/
theorem resume {client : Nat} {w : World N A} (howns : r.Owns w client)
    (hheld : ∃ m, w.client? client = some m) (generation call : Nat) :
    Stays r start w (x.run (.resume client generation interceptor call) w) :=
  composable.held (resumeAndConclude (w := w.pin client) hstart htell hlayer hheeds howns hheld
    generation call)

end Retries

/-! ## Shared clients -/

/-- A shared client changes, and keeps no other handle than it had or one of a client's event. -/
theorem modifyShared (number : Nat) {f : Shared → Shared} {w : World N A}
    (hf : ∀ h ∈ w.store.shareds, ∀ id handle, (id, .attached handle) ∈ (f h).registrations →
      w.IsAttached handle ∨ ∃ id, w.router.Confined handle.id (OfClient id)) :
    Stays r start w (w.update (·.modifyShared number f)) := by
  refine act (.aside rfl rfl rfl rfl (fun c hc => ⟨c, hc, rfl⟩) ?_ (.inl ⟨rfl, rfl⟩))
  rintro handle ⟨h, hh, id, hid⟩
  obtain ⟨i, hi⟩ := List.mem_iff_getElem?.1 hh
  have hi : (w.store.shareds.modify number f)[i]? = some h := hi
  rw [List.getElem?_modify] at hi
  obtain ⟨h', hh', rfl⟩ := Option.map_eq_some_iff.1 hi
  have hmem := List.mem_of_getElem? hh'
  split at hid
  · exact hf h' hmem id handle hid
  · exact .inl ⟨h', hmem, id, hid⟩

/-- A shared client changes beside its registrations. -/
theorem modifyBeside (number : Nat) {f : Shared → Shared}
    (hf : ∀ h, (f h).registrations = h.registrations) (w : World N A) :
    Stays r start w (w.update (·.modifyShared number f)) :=
  modifyShared number fun h hh id handle hid => .inl ⟨h, hh, id, by rwa [← hf h]⟩

theorem hold (hwide : r.Wide) (name : String) (client : Nat) (w : World N A) :
    Stays r start w (w.update (·.hold name client)) :=
  aside rfl rfl rfl rfl rfl rfl (.inr (hwide.kept _ _))

theorem newShared (w : World N A) : Stays r start w w.newShared := by
  refine act (.aside rfl rfl rfl rfl (fun c hc => ⟨c, hc, rfl⟩) ?_ (.inl ⟨rfl, rfl⟩))
  rintro handle ⟨h, hh, id, hid⟩
  rcases List.mem_append.1 hh with hh | hh
  · exact .inl ⟨h, hh, id, hid⟩
  · obtain rfl := List.mem_singleton.1 hh
    cases hid

theorem unlock (shared : Nat) (w : World N A) : Stays r start w (w.unlock shared) :=
  composable.unlock (modifyBeside shared (fun _ => by rfl) w)
    (fun _ => modifyBeside shared (fun _ => by rfl) w) fun _ _ => enqueue _

theorem close (creation : Nat) (w : World N A) : Stays r start w (w.close creation) :=
  modifyCreation creation (fun _ => by rfl) w

/-! ## Whatever happens to all clients -/

/-- The handle of a callback on a client is found under the client's events. -/
theorem confined_on {w : World N A} (h : Kept w) (client : Nat) (interest : Interest)
    (callback : Nat) :
    ∃ id, (w.on client interest callback).1.router.Confined
      (w.on client interest callback).2.id (OfClient id) :=
  ⟨((w.client? client).map (·.identity.clientId)).getD "",
    (h.router.toNumbered.confined_add _ _ _).mono fun _ hn => hn ▸ ofClient_interest _ interest⟩

section Wide

variable (hstart : Settled r start) (hlaw : r.Lawful) (hwide : r.Wide)

include hlaw hwide

omit hwide in
/-- What is found under the events of some client has names of the realm. -/
theorem names_of_confined {w : World N A} {id : Nat} (hall : ∀ id, r.owner id)
    (h : ∃ c, w.router.Confined id (OfClient c)) :
    ∀ name, ∀ l ∈ w.router.listeners name, l.id = id → r.name name := by
  obtain ⟨c, hc⟩ := h
  exact fun name l hl hid => hlaw c name (hall c) (hc.names name l hl hid)

theorem on (client : Nat) (interest : Interest) (callback : Nat) (w : World N A) :
    Stays r start w (w.on client interest callback).1 :=
  act (.on w client interest callback (hlaw _ _ (hwide.owner _) (ofClient_interest _ interest))
    (hwide.callback callback))

include hstart

/-- The listener of a construction goes. -/
theorem offCreation {creation : Nat} {c : Creation} {w : World N A}
    (hc : w.store.creations[creation]? = some c) :
    Stays r start w (w.off c.listener) := fun hw =>
  .single (.off w c.listener (names_of_confined hlaw hwide.owner
    ((hstart.acts hw).creations c (List.mem_of_getElem? hc))))

/-- All listeners that were added for a construction go. -/
theorem strip {creation : Nat} {c : Creation} {w : World N A}
    (hc : w.store.creations[creation]? = some c) : Stays r start w (w.strip c) := by
  intro hw
  have hkept := (hstart.acts hw).toKept
  have hnames : ∀ handle ∈ c.listener :: ((w.client? c.client).map (·.lifecycle)).getD [],
      ∀ name, ∀ l ∈ w.router.listeners name, l.id = handle.id → r.name name := by
    intro handle hh
    apply names_of_confined hlaw hwide.owner
    rcases mem_stripped hh with rfl | ⟨m, hm, hh⟩
    · exact hkept.creations c (List.mem_of_getElem? hc)
    · exact ⟨_, hkept.lifecycle hm handle hh⟩
  have hleft : Stays r start w (w.setRouter ((w.router.remove c.listener).removeEach
      (((w.client? c.client).map (·.lifecycle)).getD []))) := removeEach hnames
  exact (hleft.trans (act (.change _ c.client (fun m => { m with lifecycle := [] })
    (hwide.member _) (fun _ => rfl) (fun _ => List.nil_subset _) fun _ _ hn => .inl hn))) hw

theorem fail (creation : Nat) (w : World N A) : Stays r start w (w.fail creation) :=
  composable.fail fun _ hc => ((strip hstart hlaw hwide hc).trans (count .initFailed _)).trans
    (close creation _)

theorem look (creation : Nat) (w : World N A) : Stays r start w (w.look creation).1 :=
  composable.look (fun _ hc => ((offCreation hstart hlaw hwide hc).trans
    (count .clientCreated _)).trans (close creation _)) (fail hstart hlaw hwide creation w)

/-- The callbacks that wait are attached, and every handle is that of a client's event. -/
theorem attachQueued (shared client : Nat) (w : World N A) :
    Stays r start w (w.attachQueued shared client) := by
  unfold World.attachQueued
  split
  · exact refl w
  · next h hshared =>
    intro hw
    -- The induction is on the registrations; what was attached so far is in order.
    have hold : ∀ p ∈ h.registrations, ∀ handle, p.2 = .attached handle →
        ∃ id, w.router.Confined handle.id (OfClient id) := by
      rintro ⟨id, registration⟩ hp handle rfl
      exact (hstart.acts hw).attached handle ⟨h, List.mem_of_getElem? hshared, id, hp⟩
    dsimp only
    have hinv : Acts r w ((w, []) : World N A × List (Nat × Registration)).1 ∧
        ∀ p ∈ ((w, []) : World N A × List (Nat × Registration)).2, ∀ handle,
          p.2 = .attached handle →
            ∃ id, ((w, []) : World N A × List (Nat × Registration)).1.router.Confined handle.id
              (OfClient id) := ⟨.refl, nofun⟩
    generalize ((w, []) : World N A × List (Nat × Registration)) = q at hinv ⊢
    generalize h.registrations = registrations at hold ⊢
    induction registrations generalizing q with
    | nil =>
      refine hinv.1.trans (modifyShared shared (w := q.1) (fun _ _ id handle hid => .inr ?_)
        (hw.trans hinv.1))
      exact hinv.2 _ hid handle rfl
    | cons p registrations ih =>
      obtain ⟨hfirst, hrest⟩ := List.forall_mem_cons.1 hold
      obtain ⟨hacts, hdone⟩ := hinv
      rw [List.foldl_cons]
      refine ih _ ?_ hrest
      obtain ⟨number, registration⟩ := p
      cases registration with
      | queued interest callback =>
        have hstays : Stays r start q.1 (q.1.on client interest callback).1 :=
          on hlaw hwide client interest callback q.1
        have hon := hstays (hw.trans hacts)
        refine ⟨hacts.trans hon, fun p hp handle hh => ?_⟩
        rcases List.mem_append.1 hp with hp | hp
        · obtain ⟨id, hid⟩ := hdone p hp handle hh
          exact ⟨id, hon.later.confined hid⟩
        · obtain rfl := List.mem_singleton.1 hp
          obtain rfl := Registration.attached.inj hh
          exact confined_on (hstart.acts (hw.trans hacts)).toKept client interest callback
      | attached handle =>
        refine ⟨hacts, fun p hp other hh => ?_⟩
        rcases List.mem_append.1 hp with hp | hp
        · exact hdone p hp other hh
        · obtain rfl := List.mem_singleton.1 hp
          obtain ⟨id, hid⟩ := hfirst other hh
          exact ⟨id, hacts.later.confined hid⟩

theorem register (shared : Nat) (interest : Interest) (callback : Nat) (w : World N A) :
    Stays r start w (w.register shared interest callback).1 := by
  intro hw
  refine register_rel (R := Stays r start) (fun client id _ => ?_) (fun id _ => ?_) hw
  · have hconfined := confined_on (hstart.acts hw).toKept client interest callback
    refine (on hlaw hwide client interest callback w).trans
      (modifyShared shared fun h hh number handle hid => ?_)
    rcases List.mem_append.1 hid with hid | hid
    · exact .inl ⟨h, hh, number, hid⟩
    · have he := Registration.attached.inj (Prod.mk.inj (List.mem_singleton.1 hid)).2
      exact .inr (he ▸ hconfined)
  · refine modifyShared shared fun h hh number handle hid => ?_
    rcases List.mem_append.1 hid with hid | hid
    · exact .inl ⟨h, hh, number, hid⟩
    · cases (Prod.mk.inj (List.mem_singleton.1 hid)).2

theorem deregister (shared id : Nat) (w : World N A) :
    Stays r start w (w.deregister shared id) := by
  intro hw
  have hstruck : Stays r start w (w.update (·.modifyShared shared (Shared.strike id))) :=
    modifyShared shared fun h hh number handle hid =>
      .inl ⟨h, hh, number, (List.mem_filter.1 hid).1⟩
  refine composable.deregister hstruck (fun number handle hfound => ?_) hw
  obtain ⟨h, hshared, hfind⟩ := Option.bind_eq_some_iff.1 hfound
  have hattached : w.IsAttached handle :=
    ⟨h, List.mem_of_getElem? hshared, number, List.mem_of_find?_eq_some hfind⟩
  have hnames := names_of_confined hlaw hwide.owner
    ((hstart.acts hw).attached handle hattached)
  exact hstruck.trans (act (.off _ handle hnames))

theorem finish (requester : Requester) (client : Option Nat) (w : World N A) :
    Stays r start w (w.finish requester client) := by
  have hset (shared c : Nat) (v : World N A) : Stays r start v
      (v.update (·.modifyShared shared fun h => { h with client := some c })) :=
    modifyBeside shared (fun _ => by rfl) v
  exact composable.finish
    (fun shared _ c _ _ => (attachQueued hstart hlaw hwide shared c w).trans (hset shared c _))
    (fun shared _ _ => unlock shared) (fun _ => note _) (hold hwide)

theorem await (creation : Nat) (w : World N A) : Stays r start w (w.await creation) :=
  composable.await (look hstart hlaw hwide creation w) fun _ _ _ _ =>
    finish hstart hlaw hwide _ _ _

section Operations

variable {outside : Outside N A}
  (htell : ∀ callback notice w, r.callback callback →
    Stays r start w (outside.tell callback notice w).1)
  (hlayer : Fits outside.layer r)

include htell hlayer

theorem startOf (requester : Requester) (config : Config) (w : World N A) :
    Stays r start w (outside.start requester config w).1 := by
  have hadd : Stays r start w (w.addClient requester config).1 :=
    act (.make w requester config (hwide.owner _) (hwide.member _))
  have hasked : Stays r start w (outside.asks requester config w).1 :=
    hadd.trans (request hstart htell hlayer
      (q := .create config.clientId config.host config.port config.options.usesTls)
      (hwide.owner _) trivial)
  exact composable.start (count _ w) hasked (fail hstart hlaw hwide _ _)
    (modifyCreation _ (fun _ => by rfl) _)

theorem create (requester : Requester) (config : Config) (w : World N A) :
    Stays r start w (outside.create requester config w).1 :=
  composable.create (startOf hstart hlaw hwide htell hlayer requester config w)
    (fun _ _ => finish hstart hlaw hwide requester none _)
    fun _ _ _ => await hstart hlaw hwide _ _

theorem drop (shared : Nat) (config : Option Config) (w : World N A) :
    Stays r start w (outside.drop shared config w) :=
  composable.drop (modifyBeside shared (fun _ => by rfl) w) fun client v _ =>
    remove hstart htell hlayer hlaw (hwide.owns v client)

theorem proceed (shared : Nat) (label : String) (config : Config) (w : World N A) :
    Stays r start w (outside.proceed shared label config w).1 :=
  composable.proceed
    (fun client _ => ((unlock shared w).trans (note _ _)).trans (hold hwide label client _))
    (fun _ => drop hstart hlaw hwide htell hlayer shared _ w)
    fun _ => create hstart hlaw hwide htell hlayer _ config _

theorem setUp (shared : Nat) (label : String) (config : Config) (w : World N A) :
    Stays r start w (outside.setUp shared label config w).1 :=
  composable.setUp (modifyBeside shared (fun _ => by rfl) w)
    (modifyBeside shared (fun _ => by rfl) w)
    fun _ _ _ => proceed hstart hlaw hwide htell hlayer shared label config _

theorem removeShared (shared : Nat) (w : World N A) :
    Stays r start w (outside.removeShared shared w) :=
  drop hstart hlaw hwide htell hlayer shared none w

end Operations

/-! ## Happenings -/

section Happenings

variable {x : Surroundings N A}
  (htell : ∀ callback notice w, r.callback callback →
    Stays r start w (x.tell callback notice w).1)
  (hlayer : Fits x.layer r) (hheeds : ∀ interceptor, x.Heeds r start interceptor)

include htell hlayer hheeds

omit hlaw in
/-- A question is put to an interceptor of whatever client. -/
theorem consultOf (client generation interceptor : Nat) (reason : Option ReasonCode)
    (w : World N A) :
    Stays r start w (x.run (.consult client generation interceptor reason) w) := by
  have hconcluded (v : World N A) (verdict : Verdict) :
      Stays r start v (x.conclude client generation verdict v) :=
    conclude hstart htell hlayer (hwide.owns v client) generation verdict
  exact composable.consult ((hheeds interceptor).consult reason _) (fun _ => hconcluded _ _)
    (fun call => ((hheeds interceptor).resume call _).trans (hconcluded _ _))
    fun delayMs _ => sleep delayMs _

/-- A task has its turn. -/
theorem run (t : Task) (w : World N A) : Stays r start w (x.run t w) := by
  have hfire (client generation : Nat) :
      Stays r start w (Surroundings.run.fire x client generation w) :=
    fire hstart htell hlayer (hwide.owns w client) generation
  cases t with
  | retry client generation delayMs =>
    exact retry_rel (hfire client generation) (sleep delayMs _ w)
  | fire client generation => exact hfire client generation
  | consult client generation interceptor reason =>
    exact consultOf hstart hwide htell hlayer hheeds client generation interceptor reason w
  | resume client generation interceptor call =>
    exact composable.held (((hheeds interceptor).resume call (w.pin client)).trans
      (conclude hstart htell hlayer (hwide.owns _ client) generation _))
  | create label config =>
    exact (create hstart hlaw hwide htell hlayer _ config w).trans (watch _)
  | await creation => exact await hstart hlaw hwide creation w
  | setUp shared label config =>
    exact (setUp hstart hlaw hwide htell hlayer shared label config w).trans (watch _)
  | proceed shared label config =>
    exact (proceed hstart hlaw hwide htell hlayer shared label config w).trans (watch _)

/-- A task has its turn, and so has the question that it leaves. -/
theorem turn (t : Task) (w : World N A) : Stays r start w (x.turn t w) :=
  (run hstart hlaw hwide htell hlayer hheeds t w).trans (composable.question
    (fun _ _ _ _ => aside rfl rfl rfl rfl rfl rfl (.inl ⟨rfl, rfl⟩))
    (consultOf hstart hwide htell hlayer hheeds))

end Happenings

end Wide

end World.Stays

/-- Whether something that happens keeps to a realm that owns all clients. -/
def Realm.Allows (r : Realm N A) (layer : Layer N) (w : World N A) : Happening N A → Prop
  | .perform o => r.Permits w o
  | .request q =>
    r.native w.store.subscriptions w.store.native (layer.answer q w.store.native).1
  | .beside native _ _ _ =>
    native = w.store.native ∨ r.native w.store.subscriptions w.store.native native
  | _ => True

namespace World

/-- Whatever happens keeps to a realm that owns all clients. -/
theorem Stays.happen {r : Realm N A} {start : World N A} (hstart : Settled r start)
    (hlaw : r.Lawful) (hwide : r.Wide) {x : Surroundings N A}
    (htell : ∀ callback notice w, r.callback callback →
      Stays r start w (x.tell callback notice w).1)
    (hlayer : Fits x.layer r) (hheeds : ∀ interceptor, x.Heeds r start interceptor)
    {h : Happening N A} {w : World N A} (hallowed : r.Allows x.layer w h) :
    Stays r start w (x.happen h w) := by
  cases h with
  | perform o => exact perform hstart htell hlayer hlaw hallowed
  | emit event payload => exact emit hstart htell (hwide.heard event) payload w
  | request q => exact ask hstart htell hallowed fun e _ => hwide.heard e.key.name
  | turn t => exact turn hstart hlaw hwide htell hlayer hheeds t w
  | create requester config => exact create hstart hlaw hwide htell hlayer requester config w
  | newShared => exact newShared w
  | setUp shared label config => exact setUp hstart hlaw hwide htell hlayer shared label config w
  | removeShared shared => exact removeShared hstart hlaw hwide htell hlayer shared w
  | register shared interest callback => exact register hstart hlaw hwide shared interest callback w
  | deregister shared id => exact deregister hstart hlaw hwide shared id w
  | beside native app now names =>
    have hbeside (v : World N A) : Stays r start v
        (v.update fun s => { s with app := app, now := now, names := names }) :=
      aside rfl rfl rfl rfl rfl rfl (.inr (hwide.kept _ _))
    rcases hallowed with rfl | hnative
    · exact hbeside w
    · exact (act (.native w native hnative)).trans (hbeside _)

end World

/-! ## Whatever is reached -/

/-- The realm of everything. -/
def Realm.all : Realm N A where
  owner _ := True
  member _ := True
  name _ := True
  heard _ := True
  callback _ := True
  native _ _ _ := True
  kept _ _ := True

theorem Realm.wide_all : (Realm.all : Realm N A).Wide :=
  ⟨fun _ => trivial, fun _ => trivial, fun _ => trivial, fun _ => trivial, fun _ _ => trivial⟩

theorem Realm.lawful_all : (Realm.all : Realm N A).Lawful := fun _ _ _ _ => trivial

theorem Realm.permits_all (w : World N A) (o : Operation) :
    (Realm.all : Realm N A).Permits w o := by
  cases o with
  | subscribe =>
    exact ⟨fun _ _ => trivial, ⟨trivial, fun _ _ => trivial, fun _ _ => trivial⟩⟩
  | on => exact ⟨trivial, trivial⟩
  | unsubscribe => exact fun _ _ => trivial
  | off => exact fun _ _ _ _ => trivial
  | removeAll => trivial
  | _ => exact fun _ _ => trivial

theorem fits_all (layer : Layer N) : Fits layer (Realm.all : Realm N A) :=
  ⟨fun _ _ _ _ _ => trivial, fun _ _ _ _ _ _ _ => trivial⟩

theorem Outside.Obeys.mono {outside : Outside N A} {P Q : World N A → Operation → Prop}
    {K : World N A → World N A → Prop} (hPQ : ∀ w o, P w o → Q w o) {program : Program N A}
    {w : World N A} (h : outside.Obeys P K program w) : outside.Obeys Q K program w := by
  induction program generalizing w with
  | finish => trivial
  | look next ih => exact ih w h
  | keep f rest ih => exact ⟨h.1, ih h.2⟩
  | perform o rest ih => exact ⟨hPQ w o h.1, ih h.2⟩

theorem Outside.obeys_all (outside : Outside N A) (program : Program N A) (w : World N A) :
    outside.Obeys (Realm.all : Realm N A).Permits Realm.all.kept program w := by
  induction program generalizing w with
  | finish => trivial
  | look next ih => exact ih w w
  | keep f rest ih => exact ⟨trivial, ih _⟩
  | perform o rest ih => exact ⟨Realm.permits_all w o, ih _⟩

/-- An interceptor does what some program does, all of whose operations are such ones and all of
whose changes of data are such changes, wherever it is asked or comes back to a question. -/
structure Surroundings.Minds (x : Surroundings N A) (P : World N A → Operation → Prop)
    (K : World N A → World N A → Prop) (worlds : World N A → Prop) (interceptor : Nat) :
    Prop where
  consult : ∀ reason v, worlds v → ∃ program, x.toOutside.Obeys P K program v ∧
    (x.consult interceptor reason v).1 = (x.execute program v).1
  resume : ∀ call v, worlds v → ∃ program, x.toOutside.Obeys P K program v ∧
    (x.resume interceptor call v).1 = (x.execute program v).1

theorem Surroundings.Minds.mono {x : Surroundings N A} {P Q : World N A → Operation → Prop}
    {K : World N A → World N A → Prop} {worlds : World N A → Prop} (hPQ : ∀ w o, P w o → Q w o)
    {interceptor : Nat} (h : x.Minds P K worlds interceptor) : x.Minds Q K worlds interceptor where
  consult reason v hv := by
    obtain ⟨program, hobeys, heq⟩ := h.consult reason v hv
    exact ⟨program, hobeys.mono hPQ, heq⟩
  resume call v hv := by
    obtain ⟨program, hobeys, heq⟩ := h.resume call v hv
    exact ⟨program, hobeys.mono hPQ, heq⟩

namespace World

/-- An interceptor that minds what a realm permits keeps to it. -/
theorem Stays.heeds {r : Realm N A} {start : World N A} (hstart : Settled r start)
    (hlaw : r.Lawful) {x : Surroundings N A}
    (htell : ∀ callback notice w, r.callback callback →
      Stays r start w (x.tell callback notice w).1)
    (hlayer : Fits x.layer r) {interceptor : Nat}
    (h : x.Minds r.Permits r.kept (Acts r start) interceptor) : x.Heeds r start interceptor where
  consult reason v hv := by
    obtain ⟨program, hobeys, heq⟩ := h.consult reason v hv
    rw [heq]
    exact execute hstart htell hlayer hlaw hobeys hv
  resume call v hv := by
    obtain ⟨program, hobeys, heq⟩ := h.resume call v hv
    rw [heq]
    exact execute hstart htell hlayer hlaw hobeys hv

/-- A world that acts lead to. -/
def Reached (start w : World N A) : Prop := Acts Realm.all start w

/-- A world that was not acted in yet is settled for acts within any realm of all clients. -/
theorem Unused.settled {start : World N A} (h : Unused start) {r : Realm N A} (hwide : r.Wide) :
    Settled r start where
  toKept := h.kept
  admitted {_ l} _ _ := hwide.admits l.handler
  member {client _} _ _ := hwide.member client

theorem Reached.kept {start w : World N A} (hstart : Unused start) (hw : Reached start w) :
    Kept w := ((hstart.settled Realm.wide_all).acts hw).toKept

/-- Whatever happens in a world that is reached leads to one that is, if callbacks and
interceptors run programs. -/
theorem Reached.happen {x : Surroundings N A} {layer : Layer N}
    {program : Nat → Notice → Program N A} {depth : Nat}
    (hx : x.toOutside = .nested layer program depth) {start w : World N A} (hstart : Unused start)
    (hminds : ∀ interceptor, x.Minds Realm.all.Permits Realm.all.kept (Reached start) interceptor)
    (hw : Reached start w) (h : Happening N A) : Reached start (x.happen h w) := by
  have hsettled := hstart.settled Realm.wide_all
  have htell : ∀ callback notice v, (Realm.all : Realm N A).callback callback →
      Stays Realm.all start v (x.tell callback notice v).1 := by
    rw [hx]
    exact Stays.nested hsettled (fits_all layer) Realm.lawful_all
      (fun _ _ _ _ _ _ => Outside.obeys_all _ _ _) depth
  have hheeds (interceptor : Nat) : x.Heeds Realm.all start interceptor :=
    Stays.heeds hsettled Realm.lawful_all htell (fits_all _) (hminds interceptor)
  have hallowed : Realm.all.Allows x.layer w h := by
    cases h with
    | perform o => exact Realm.permits_all w o
    | beside => exact .inr trivial
    | _ => trivial
  exact Relation.ReflTransGen.trans hw
    (Stays.happen hsettled Realm.lawful_all Realm.wide_all htell (fits_all _) hheeds hallowed hw)

theorem Reached.foldl {x : Surroundings N A} {layer : Layer N}
    {program : Nat → Notice → Program N A} {depth : Nat}
    (hx : x.toOutside = .nested layer program depth) {start w : World N A} (hstart : Unused start)
    (hminds : ∀ interceptor, x.Minds Realm.all.Permits Realm.all.kept (Reached start) interceptor)
    (happenings : List (Happening N A)) (hw : Reached start w) :
    Reached start (happenings.foldl (fun w h => x.happen h w) w) := by
  induction happenings generalizing w with
  | nil => exact hw
  | cons h happenings ih => exact ih (hw.happen hx hstart hminds h)

end World

end MqttRelay.Client
