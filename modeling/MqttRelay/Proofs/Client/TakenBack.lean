import MqttRelay.Proofs.Client.Accounting
import MqttRelay.Proofs.Client.Finality
import MqttRelay.Proofs.Client.Subscribers
import MqttRelay.Proofs.Router.Tidiness

/-!
# Subscriptions that are taken back

A subscription is made with its listeners and entered with its client before the native layer is
asked for it. If the native layer refuses, all of this is undone before anybody is told: the
listeners go, the client forgets the subscription and the gauge falls again. What remains is the
number that was given out. The callback for refusals is then told once, and whatever it does, be it
to panic, the subscription is there as one that ended.

Results:
* `World.subscribe_eq_of_refused`: the stages of a subscription that is refused.
* `World.table_takeBack`, `World.client?_takeBack`, `World.metrics_takeBack`: what is taken back is
  as it was.
* `World.subscription_taken_back`: what a refused subscription leaves.
-/

namespace MqttRelay.Client

open Native

variable {N A : Type}

theorem modify_concat {α : Type} (f : α → α) (l : List α) (a : α) :
    (l ++ [a]).modify l.length f = l ++ [f a] := by
  induction l with
  | nil => rfl
  | cons b l ih => exact congrArg (b :: ·) ih

namespace World

/-! ## The stages of a refused subscription -/

section Stages

variable {outside : Outside N A} {client : Nat} {m : Member} {w : World N A}
  {wish : Outside.Wish} {fault : Fault} {asked : World N A}
  (hm : w.client? client = some m) (hopen : m.registry.closed = false)
  (hasked : outside.request (wish.subscription client m).request
    (w.establish m (wish.subscription client m) wish) = (asked, some fault))

include hm hopen hasked

/-- A refused subscription is taken back and its refusal told. -/
theorem subscribe_eq_of_refused :
    outside.subscribe client wish w =
      ((outside.tellRefusal wish fault
        (asked.takeBack client w.store.subscriptions.length)).unpin client,
        w.store.subscriptions.length) := by
  rw [outside.subscribe_eq wish hm]
  simp only [hopen, Bool.false_eq_true, if_false, hasked]

end Stages

/-- A request is refused with the fault that the native layer answers with. -/
theorem snd_request (outside : Outside N A) (r : Request) (w : World N A) :
    (outside.request r w).2 = (outside.layer.answer r w.store.native).2.fault := by
  unfold Outside.request
  dsimp only
  split
  · next h => exact h.symm
  · next h => exact h.symm

/-- A refusal without events leaves the listeners, the clients and the subscriptions alone. -/
theorem same_of_quiet {outside : Outside N A} {r : Request} {w asked : World N A} {fault : Fault}
    (hasked : outside.request r w = (asked, some fault))
    (hquiet : (outside.layer.answer r w.store.native).2.events = []) :
    asked.router = w.router ∧ asked.metrics = w.metrics ∧
      asked.store.clients = w.store.clients ∧
      asked.store.subscriptions = w.store.subscriptions := by
  have hfault : (outside.layer.answer r w.store.native).2.fault = some fault := by
    rw [← snd_request, hasked]
  obtain ⟨rfl, -⟩ := Prod.mk.inj (hasked.symm.trans (request_of_quiet hfault hquiet))
  exact ⟨rfl, rfl, rfl, rfl⟩

/-! ## What is as it was -/

section TakenBack

variable {m : Member} {s : Subscription} {wish : Outside.Wish} {w v : World N A}
  (hs : s.active = true) (hsubscriptions :
    v.store.subscriptions = (w.establish m s wish).store.subscriptions)

include hs hsubscriptions

/-- A new subscription that is taken back has its listeners removed, and is counted off. -/
theorem takeBack_eq : v.takeBack s.client w.store.subscriptions.length =
    ((((v.unregister s.client w.store.subscriptions.length).setRouter
      (v.router.removeEach (s.handles w.router.nextId))).update
        (·.modifySubscription w.store.subscriptions.length
          fun s => { s with active := false, listeners := [] }))).count .subscriptionReleased := by
  have hentry : v.store.subscriptions[w.store.subscriptions.length]? =
      some { s with listeners := s.handles w.router.nextId } := by
    rw [hsubscriptions]
    exact List.getElem?_concat_length
  have hentry : (v.unregister s.client w.store.subscriptions.length).store.subscriptions[
      w.store.subscriptions.length]? = some { s with listeners := s.handles w.router.nextId } :=
    hentry
  rw [takeBack, detach, hentry]
  exact if_pos hs

/-- Only the subscription is added, and it has ended. -/
theorem subscriptions_takeBack :
    (v.takeBack s.client w.store.subscriptions.length).store.subscriptions =
      w.store.subscriptions ++ [{ s with active := false, listeners := [] }] := by
  rw [takeBack_eq hs hsubscriptions]
  show v.store.subscriptions.modify w.store.subscriptions.length _ = _
  rw [hsubscriptions]
  exact modify_concat _ w.store.subscriptions _

/-- The gauge falls to where it was, and nothing else was counted. -/
theorem metrics_takeBack (hmetrics : v.metrics = (w.establish m s wish).metrics) :
    (v.takeBack s.client w.store.subscriptions.length).metrics = w.metrics := by
  rw [takeBack_eq hs hsubscriptions]
  show v.metrics.count .subscriptionReleased = w.metrics
  rw [hmetrics]
  rfl

/-- The same listeners stand in the table as before. -/
theorem table_takeBack (ht : w.router.Tidy)
    (hrouter : v.router = (w.establish m s wish).router) :
    (v.takeBack s.client w.store.subscriptions.length).router.table = w.router.table := by
  rw [takeBack_eq hs hsubscriptions]
  show (v.router.removeEach (s.handles w.router.nextId)).table = w.router.table
  have hadded : v.router = (w.enter s wish).router := hrouter
  have hstands := stands_enter ht.toRegular s wish
  rw [hadded]
  rw [router_enter] at hstands ⊢
  refine ht.table_removeEach_added (by simp) (fun event l hl => ?_) (fun handle hh => ?_)
    (fun handle hh => ?_) fun a ha b hb => Subscription.event_eq_of_id_eq ha hb
  · have hl : l ∈ (w.enter s wish).router.listeners event := by rwa [router_enter]
    exact listener_enter hl
  · obtain ⟨k, -, rfl⟩ := Subscription.mem_handles_iff.1 hh
    exact Nat.le_add_right _ _
  · obtain ⟨l, -, hid, hon⟩ := hstands handle hh
    exact hid ▸ hon

/-- Only the number of the latest subscription id has grown. -/
theorem client?_takeBack (hm : w.client? s.client = some m)
    (hnew : w.store.subscriptions.length ∉ m.registry.entries)
    (hclients : v.store.clients = (w.establish m s wish).store.clients) (other : Nat) :
    (v.takeBack s.client w.store.subscriptions.length).client? other =
      if other = s.client then some m.tagged else w.client? other := by
  have hentered : v.client? other = ((w.tag s.client m).update (·.modifyClient s.client fun m =>
      { m with registry :=
        { m.registry with entries := m.registry.entries ++ [w.store.subscriptions.length] } })
        ).client? other := by
    rw [client?, hclients]
    rfl
  rw [takeBack_eq hs hsubscriptions]
  show (v.unregister s.client w.store.subscriptions.length).client? other = _
  rw [unregister, client?_modifyClient, hentered, client?_modifyClient, tag, client?_modifyClient]
  by_cases ho : s.client = other
  · subst ho
    simp [hm, Member.tagged, List.erase_append_right _ hnew]
  · simp [ho, Ne.symm ho]

end TakenBack

/-! ## What clients list -/

/-- What clients list was made. -/
def ListsMade (w : World N A) : Prop :=
  ∀ client m, w.client? client = some m → ∀ n ∈ m.registry.entries,
    n < w.store.subscriptions.length

namespace ListsMade

variable {w after : World N A}

/-- A client changes and lists nothing new but what was made. -/
theorem modifyClient (h : ListsMade w) (client : Nat) {f : Member → Member}
    (hf : ∀ m, w.client? client = some m → ∀ n ∈ (f m).registry.entries,
      n ∈ m.registry.entries ∨ n < w.store.subscriptions.length) :
    ListsMade (w.update (·.modifyClient client f)) := by
  intro other m hm n hn
  rw [client?_modifyClient] at hm
  split at hm
  · next ho =>
    subst ho
    obtain ⟨m', hm', rfl⟩ := Option.map_eq_some_iff.1 hm
    exact (hf m' hm' n hn).elim (h client m' hm' n) id
  · exact h other m hm n hn

theorem addSubscription (h : ListsMade w) (s : Subscription) :
    ListsMade (w.addSubscription s) := fun client m hm n hn =>
  Nat.lt_of_lt_of_le (h client m hm n hn) (by simp [World.addSubscription, update])

theorem piece (h : ListsMade w) (hp : Piece w after) : ListsMade after := by
  cases hp with
  | beside _ hclients hsubscriptions =>
    intro client m hm
    rw [client?, hclients] at hm
    rw [hsubscriptions]
    exact h client m hm
  | listen changes => exact h
  | change client f hf =>
    exact h.modifyClient client fun m hm n hn => .inl ((hf m hm).entries ▸ hn)
  | make new hnew =>
    intro client m hm n hn
    rcases client?_made hm with hm | rfl
    · exact h client m hm n hn
    · rw [hnew.registry] at hn
      cases hn
  | reject s => exact h.addSubscription s
  | enter m s =>
    refine (h.addSubscription s).modifyClient s.client fun m _ n hn => ?_
    rcases List.mem_append.1 hn with hn | hn
    · exact .inl hn
    · rw [List.mem_singleton.1 hn]
      exact .inr (by simp [World.addSubscription, update])
  | detach number =>
    intro client m hm n hn
    rw [client?_detach] at hm
    have hs := w.subscriptions_detach number n
    rw [List.getElem?_eq_getElem (h client m hm n hn)] at hs
    exact (List.getElem?_eq_some_iff.1 hs).1
  | leave client number =>
    exact h.modifyClient client fun m _ n hn => .inl (List.mem_of_mem_erase hn)
  | shut client => exact h.modifyClient client fun m _ n hn => absurd hn (List.not_mem_nil)

theorem leads (h : ListsMade w) (hl : Leads w after) : ListsMade after := by
  induction hl with
  | refl => exact h
  | tail _ hp ih => exact ih.piece hp

end ListsMade

theorem Fresh.listsMade {w : World N A} (h : Fresh w) : ListsMade w := by
  intro client m hm
  rw [client?, h.clients] at hm
  cases hm

/-! ## What a refusal leaves -/

section

variable {outside : Outside N A}
  (htell : ∀ callback notice w, Leads w (outside.tell callback notice w).1)

include htell

/-- A subscription of a client that was not removed, refused by the native layer in whatever
state, is taken back before anybody is told. It has ended, and its listeners are switched off; if
the native layer delivered nothing together with its refusal, then the table of the router, what
was counted and the clients are as before, but for the number of the latest subscription id. The
callback for refusals, if there is one, is told once, with the topic of the wish and the reason,
and if it panics, this is only counted. Whatever happens later, to end the subscription by its
number does nothing. -/
theorem subscription_taken_back {start w : World N A} (hstart : Fresh start)
    (hw : Leads start w) {client : Nat} {m : Member} (hm : w.client? client = some m)
    (hremoved : m.state.removed = false) (wish : Outside.Wish) {fault : Fault}
    (hrefused : (outside.layer.answer (wish.subscription client m).request
      w.store.native).2.fault = some fault) :
    let number := w.store.subscriptions.length
    let s := wish.subscription client m
    let after := outside.subscribe client wish w
    ∃ taken : World N A,
      taken.isLive number = false ∧
      (∀ handle ∈ s.handles w.router.nextId, taken.router.isActive handle.id = false) ∧
      ((outside.layer.answer s.request w.store.native).2.events = [] →
        taken.router.table = w.router.table ∧ taken.metrics = w.metrics ∧
        (∀ other, taken.client? other =
          if other = client then some m.tagged else w.client? other) ∧
        taken.store.subscriptions = w.store.subscriptions ++ [{ s with active := false }]) ∧
      after.2 = number ∧
      (wish.onRefused = none → after.1 = taken.unpin client) ∧
      (∀ callback, wish.onRefused = some callback →
        let (told, returned) := outside.tell callback (.subscribeFailed {
          message := fault.report
          topic := some wish.topic
          reason := some .subscriptionError }) taken
        after.1 = (if returned then told else Hub.count told .panicked).unpin client) ∧
      ∀ v, Leads after.1 v → v.isLive number = false ∧ outside.unsubscribe number v = v := by
  intro number s after
  have ho : Orderly w := hstart.orderly.leads hw
  have hopen : m.registry.closed = false := ho.opened client m hm hremoved
  obtain ⟨asked, hasked⟩ : ∃ asked, outside.request s.request (w.establish m s wish) =
      (asked, some fault) := ⟨_, Prod.ext rfl ((snd_request outside _ _).trans hrefused)⟩
  have hstages := subscribe_eq_of_refused hm hopen hasked
  have hestablished : Leads w (w.establish m s wish) :=
    (Leads.pin client w).trans (Leads.establish (s := s) hm hopen rfl wish)
  have hrequested : Leads (w.establish m s wish) asked := by
    have h := Leads.request htell s.request (w.establish m s wish)
    rwa [hasked] at h
  have htaken : Leads (w.establish m s wish) (asked.takeBack client number) :=
    hrequested.trans (Leads.withdraw client number asked)
  have hended : (asked.takeBack client number).isLive number = false :=
    isLive_detach_self _ number
  have hot : Orderly (asked.takeBack client number) := (ho.leads hestablished).leads htaken
  have hentered : (w.establish m s wish).store.subscriptions[number]? = some _ :=
    List.getElem?_concat_length
  obtain ⟨t, ht, -, -, hlisteners⟩ := htaken.subscription (ho.leads hestablished) hentered
  have hinactive : t.active = false := by simpa [isLive, ht] using hended
  have hlater : Leads (asked.takeBack client number) after.1 := by
    rw [show after.1 = _ from congrArg Prod.fst hstages]
    unfold Outside.tellRefusal
    cases wish.onRefused with
    | none => exact Leads.unpin client _
    | some callback =>
      exact (Leads.composable.tell_counted (htell callback _ _)).trans (Leads.unpin client _)
  refine ⟨asked.takeBack client number, hended, fun handle hh => ?_, fun hquiet => ?_,
    congrArg Prod.snd hstages, fun hnone => ?_, fun callback hcallback => ?_, fun v hv => ?_⟩
  · refine Router.isActive_of_retired ((hlisteners handle hh).resolve_left fun hstill => ?_)
    rw [hot.idle number t ht hinactive] at hstill
    cases hstill
  · -- Nothing happened between the entry of the subscription and its refusal.
    obtain ⟨hrouter, hmetrics, hclients, hsubscriptions⟩ := same_of_quiet hasked hquiet
    obtain ⟨changes, hr⟩ := hw.router
    rw [hstart.router] at hr
    have htidy : w.router.Tidy := hr ▸ Router.tidy_empty.after changes
    have hnew : number ∉ m.registry.entries := fun hn =>
      Nat.lt_irrefl _ (hstart.listsMade.leads hw client m hm number hn)
    exact ⟨table_takeBack (s := s) rfl hsubscriptions htidy hrouter,
      metrics_takeBack (s := s) rfl hsubscriptions hmetrics,
      client?_takeBack (s := s) rfl hsubscriptions hm hnew hclients,
      subscriptions_takeBack (s := s) rfl hsubscriptions⟩
  · have hafter := congrArg Prod.fst hstages
    rwa [Outside.tellRefusal, hnone] at hafter
  · have hafter := congrArg Prod.fst hstages
    rwa [Outside.tellRefusal, hcallback] at hafter
  · obtain ⟨u, hu, -, hstill, -⟩ := (hlater.trans hv).subscription hot ht
    have hinactive := hstill hinactive
    refine ⟨by simp [isLive, hu, hinactive], ?_⟩
    simp [Outside.unsubscribe, hu, hinactive]

end

/-- Callbacks that panic. -/
def panicky : Outside Recorder Unit := .nested Recorder.layer (fun _ _ => .finish false) 1

/-- A client whose subscriptions the native layer refuses. -/
def unwelcome : World Recorder Unit :=
  (World.addClient (.name "a") { clientId := "x", host := "broker.test", port := 1883 }
    { store := { native := Recorder.fail .subscribe {}, app := () } }).1

/-- A refused subscription whose callback panics. All is as before but for the panic, and to end
the subscription does nothing. -/
theorem subscription_taken_back_of_panic :
    let after := panicky.subscribe 0 ⟨"t", .atMostOnce, 0, none, some 1⟩ unwelcome
    after.2 = 0 ∧ after.1.metrics.panics = 1 ∧
      (∃ taken : World Recorder Unit, taken.router.table = unwelcome.router.table ∧
        taken.metrics = unwelcome.metrics ∧
          after.1 = World.unpin (Hub.count taken .panicked) 0) ∧
      panicky.unsubscribe 0 after.1 = after.1 := by
  intro after
  have hmade : Leads { store := { native := Recorder.fail .subscribe {}, app := () } } unwelcome :=
    Leads.addClient _ _ _
  obtain ⟨m, hm⟩ : ∃ m, unwelcome.client? 0 = some m := Option.isSome_iff_exists.1 (by decide)
  obtain rfl : unwelcome.store.clients[0] = m := Option.some.inj hm
  obtain ⟨taken, -, -, hsame, hnumber, -, htold, hlater⟩ := subscription_taken_back
    (Leads.nested Recorder.layer (fun _ _ => .finish false) 1) ⟨rfl, rfl, rfl, rfl, rfl⟩ hmade hm
    rfl ⟨"t", .atMostOnce, 0, none, some 1⟩ (Option.some_get (by decide)).symm
  obtain ⟨htable, hmetrics, -⟩ := hsame (by decide)
  exact ⟨hnumber, by decide, ⟨taken, htable, hmetrics, htold 1 rfl⟩, (hlater _ (.refl _)).2⟩

end World

end MqttRelay.Client
