import MqttRelay.Proofs.Client.Bookkeeping
import MqttRelay.Proofs.Client.Pieces

/-!
# Orderly worlds

What pieces of work keep. A client keeps its identity, and once it is removed or its registry is
closed it stays so. A listener keeps its place until it is switched off for good, and a
subscription keeps its listeners until they are. Every active subscription is listed by its
client, whose registry is open.

Results:
* `Leads.client`, `Leads.router`, `Leads.subscription`: what becomes of a client, of the listeners
  and of a subscription.
* `Orderly.leads`: pieces of work keep a world orderly.
-/

namespace MqttRelay.Client

variable {N A : Type}

/-! ## The state of a removed client -/

namespace State

variable {I : Type}

/-- A sound state in which no timer of a removed client runs. -/
structure Steady (s : State I) : Prop extends s.Sound where
  timer : s.removed = true → s.retry.timer = false

theorem steady_new (options : Options) : ({ options := options } : State I).Steady :=
  ⟨⟨nofun, nofun⟩, nofun⟩

/-- Every turn keeps a client steady. -/
theorem Steady.apply {s : State I} (h : s.Steady) (t : Turn I) : (t.apply s).Steady := by
  refine ⟨h.toSound.apply t, fun hr => ?_⟩
  cases t with
  | input runtime i =>
    apply Bool.eq_false_iff.2
    intro ht
    rcases (removed_step_iff runtime i s).1 hr with hr | rfl
    · rcases (timer_step_iff h.timer runtime i).1 ht with hm | ⟨ht, -⟩
      · -- A removed client is disconnected, and starts no timer.
        obtain ⟨-, hs⟩ := ended_of_timers (List.ne_nil_of_mem hm)
        rw [(h.ofRemoved hr).1] at hs
        rcases hs with hs | ⟨hs, -⟩ <;> cases hs
      · exact absurd ((h.timer hr).symm.trans ht) nofun
    · cases ht
  | install number interceptor => exact h.timer hr
  | uninstall number =>
    have hretry : ((Turn.uninstall number : Turn I).apply s).retry = s.retry :=
      uninstall_retry number s
    have hremoved : ((Turn.uninstall number : Turn I).apply s).removed = s.removed :=
      uninstall_removed number s
    rw [hretry]
    exact h.timer (hremoved ▸ hr)

end State

namespace Member

theorem Follows.steady {m after : Member} (h : m.Follows after) (hm : m.state.Steady) :
    after.state.Steady := by
  rcases h.state with hs | ⟨t, hs⟩
  · rwa [hs]
  · rw [hs]
    exact hm.apply t

end Member

namespace World

/-- A client that is there was there, or it was just made. -/
theorem client?_made {w : World N A} {new m : Member} {client : Nat}
    (h : (w.update fun s => { s with clients := s.clients ++ [new] }).client? client = some m) :
    w.client? client = some m ∨ m = new := by
  have h : (w.store.clients ++ [new])[client]? = some m := h
  by_cases hlt : client < w.store.clients.length
  · exact .inl ((List.getElem?_append_left hlt).symm.trans h)
  · rw [List.getElem?_append_right (Nat.le_of_not_lt hlt)] at h
    exact .inr (List.mem_singleton.1 (List.mem_of_getElem? h))

/-- A subscription that is there was there, or it was just entered. -/
theorem subscriptions_added {w : World N A} {new s : Subscription} {number : Nat}
    (h : (w.store.subscriptions ++ [new])[number]? = some s) :
    w.store.subscriptions[number]? = some s ∨ number = w.store.subscriptions.length ∧ s = new := by
  by_cases hlt : number < w.store.subscriptions.length
  · exact .inl ((List.getElem?_append_left hlt).symm.trans h)
  · have hend : number = w.store.subscriptions.length := by
      have := (List.getElem?_eq_some_iff.1 h).1
      simp only [List.length_append, List.length_singleton] at this
      omega
    subst hend
    rw [List.getElem?_concat_length] at h
    exact .inr ⟨rfl, (Option.some.inj h).symm⟩

/-- Only the subscription itself is ended. -/
theorem subscriptions_detach (w : World N A) (number other : Nat) :
    (w.detach number).store.subscriptions[other]? =
      (w.store.subscriptions[other]?).map fun s =>
        if number = other ∧ s.active = true then { s with active := false, listeners := [] }
        else s := by
  unfold detach
  split
  · next s hs =>
    split
    · next ha =>
      show (w.store.subscriptions.modify number _)[other]? = _
      rw [List.getElem?_modify]
      by_cases he : number = other
      · subst he
        simp [hs, ha]
      · simp [he]
    · next ha =>
      cases ho : w.store.subscriptions[other]? with
      | none => rfl
      | some s' =>
        rw [Option.map_some, if_neg]
        rintro ⟨rfl, ha'⟩
        rw [hs, Option.some.injEq] at ho
        exact ha (ho ▸ ha')
  · next hs =>
    cases ho : w.store.subscriptions[other]? with
    | none => rfl
    | some s' =>
      rw [Option.map_some, if_neg]
      rintro ⟨rfl, -⟩
      exact absurd (hs.symm.trans ho) nofun

/-- Ending a subscription removes its listeners. -/
theorem router_detach (w : World N A) (number : Nat) :
    ((w.detach number).router = w.router ∧ w.isLive number = false) ∨
      ∃ s, w.store.subscriptions[number]? = some s ∧ s.active = true ∧
        (w.detach number).router = w.router.removeEach s.listeners := by
  unfold detach
  split
  · next s hs =>
    split
    · next ha => exact .inr ⟨s, hs, ha, rfl⟩
    · next ha => exact .inl ⟨rfl, by simpa [isLive, hs] using ha⟩
  · next hs => exact .inl ⟨rfl, by simp [isLive, hs]⟩

namespace Piece

variable {w after : World N A}

/-- What holds of every client holds after a piece of work, if it holds of new clients and
neither a client's own steps nor changes of its registry end it. -/
theorem members {P : Member → Prop} (h : Piece w after)
    (hall : ∀ client m, w.client? client = some m → P m)
    (hfollows : ∀ m after : Member, P m → m.Follows after → P after)
    (hnew : ∀ m : Member, m.IsNew → P m)
    (hregistry : ∀ (m : Member) registry, P m → registry.closed = m.registry.closed →
      P { m with registry := registry })
    (hshut : ∀ m : Member, P m → m.state.removed = true →
      P { m with registry := { m.registry with entries := [], closed := true } })
    (client : Nat) (m : Member) (hm : after.client? client = some m) : P m := by
  -- Most pieces change one client, and leave the others alone.
  have hmodify {other : Nat} {f : Member → Member} (hf : ∀ m, w.client? other = some m → P (f m))
      (hm : (if other = client then (w.client? client).map f else w.client? client) = some m) :
      P m := by
    split at hm
    · next ho =>
      subst ho
      obtain ⟨m', hm', rfl⟩ := Option.map_eq_some_iff.1 hm
      exact hf m' hm'
    · exact hall client m hm
  cases h with
  | beside _ hclients =>
    rw [client?, hclients] at hm
    exact hall client m hm
  | change other f hf =>
    rw [client?_modifyClient] at hm
    exact hmodify (fun m' hm' => hfollows m' _ (hall other m' hm') (hf m' hm')) hm
  | make new hnew' =>
    rcases client?_made hm with hm | rfl
    · exact hall client m hm
    · exact hnew m hnew'
  | enter m₀ s =>
    rw [enroll, client?_modifyClient] at hm
    refine hmodify ?_ hm
    exact fun m' hm' => hregistry m' _ (hall s.client m' hm') rfl
  | detach number =>
    rw [client?_detach] at hm
    exact hall client m hm
  | leave other number =>
    rw [unregister, client?_modifyClient] at hm
    refine hmodify ?_ hm
    exact fun m' hm' => hregistry m' _ (hall other m' hm') rfl
  | shut other hremoved =>
    rw [World.shut, client?_modifyClient] at hm
    refine hmodify ?_ hm
    exact fun m' hm' => hshut m' (hall other m' hm') (hremoved m' hm')
  | _ => exact hall client m hm

/-- The router changes by listeners that are added and removed. -/
theorem router (h : Piece w after) : ∃ changes, after.router = w.router.after changes := by
  cases h with
  | beside hrouter => exact ⟨[], hrouter⟩
  | listen changes => exact ⟨changes, rfl⟩
  | detach number =>
    rcases w.router_detach number with ⟨hr, -⟩ | ⟨s, -, -, hr⟩
    · exact ⟨[], hr⟩
    · rw [hr, Router.removeEach_eq_after]
      exact ⟨_, rfl⟩
  | _ => exact ⟨[], rfl⟩

/-- A subscription is still there after a piece of work. It is not active again, and its
listeners are its own or were switched off. -/
theorem subscription (h : Piece w after) {number : Nat} {s : Subscription}
    (hs : w.store.subscriptions[number]? = some s)
    (hissued : ∀ handle ∈ s.listeners, handle.id < w.router.nextId) :
    ∃ s', after.store.subscriptions[number]? = some s' ∧ s'.client = s.client ∧
      (s.active = false → s'.active = false) ∧
      ∀ handle ∈ s.listeners, handle ∈ s'.listeners ∨ handle.id ∈ after.router.retired := by
  have hsame : s.client = s.client ∧ (s.active = false → s.active = false) ∧
      ∀ handle ∈ s.listeners, handle ∈ s.listeners ∨ handle.id ∈ after.router.retired :=
    ⟨rfl, id, fun _ hh => .inl hh⟩
  have happend (new : Subscription) :
      (w.store.subscriptions ++ [new])[number]? = some s :=
    (List.getElem?_append_left (List.getElem?_eq_some_iff.1 hs).1).trans hs
  cases h with
  | beside _ _ hsubscriptions => exact ⟨s, by rw [hsubscriptions]; exact hs, hsame⟩
  | reject new => exact ⟨s, happend new, hsame⟩
  | enter m new => exact ⟨s, happend new, hsame⟩
  | detach other =>
    rw [subscriptions_detach, hs, Option.map_some]
    refine ⟨_, rfl, ?_⟩
    split
    · next hc =>
      obtain ⟨rfl, ha⟩ := hc
      refine ⟨rfl, fun _ => rfl, fun handle hh => .inr ?_⟩
      rcases w.router_detach other with ⟨-, hdead⟩ | ⟨s', hs', -, hr⟩
      · simp [isLive, hs, ha] at hdead
      · obtain rfl : s' = s := Option.some.inj (hs'.symm.trans hs)
        rw [hr]
        exact Router.retired_removeEach_of_mem hh (hissued handle hh)
    · exact hsame
  | _ => exact ⟨s, hs, hsame⟩

end Piece

/-! ## The invariant -/

/-- Clients are steady, and only the registries of removed ones are closed. The listeners of
subscriptions were given out, what is not active has no listeners, every active subscription is
listed by its client, whose registry is open, and no question waits. -/
structure Orderly (w : World N A) : Prop where
  steady : ∀ client m, w.client? client = some m → m.state.Steady
  opened : ∀ client m, w.client? client = some m → m.state.removed = false →
    m.registry.closed = false
  issued : ∀ (number : Nat) (s : Subscription), w.store.subscriptions[number]? = some s →
    ∀ handle ∈ s.listeners, handle.id < w.router.nextId
  idle : ∀ (number : Nat) (s : Subscription), w.store.subscriptions[number]? = some s →
    s.active = false → s.listeners = []
  listed : ∀ (number : Nat) (s : Subscription), w.store.subscriptions[number]? = some s →
    s.active = true → ∃ m, w.client? s.client = some m ∧ m.registry.closed = false ∧
      number ∈ m.registry.entries
  asked : ∀ t ∈ w.store.tasks, t.isQuestion = false

/-- A world in which nothing happened yet. -/
structure Fresh (w : World N A) : Prop where
  router : w.router = .empty
  clients : w.store.clients = []
  subscriptions : w.store.subscriptions = []
  ready : w.store.ready = []
  sleeping : w.store.sleeping = []

theorem Fresh.orderly {w : World N A} (h : Fresh w) : Orderly w := by
  constructor
  · intro client m hm
    rw [client?, h.clients] at hm
    cases hm
  · intro client m hm
    rw [client?, h.clients] at hm
    cases hm
  · intro number s hs
    rw [h.subscriptions] at hs
    cases hs
  · intro number s hs
    rw [h.subscriptions] at hs
    cases hs
  · intro number s hs
    rw [h.subscriptions] at hs
    cases hs
  · intro t ht
    rw [System.tasks, h.ready, h.sleeping] at ht
    cases ht

namespace Orderly

variable {w after : World N A}

theorem steady_piece (h : Orderly w) (hp : Piece w after) {client : Nat} {m : Member}
    (hm : after.client? client = some m) : m.state.Steady := by
  refine hp.members h.steady ?_ ?_ ?_ ?_ client m hm
  · exact fun m _ hs hf => hf.steady hs
  · intro m hnew
    obtain ⟨options, hs⟩ := hnew.state
    rw [hs]
    exact State.steady_new options
  · exact fun _ _ hs _ => hs
  · exact fun _ hs _ => hs

theorem opened_piece (h : Orderly w) (hp : Piece w after) {client : Nat} {m : Member}
    (hm : after.client? client = some m) :
    m.state.removed = false → m.registry.closed = false := by
  refine hp.members h.opened (fun m after hopened hf hr => ?_) ?_ ?_ ?_ client m hm
  · -- Who is not removed afterwards was not removed before.
    have hr' : m.state.removed = false :=
      Bool.eq_false_iff.2 fun ht => absurd ((hf.becomes.removed ht).symm.trans hr) nofun
    exact hf.closed.trans (hopened hr')
  · intro m hnew _
    rw [hnew.registry]
  · exact fun _ _ hopened hclosed hr => hclosed.trans (hopened hr)
  · exact fun _ _ hremoved hr => absurd (hremoved.symm.trans hr) nofun

/-- The numbers of listeners only grow. -/
theorem nextId_le_piece (hp : Piece w after) : w.router.nextId ≤ after.router.nextId := by
  obtain ⟨changes, hr⟩ := hp.router
  rw [hr]
  exact w.router.nextId_le_after changes

theorem issued_piece (h : Orderly w) (hp : Piece w after) {number : Nat} {s : Subscription}
    (hs : after.store.subscriptions[number]? = some s) :
    ∀ handle ∈ s.listeners, handle.id < after.router.nextId := by
  have hold {s : Subscription} (hs : w.store.subscriptions[number]? = some s) :
      ∀ handle ∈ s.listeners, handle.id < after.router.nextId := fun handle hh =>
    Nat.lt_of_lt_of_le (h.issued number s hs handle hh) (nextId_le_piece hp)
  cases hp with
  | beside _ _ hsubscriptions => exact hold (hsubscriptions ▸ hs)
  | reject new _ hnone =>
    rcases subscriptions_added hs with hs | ⟨-, rfl⟩
    · exact hold hs
    · rw [hnone]
      exact nofun
  | enter m new _ _ _ hissued =>
    rcases subscriptions_added hs with hs | ⟨-, rfl⟩
    · exact hold hs
    · exact hissued
  | detach other =>
    rw [subscriptions_detach] at hs
    obtain ⟨s', hs', rfl⟩ := Option.map_eq_some_iff.1 hs
    split
    · exact nofun
    · exact hold hs'
  | _ => exact hold hs

theorem idle_piece (h : Orderly w) (hp : Piece w after) {number : Nat} {s : Subscription}
    (hs : after.store.subscriptions[number]? = some s) (ha : s.active = false) :
    s.listeners = [] := by
  cases hp with
  | beside _ _ hsubscriptions => exact h.idle number s (hsubscriptions ▸ hs) ha
  | reject new _ hnone =>
    rcases subscriptions_added hs with hs | ⟨-, rfl⟩
    · exact h.idle number s hs ha
    · exact hnone
  | enter m new _ _ hactive =>
    rcases subscriptions_added hs with hs | ⟨-, rfl⟩
    · exact h.idle number s hs ha
    · exact absurd (hactive.symm.trans ha) nofun
  | detach other =>
    rw [subscriptions_detach] at hs
    obtain ⟨s', hs', rfl⟩ := Option.map_eq_some_iff.1 hs
    revert ha
    split
    · exact fun _ => rfl
    · exact h.idle number s' hs'
  | _ => exact h.idle number s hs ha

theorem listed_piece (h : Orderly w) (hp : Piece w after) {number : Nat} {s : Subscription}
    (hs : after.store.subscriptions[number]? = some s) (ha : s.active = true) :
    ∃ m, after.client? s.client = some m ∧ m.registry.closed = false ∧
      number ∈ m.registry.entries := by
  -- Who lists an active subscription still does, unless its registry changes.
  have hkept {s : Subscription} (hs : w.store.subscriptions[number]? = some s)
      (ha : s.active = true) {other : Nat} {f : Member → Member}
      (hf : ∀ m, w.client? other = some m → s.client = other → m.registry.closed = false →
        number ∈ m.registry.entries →
        (f m).registry.closed = false ∧ number ∈ (f m).registry.entries) :
      ∃ m, (w.update (·.modifyClient other f)).client? s.client = some m ∧
        m.registry.closed = false ∧ number ∈ m.registry.entries := by
    obtain ⟨m, hm, hopen, hentry⟩ := h.listed number s hs ha
    rw [client?_modifyClient]
    split
    · next ho =>
      exact ⟨f m, by rw [hm]; rfl, hf m (ho ▸ hm) ho.symm hopen hentry⟩
    · exact ⟨m, hm, hopen, hentry⟩
  have hlive {s : Subscription} (hs : w.store.subscriptions[number]? = some s)
      (ha : s.active = true) : w.isLive number = true := by simpa [isLive, hs] using ha
  cases hp with
  | beside _ hclients hsubscriptions =>
    obtain ⟨m, hm, hm'⟩ := h.listed number s (hsubscriptions ▸ hs) ha
    exact ⟨m, by rw [client?, hclients]; exact hm, hm'⟩
  | listen changes => exact h.listed number s hs ha
  | change other f hf =>
    refine hkept hs ha fun m hm _ hopen hentry => ?_
    exact ⟨(hf m hm).closed.trans hopen, (hf m hm).entries ▸ hentry⟩
  | make new hnew =>
    obtain ⟨m, hm, hm'⟩ := h.listed number s hs ha
    obtain ⟨hlt, -⟩ := List.getElem?_eq_some_iff.1 hm
    exact ⟨m, (List.getElem?_append_left hlt).trans hm, hm'⟩
  | reject new hinactive =>
    rcases subscriptions_added hs with hs | ⟨-, rfl⟩
    · exact h.listed number s hs ha
    · exact absurd (ha.symm.trans hinactive) (by simp)
  | enter m new hm hopen =>
    rcases subscriptions_added hs with hs | ⟨rfl, rfl⟩
    · exact hkept hs ha fun m _ _ hopen hentry => ⟨hopen, List.mem_append_left _ hentry⟩
    · have hm : (w.addSubscription s).client? s.client = some m := hm
      rw [enroll, client?_modifyClient, if_pos rfl, hm]
      exact ⟨_, rfl, hopen, List.mem_append_right _ (List.mem_singleton.2 rfl)⟩
  | detach other =>
    rw [subscriptions_detach] at hs
    obtain ⟨s', hs', rfl⟩ := Option.map_eq_some_iff.1 hs
    rw [client?_detach]
    revert ha
    split
    · intro ha
      cases ha
    · exact h.listed number s' hs'
  | leave other ended hended =>
    refine hkept hs ha fun m _ _ hopen hentry => ⟨hopen, ?_⟩
    have hne : number ≠ ended := by
      rintro rfl
      exact absurd ((hlive hs ha).symm.trans hended) (by simp)
    exact (List.mem_erase_of_ne hne).2 hentry
  | shut other _ hended =>
    refine hkept hs ha fun m hm _ _ hentry => ?_
    exact absurd ((hlive hs ha).symm.trans (hended m hm number hentry)) (by simp)

theorem asked_piece (h : Orderly w) (hp : Piece w after) {t : Task}
    (ht : t ∈ after.store.tasks) : t.isQuestion = false := by
  cases hp with
  | beside _ _ _ htasks =>
    apply Bool.eq_false_iff.2
    intro hq
    exact absurd (hq.symm.trans (h.asked t (htasks t ht hq))) nofun
  | detach number =>
    obtain ⟨_, hstore⟩ := w.detach_store number
    rw [hstore] at ht
    exact h.asked t ht
  | _ => exact h.asked t ht

/-- A piece of work keeps a world orderly. -/
theorem piece (h : Orderly w) (hp : Piece w after) : Orderly after where
  steady _ _ := h.steady_piece hp
  opened _ _ := h.opened_piece hp
  issued _ _ := h.issued_piece hp
  idle _ _ := h.idle_piece hp
  listed _ _ := h.listed_piece hp
  asked _ := h.asked_piece hp

/-- Pieces of work keep a world orderly. -/
theorem leads (h : Orderly w) (hl : Leads w after) : Orderly after := by
  induction hl with
  | refl => exact h
  | tail _ hp ih => exact ih.piece hp

end Orderly

/-! ## What becomes of things as pieces lead on -/

namespace Leads

variable {w after : World N A}

theorem router (h : Leads w after) : ∃ changes, after.router = w.router.after changes := by
  induction h with
  | refl => exact ⟨[], rfl⟩
  | tail _ hp ih =>
    obtain ⟨cs, hcs⟩ := ih
    obtain ⟨ds, hds⟩ := hp.router
    exact ⟨cs ++ ds, by rw [hds, hcs, Router.after_append]⟩

/-- What was switched off stays so. -/
theorem retired_subset (h : Leads w after) : w.router.retired ⊆ after.router.retired := by
  obtain ⟨changes, hr⟩ := h.router
  rw [hr]
  exact w.router.retired_subset_after changes

/-- A subscription that has ended does not become active again, and its listeners are its own
until they are switched off. -/
theorem subscription (h : Leads w after) (ho : Orderly w) {number : Nat} {s : Subscription}
    (hs : w.store.subscriptions[number]? = some s) :
    ∃ s', after.store.subscriptions[number]? = some s' ∧ s'.client = s.client ∧
      (s.active = false → s'.active = false) ∧
      ∀ handle ∈ s.listeners, handle ∈ s'.listeners ∨ handle.id ∈ after.router.retired := by
  induction h with
  | refl => exact ⟨s, hs, rfl, id, fun _ hh => .inl hh⟩
  | tail hl hp ih =>
    obtain ⟨s', hs', hclient, hinactive, hlisteners⟩ := ih
    obtain ⟨s'', hs'', hclient', hinactive', hlisteners'⟩ :=
      hp.subscription hs' ((ho.leads hl).issued number s' hs')
    refine ⟨s'', hs'', hclient'.trans hclient, fun hi => hinactive' (hinactive hi), ?_⟩
    intro handle hh
    rcases hlisteners handle hh with hh | hh
    · exact hlisteners' handle hh
    · exact .inr (retired_subset (.single hp) hh)

end Leads

end World

end MqttRelay.Client
