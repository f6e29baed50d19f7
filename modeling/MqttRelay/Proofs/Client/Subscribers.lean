import MqttRelay.Proofs.Client.Accounts
import MqttRelay.Proofs.Client.Attendance
import MqttRelay.Proofs.Client.StayingTasks

/-!
# Who listens for subscriptions

A subscription is made with three listeners, one under each of its names. As long as nobody
removes listeners of subscriptions by hand, these stand until the subscription ends and go with
it, and nobody else ever listens under these names.

Results:
* `Realm.lawful_sparing`: clients never listen under the names of subscriptions.
* `Subscribed.acts`: whatever acts follow, under the names of subscriptions stand the listeners of
  active subscriptions and no others.
* `Subscribed.listeners_of_active`, `Subscribed.listeners_of_ended`: an active subscription has one
  listener under each of its names, and one that ended has none.
-/

namespace MqttRelay.Client

open Event

variable {N A : Type}

/-! ## Sparing the listeners of subscriptions -/

/-- What clients do, if no listeners of subscriptions are removed by hand. -/
def Realm.sparing : Realm N A where
  owner _ := True
  member _ := True
  name event := ¬ OfSubscriptions event
  heard _ := True
  callback _ := True
  native _ _ _ := True
  kept _ _ := True

namespace Realm

theorem wide_sparing : (sparing : Realm N A).Wide :=
  ⟨fun _ => trivial, fun _ => trivial, fun _ => trivial, fun _ => trivial, fun _ _ => trivial⟩

theorem lawful_sparing : (sparing : Realm N A).Lawful :=
  fun _ _ _ hname => hname.not_ofSubscriptions

theorem fits_sparing (layer : Native.Layer N) : Fits layer (sparing : Realm N A) :=
  ⟨fun _ _ _ _ _ => trivial, fun _ _ _ _ _ _ _ => trivial⟩

end Realm

/-- Whether an operation removes no listeners of subscriptions by hand. -/
def Operation.Spares (w : World N A) : Operation → Prop
  | .off handle => ∀ name, ∀ l ∈ w.router.listeners name, l.id = handle.id →
      ¬ OfSubscriptions name
  | .removeAll event => ¬ OfSubscriptions event
  | _ => True

theorem Operation.Spares.permits {w : World N A} {o : Operation} (h : o.Spares w) :
    Realm.sparing.Permits w o := by
  cases o with
  | subscribe => exact ⟨fun _ _ => trivial, ⟨trivial, fun _ _ => trivial, fun _ _ => trivial⟩⟩
  | unsubscribe => exact fun _ _ => trivial
  | on client interest callback =>
    exact ⟨(ofClient_interest _ interest).not_ofSubscriptions, trivial⟩
  | off => exact h
  | removeAll => exact h
  | _ => exact fun _ _ => trivial

/-- Whether what happens removes no listeners of subscriptions by hand. -/
def Happening.Spares (w : World N A) : Happening N A → Prop
  | .perform o => o.Spares w
  | _ => True

theorem Happening.Spares.allows {w : World N A} {h : Happening N A} (hs : h.Spares w)
    (layer : Native.Layer N) : Realm.sparing.Allows layer w h := by
  cases h with
  | perform o => exact Operation.Spares.permits hs
  | beside => exact .inr trivial
  | _ => trivial

/-! ## Handles of a subscription -/

namespace Subscription

variable {s : Subscription} {next : Nat} {a b : Router.Handle}

/-- A subscription has a handle for each of its names. -/
theorem mem_handles_iff : a ∈ s.handles next ↔ ∃ k ∈ Kind.ofSubscription,
    a = ⟨next + Kind.ofSubscription.idxOf k, (Key.subscription s.id k).name⟩ := by
  have hindices : Kind.ofSubscription.idxOf .message = 0 ∧
      Kind.ofSubscription.idxOf .subscribed = 1 ∧
      Kind.ofSubscription.idxOf .subscribeFailed = 2 := by decide
  obtain ⟨hfirst, hsecond, hthird⟩ := hindices
  rw [Subscription.handles]
  constructor
  · intro h
    simp only [List.mem_cons, List.not_mem_nil, or_false] at h
    rcases h with rfl | rfl | rfl
    · exact ⟨.message, by decide, by rw [hfirst]; rfl⟩
    · exact ⟨.subscribed, by decide, by rw [hsecond]⟩
    · exact ⟨.subscribeFailed, by decide, by rw [hthird]⟩
  · rintro ⟨k, hk, rfl⟩
    cases k with
    | message => simp [hfirst]
    | subscribed => simp [hsecond]
    | subscribeFailed => simp [hthird]
    | _ => exact absurd hk (by decide)

/-- The handles of a subscription are for its own names. -/
theorem ofSubscription_of_mem_handles (h : a ∈ s.handles next) : OfSubscription s.id a.event := by
  obtain ⟨k, hk, rfl⟩ := mem_handles_iff.1 h
  exact ofSubscription_name _ hk

/-- No two handles of a subscription have one number. -/
theorem event_eq_of_id_eq (ha : a ∈ s.handles next) (hb : b ∈ s.handles next)
    (h : a.id = b.id) : a.event = b.event := by
  obtain ⟨k, hk, rfl⟩ := mem_handles_iff.1 ha
  obtain ⟨l, -, rfl⟩ := mem_handles_iff.1 hb
  obtain rfl : k = l := (List.idxOf_inj hk).1 (Nat.add_left_cancel h)
  rfl

/-- No two handles of a subscription are for one name. -/
theorem id_eq_of_event_eq (hs : s.IsGenerated) (ha : a ∈ s.handles next)
    (hb : b ∈ s.handles next) (h : a.event = b.event) : a.id = b.id := by
  obtain ⟨k, -, rfl⟩ := mem_handles_iff.1 ha
  obtain ⟨l, hl, rfl⟩ := mem_handles_iff.1 hb
  obtain ⟨tag, hid⟩ := hs
  have hname : (Key.subscription s.id k).name = (Key.subscription s.id l).name := h
  rw [hid] at hname
  rw [(name_subscription_inj hl hname).2]

theorem IsGenerated.ofSubscriptions (h : s.IsGenerated) {name : String}
    (hname : OfSubscription s.id name) : OfSubscriptions name := by
  obtain ⟨tag, hid⟩ := h
  exact ⟨s.clientId, s.topic, s.qos, tag, hid ▸ hname⟩

end Subscription

namespace World

/-! ## The listeners of subscriptions -/

/-- Under the names of subscriptions stand the listeners of active subscriptions, all of them and
no others. -/
structure Subscribed (w : World N A) : Prop where
  owned : ∀ {name : String} {l : Listener Handler}, l ∈ w.router.listeners name →
    OfSubscriptions name →
    ∃ (number : Nat) (s : Subscription), w.store.subscriptions[number]? = some s ∧
      s.active = true ∧ ⟨l.id, name⟩ ∈ s.listeners
  handles : ∀ {number : Nat} {s : Subscription}, w.store.subscriptions[number]? = some s →
    s.active = true → ∃ next, s.listeners = s.handles next
  standing : ∀ {number : Nat} {s : Subscription}, w.store.subscriptions[number]? = some s →
    s.active = true → ∀ handle ∈ s.listeners, ∃ l ∈ w.router.listeners handle.event,
      l.id = handle.id ∧ w.router.isActive l.id = true

/-! ## New listeners -/

/-- A listener after a subscription was made was there before, or it is one of its three. -/
theorem listener_enter {s : Subscription} {wish : Outside.Wish} {w : World N A} {name : String}
    {l : Listener Handler} (hl : l ∈ (w.enter s wish).router.listeners name) :
    l ∈ w.router.listeners name ∨ ⟨l.id, name⟩ ∈ s.handles w.router.nextId := by
  rw [router_enter] at hl
  simp only [Router.after, List.foldl_cons, List.foldl_nil] at hl
  simp only [Subscription.handles, List.mem_cons, List.not_mem_nil, or_false]
  rcases Router.mem_listeners_change hl with hl | ⟨_, _, hc, rfl⟩
  · rcases Router.mem_listeners_change hl with hl | ⟨_, _, hc, rfl⟩
    · rcases Router.mem_listeners_change hl with hl | ⟨_, _, hc, rfl⟩
      · exact .inl hl
      · obtain ⟨rfl, -⟩ := Router.Change.add.inj hc
        exact .inr (.inl rfl)
    · obtain ⟨rfl, -⟩ := Router.Change.add.inj hc
      exact .inr (.inr (.inl rfl))
  · obtain ⟨rfl, -⟩ := Router.Change.add.inj hc
    exact .inr (.inr (.inr rfl))

/-- All three listeners of a new subscription stand under its names, switched on. -/
theorem stands_enter {w : World N A} (hr : w.router.Regular) (s : Subscription)
    (wish : Outside.Wish) :
    ∀ handle ∈ s.handles w.router.nextId,
      ∃ l ∈ (w.enter s wish).router.listeners handle.event, l.id = handle.id ∧
        (w.enter s wish).router.isActive l.id = true := by
  let first : Router.Change Handler :=
    .add (Key.subscription s.id .message).name (some .message) (.message wish.onMessage)
  let second : Router.Change Handler :=
    .add (Key.subscription s.id .subscribed).name (some .subscribed)
      (.subscribed wish.topic wish.qos wish.onGranted)
  let third : Router.Change Handler :=
    .add (Key.subscription s.id .subscribeFailed).name (some .subscribeFailed)
      (.subscribeFailed wish.topic wish.onRefused)
  intro handle hh
  rw [router_enter]
  simp only [Subscription.handles, List.mem_cons, List.not_mem_nil, or_false] at hh
  rcases hh with rfl | rfl | rfl
  · obtain ⟨hl, hon⟩ := hr.stands_among [] _ _ _ [second, third]
      (by simp [second, third])
    exact ⟨_, hl, rfl, hon⟩
  · obtain ⟨hl, hon⟩ := hr.stands_among [first] _ _ _ [third] (by simp [third])
    exact ⟨_, hl, rfl, hon⟩
  · obtain ⟨hl, hon⟩ := hr.stands_among [first, second] _ _ _ [] (by simp)
    exact ⟨_, hl, rfl, hon⟩

namespace Subscribed

variable {w after : World N A}

/-- Nobody listens yet. -/
theorem of_unused (h : Unused w) : Subscribed w := by
  refine ⟨fun hl => ?_, fun hs => ?_, fun hs => ?_⟩
  · rw [h.router] at hl
    cases hl
  · rw [h.subscriptions] at hs
    cases hs
  · rw [h.subscriptions] at hs
    cases hs

/-- Who stands after an act under the name of a subscription and stood there before: its
subscription has not ended, or the listener would be gone. -/
theorem owned_still (h : Subscribed w) (ha : Act Realm.sparing w after) {name : String}
    {l : Listener Handler} (hl : l ∈ after.router.listeners name)
    (hold : l ∈ w.router.listeners name) (hname : OfSubscriptions name) :
    ∃ (number : Nat) (s : Subscription), after.store.subscriptions[number]? = some s ∧
      s.active = true ∧ ⟨l.id, name⟩ ∈ s.listeners := by
  obtain ⟨number, s, hs, hactive, hmem⟩ := h.owned hold hname
  obtain ⟨s', hs', hb⟩ := ha.later.subscription hs
  cases hactive' : s'.active with
  | true =>
    obtain rfl := hb.still hactive'
    exact ⟨number, s', hs', hactive', hmem⟩
  | false =>
    rw [ha.router_of_ended hs hs' hactive hactive'] at hl
    obtain ⟨next, hhandles⟩ := h.handles hs hactive
    obtain ⟨k, -, hk, hon⟩ := h.standing hs hactive _ hmem
    have hsame : ∀ other ∈ s.listeners, other.id = l.id → other.event = name :=
      fun other ho hid => Subscription.event_eq_of_id_eq (hhandles ▸ ho) (hhandles ▸ hmem) hid
    exact absurd rfl (Router.id_ne_of_mem_listeners_removeEach hmem (hk ▸ hon) hsame hl)

theorem owned_act (h : Subscribed w) (ha : Act Realm.sparing w after) {name : String}
    {l : Listener Handler} (hl : l ∈ after.router.listeners name)
    (hname : OfSubscriptions name) :
    ∃ (number : Nat) (s : Subscription), after.store.subscriptions[number]? = some s ∧
      s.active = true ∧ ⟨l.id, name⟩ ∈ s.listeners := by
  rcases ha.listener hl with hold | ⟨_, interest, _, _, -, rfl, -⟩ | ⟨_, _, -, -, hof, -⟩ |
    ⟨s, wish, rfl, hactive, -⟩
  · exact h.owned_still ha hl hold hname
  · exact absurd hname (ofClient_interest _ interest).not_ofSubscriptions
  · exact absurd hname hof.not_ofSubscriptions
  · rcases listener_enter hl with hold | hnew
    · exact h.owned_still ha hl hold hname
    · exact ⟨_, _, List.getElem?_concat_length, hactive, hnew⟩

theorem handles_act (h : Subscribed w) (ha : Act Realm.sparing w after) {number : Nat}
    {s : Subscription} (hs : after.store.subscriptions[number]? = some s)
    (hactive : s.active = true) : ∃ next, s.listeners = s.handles next := by
  rcases ha.subscription hs with ⟨s₀, hs₀, hb⟩ |
    ⟨-, -, -, -, ⟨hinactive, -⟩ | ⟨_, _, -, -, -, hlisteners⟩⟩
  · obtain rfl := hb.still hactive
    exact h.handles hs₀ hactive
  · exact Bool.noConfusion (hactive.symm.trans hinactive)
  · exact ⟨w.router.nextId, hlisteners⟩

/-- An active subscription keeps its listeners. -/
theorem standing_act (h : Subscribed w) (hk : Kept w) (ha : Act Realm.sparing w after)
    {number : Nat} {s : Subscription} (hs : after.store.subscriptions[number]? = some s)
    (hactive : s.active = true) :
    ∀ handle ∈ s.listeners, ∃ l ∈ after.router.listeners handle.event,
      l.id = handle.id ∧ after.router.isActive l.id = true := by
  intro handle hh
  rcases ha.subscription hs with ⟨s₀, hs₀, hb⟩ |
    ⟨-, -, -, -, ⟨hinactive, -⟩ | ⟨s₀, wish, rfl, hid, -, hlisteners⟩⟩
  · obtain rfl := hb.still hactive
    obtain ⟨changes, hr⟩ := ha.later.router
    obtain ⟨l, hl, hlid, hon⟩ := h.standing hs₀ hactive handle hh
    -- By hand nobody switches it off, as its name is one of the subscription's.
    have hname : OfSubscriptions handle.event := by
      obtain ⟨next, hhandles⟩ := h.handles hs₀ hactive
      exact (hk.generated hs₀).1.ofSubscriptions
        (Subscription.ofSubscription_of_mem_handles (hhandles ▸ hh))
    have hon' : after.router.isActive l.id = true := by
      by_contra hoff
      exact ha.name_of_retires hk hs₀ hs hactive hh hl hlid hon (Bool.eq_false_iff.2 hoff) hname
    refine ⟨l, ?_, hlid, hon'⟩
    rw [hr] at hon' ⊢
    exact Router.stands_of_isActive hl hon'
  · exact Bool.noConfusion (hactive.symm.trans hinactive)
  · have hhandles : s.listeners = s₀.handles w.router.nextId := by
      rw [hlisteners, Subscription.handles, hid]
    exact stands_enter hk.router s₀ wish handle (hhandles ▸ hh)

theorem act (h : Subscribed w) (hk : Kept w) (ha : Act Realm.sparing w after) :
    Subscribed after :=
  ⟨fun hl hname => h.owned_act ha hl hname, fun hs hactive => h.handles_act ha hs hactive,
    fun hs hactive => h.standing_act hk ha hs hactive⟩

/-- Whatever acts follow, under the names of subscriptions stand the listeners of active
subscriptions and no others. -/
theorem acts (h : Subscribed w) (hk : Kept w) (ha : Acts Realm.sparing w after) :
    Subscribed after := by
  suffices hboth : Kept after ∧ Subscribed after from hboth.2
  induction ha with
  | refl => exact ⟨hk, h⟩
  | tail _ ha ih => exact ⟨ih.1.act ha, ih.2.act ih.1 ha⟩

/-! ## One listener for each name -/

/-- Who stands under a name of a subscription, whose id no other one has, is its own. -/
theorem mem_listeners (h : Subscribed w) (hk : Kept w) (hdistinct : w.DistinctIds) {number : Nat}
    {s : Subscription} (hs : w.store.subscriptions[number]? = some s) {k : Kind}
    (hkind : k ∈ Kind.ofSubscription) {l : Listener Handler}
    (hl : l ∈ w.router.listeners (Key.subscription s.id k).name) :
    s.active = true ∧ ⟨l.id, (Key.subscription s.id k).name⟩ ∈ s.listeners := by
  have hgenerated := (hk.generated hs).1
  obtain ⟨other, t, ht, hactive, hmem⟩ :=
    h.owned hl (hgenerated.ofSubscriptions (ofSubscription_name _ hkind))
  obtain ⟨next, hhandles⟩ := h.handles ht hactive
  obtain ⟨k', hk', hname⟩ := Subscription.ofSubscription_of_mem_handles (hhandles ▸ hmem)
  obtain ⟨tag, hid⟩ := hgenerated
  obtain ⟨tag', hid'⟩ := (hk.generated ht).1
  rw [hid, hid'] at hname
  have hsame : t.id = s.id := hid'.trans ((name_subscription_inj hkind hname).1.trans hid.symm)
  obtain rfl := hdistinct.eq ht hs hsame
  obtain rfl : t = s := Option.some.inj (ht.symm.trans hs)
  exact ⟨hactive, hmem⟩

/-- An active subscription, whose id no other one has, has one listener under each of its names. -/
theorem listeners_of_active (h : Subscribed w) (hk : Kept w) (hdistinct : w.DistinctIds)
    {number : Nat} {s : Subscription} (hs : w.store.subscriptions[number]? = some s)
    (hactive : s.active = true) {k : Kind} (hkind : k ∈ Kind.ofSubscription) :
    ∃ l, w.router.listeners (Key.subscription s.id k).name = [l] ∧
      ⟨l.id, (Key.subscription s.id k).name⟩ ∈ s.listeners ∧
      w.router.isActive l.id = true := by
  obtain ⟨next, hhandles⟩ := h.handles hs hactive
  have hmem : ⟨next + Kind.ofSubscription.idxOf k, (Key.subscription s.id k).name⟩ ∈
      s.handles next := Subscription.mem_handles_iff.2 ⟨k, hkind, rfl⟩
  obtain ⟨l, hl, hlid, hon⟩ := h.standing hs hactive _ (hhandles ▸ hmem)
  have hown := (h.mem_listeners hk hdistinct hs hkind hl).2
  refine ⟨l, ?_, hown, hon⟩
  -- Whoever else stands there has the same number, which stands only once.
  have hsame : ∀ m ∈ w.router.listeners (Key.subscription s.id k).name, m.id = l.id := by
    intro m hm
    have hmown := (h.mem_listeners hk hdistinct hs hkind hm).2
    exact Subscription.id_eq_of_event_eq (a := ⟨m.id, _⟩) (b := ⟨l.id, _⟩) (hk.generated hs).1
      (hhandles ▸ hmown) (hhandles ▸ hown) rfl
  have hids : (w.router.listeners (Key.subscription s.id k).name).map (·.id) =
      List.replicate (w.router.listeners (Key.subscription s.id k).name).length l.id :=
    List.eq_replicate_iff.2 ⟨List.length_map _, List.forall_mem_map.2 hsame⟩
  have hle := List.nodup_replicate.1 (hids ▸ hk.router.nodup (Key.subscription s.id k).name)
  obtain ⟨m, hm⟩ := List.length_eq_one_iff.1 (Nat.le_antisymm hle (List.length_pos_of_mem hl))
  rw [hm] at hl ⊢
  rw [List.mem_singleton.1 hl]

theorem listeners_of_ended (h : Subscribed w) (hk : Kept w) (hdistinct : w.DistinctIds)
    {number : Nat} {s : Subscription} (hs : w.store.subscriptions[number]? = some s)
    (hended : s.active = false) {k : Kind} (hkind : k ∈ Kind.ofSubscription) :
    w.router.listeners (Key.subscription s.id k).name = [] := by
  refine List.eq_nil_iff_forall_not_mem.2 fun l hl => ?_
  have hactive := (h.mem_listeners hk hdistinct hs hkind hl).1
  exact Bool.noConfusion (hactive.symm.trans hended)

end Subscribed

end World

end MqttRelay.Client
