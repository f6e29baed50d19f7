import MqttRelay.Proofs.Client.Realm
import MqttRelay.Proofs.Router.Emission

/-!
# Who listens for messages

A subscription listens for its messages with the first of the three listeners that it is made
with, until it ends. Nobody else listens under the name of a message event, and nobody but the
subscription itself switches this listener off, unless listeners of message events are removed by
hand.

Results:
* `Act.ended`, `Act.retires`: what ends a subscription, and what switches a listener off.
* `Attended.acts`: for messages only active subscriptions listen, and all of these but those that
  were muted by hand.
* `Attended.turns`: a message event of a subscription, whose id no other one has, gives a turn to
  the subscription's own listener and to no other.
-/

namespace MqttRelay.Client

open Event

variable {N A : Type}

/-- A listener is the one that a subscription listens for messages with. -/
def Subscription.Hears (s : Subscription) (l : Listener Handler) : Prop :=
  (∃ handle, s.listeners.head? = some handle ∧ l.id = handle.id) ∧
    ∃ callback, l.handler = .message callback

/-- The listener that a subscription listens for messages with is switched off. -/
def Subscription.IsMuted (s : Subscription) (router : Router Handler) : Prop :=
  ∃ handle, s.listeners.head? = some handle ∧ handle.id ∈ router.retired

namespace World

/-- No two subscriptions have the same id. -/
def DistinctIds (w : World N A) : Prop := (w.store.subscriptions.map (·.id)).Nodup

instance (w : World N A) : Decidable w.DistinctIds := inferInstanceAs (Decidable (List.Nodup _))

theorem DistinctIds.eq {w : World N A} (h : w.DistinctIds) {i j : Nat} {s t : Subscription}
    (hs : w.store.subscriptions[i]? = some s) (ht : w.store.subscriptions[j]? = some t)
    (hid : s.id = t.id) : i = j := by
  have hlt : i < (w.store.subscriptions.map (·.id)).length := by
    rw [List.length_map]
    exact (List.getElem?_eq_some_iff.1 hs).1
  refine (List.getElem?_inj hlt h).1 ?_
  rw [List.getElem?_map, List.getElem?_map, hs, ht, Option.map_some, Option.map_some, hid]

/-- Whatever listens for messages is the listener of an active subscription. Whoever is active has
its listener, unless this was switched off by hand, in a realm that permits it. -/
structure Attended (r : Realm N A) (w : World N A) : Prop where
  owned : ∀ {name : String} {l : Listener Handler}, l ∈ w.router.listeners name →
    w.router.isActive l.id = true → OfMessage name →
    ∃ (number : Nat) (s : Subscription), w.store.subscriptions[number]? = some s ∧
      s.active = true ∧ s.id.text = name ∧ s.Hears l
  listening : ∀ {number : Nat} {s : Subscription}, w.store.subscriptions[number]? = some s →
    s.active = true →
    (∃ l ∈ w.router.listeners s.id.text, w.router.isActive l.id = true ∧ s.Hears l) ∨
      r.name s.id.text ∧ s.IsMuted w.router

/-! ## What acts end -/

namespace Act

variable {r : Realm N A} {w after : World N A}

/-- A subscription ends only by its own end. -/
theorem ended (h : Act r w after) {number : Nat} {s s' : Subscription}
    (hs : w.store.subscriptions[number]? = some s)
    (hs' : after.store.subscriptions[number]? = some s') (hactive : s.active = true)
    (hended : s'.active = false) : after = w.detach number := by
  have hsame (hs' : w.store.subscriptions[number]? = some s') : False := by
    obtain rfl : s = s' := Option.some.inj (hs.symm.trans hs')
    exact Bool.noConfusion (hactive.symm.trans hended)
  have happend {new : Subscription}
      (hs' : (w.store.subscriptions ++ [new])[number]? = some s') : False :=
    hsame ((List.getElem?_append_left (List.getElem?_eq_some_iff.1 hs).1).symm.trans hs')
  cases h with
  | aside _ _ hsubscriptions =>
    rw [hsubscriptions] at hs'
    exact (hsame hs').elim
  | enter => exact (happend hs').elim
  | reject => exact (happend hs').elim
  | detach other =>
    by_cases he : other = number
    · rw [he]
    · rw [subscriptions_detach, hs, Option.map_some, if_neg (fun h => he h.1)] at hs'
      exact (hsame (hs.trans hs')).elim
  | _ => exact (hsame hs').elim

/-- A listener is switched off by hand under a name of the realm, or by the end of a subscription
that holds it. -/
theorem retires (h : Act r w after) (hregular : w.router.Regular) {name : String}
    {l : Listener Handler} (hl : l ∈ w.router.listeners name)
    (hon : w.router.isActive l.id = true) (hoff : after.router.isActive l.id = false) :
    r.name name ∨ ∃ number s, after = w.detach number ∧
      w.store.subscriptions[number]? = some s ∧ s.active = true ∧
      ∃ handle ∈ s.listeners, l.id = handle.id := by
  have hlt : l.id < w.router.nextId := hregular.lt name l hl
  have hkept {router : Router Handler} (hr : router.isActive l.id = w.router.isActive l.id)
      (ho : router.isActive l.id = false) : False := by
    rw [hr, hon] at ho
    cases ho
  cases h with
  | aside hrouter =>
    rw [hrouter] at hoff
    exact (hkept rfl hoff).elim
  | on => exact (hkept (Router.isActive_add hlt _ _ _) hoff).elim
  | off handle hnames =>
    by_cases hid : l.id = handle.id
    · exact .inl (hnames name l hl hid)
    · exact (hkept (Router.isActive_remove_of_ne hid) hoff).elim
  | removeAll event hname =>
    by_cases he : event = name
    · exact .inl (he ▸ hname)
    · exact (hkept (hregular.isActive_removeAll he hl) hoff).elim
  | make requester config =>
    rw [router_addClient] at hoff
    exact (hkept (Router.isActive_adds hlt (by simp)) hoff).elim
  | enter _ s wish =>
    rw [router_enter] at hoff
    exact (hkept (Router.isActive_adds hlt (by simp)) hoff).elim
  | detach number =>
    rcases w.router_detach number with ⟨hr, -⟩ | ⟨s, hs, hactive, hr⟩
    · rw [hr] at hoff
      exact (hkept rfl hoff).elim
    · rw [hr] at hoff
      by_cases hid : ∃ handle ∈ s.listeners, l.id = handle.id
      · exact .inr ⟨number, s, rfl, hs, hactive, hid⟩
      · exact (hkept (Router.isActive_removeEach_of_ne fun handle hh he =>
          hid ⟨handle, hh, he⟩) hoff).elim
  | _ => exact (hkept rfl hoff).elim

variable {number : Nat} {s s' : Subscription}

/-- A subscription that ends takes its listeners along. -/
theorem router_of_ended (h : Act r w after) (hs : w.store.subscriptions[number]? = some s)
    (hs' : after.store.subscriptions[number]? = some s') (hactive : s.active = true)
    (hended : s'.active = false) : after.router = w.router.removeEach s.listeners := by
  rw [h.ended hs hs' hactive hended]
  rcases w.router_detach number with ⟨-, hlive⟩ | ⟨t, ht, -, hr⟩
  · rw [isLive, hs] at hlive
    exact Bool.noConfusion (hactive.symm.trans hlive)
  · obtain rfl : s = t := Option.some.inj (hs.symm.trans ht)
    exact hr

/-- A listener of a subscription that stays active is switched off by hand only. -/
theorem name_of_retires (h : Act r w after) (hk : Kept w)
    (hs : w.store.subscriptions[number]? = some s)
    (hs' : after.store.subscriptions[number]? = some s') (hactive : s'.active = true)
    {handle : Router.Handle} (hh : handle ∈ s.listeners) {name : String} {l : Listener Handler}
    (hl : l ∈ w.router.listeners name) (hid : l.id = handle.id)
    (hon : w.router.isActive l.id = true) (hoff : after.router.isActive l.id = false) :
    r.name name := by
  rcases h.retires hk.router hl hon hoff with hname |
    ⟨other, t, rfl, ht, hactive', handle', hh', hid'⟩
  · exact hname
  · -- Who ends holds the listener, and handles are nobody else's.
    have hother : other = number := by
      by_contra hne
      exact hk.apart ht hs hne handle' hh' handle hh (hid'.symm.trans hid)
    subst hother
    obtain rfl : s = t := Option.some.inj (hs.symm.trans ht)
    rw [subscriptions_detach, hs, Option.map_some, if_pos ⟨rfl, hactive'⟩] at hs'
    rw [← Option.some.inj hs'] at hactive
    cases hactive

end Act

/-! ## Who listens -/

namespace Attended

variable {r : Realm N A} {w after : World N A}

/-- Nobody listens yet. -/
theorem of_unused (h : Unused w) : Attended r w := by
  refine ⟨fun hl => ?_, fun hs => ?_⟩
  · rw [h.router] at hl
    cases hl
  · rw [h.subscriptions] at hs
    cases hs

/-- The listener that a subscription is made with stands under its name, switched on. -/
theorem stands_enter (hk : Kept w) (s : Subscription) (wish : Outside.Wish) :
    ∃ l ∈ (w.enter s wish).router.listeners s.id.text,
      (w.enter s wish).router.isActive l.id = true ∧ l.id = w.router.nextId ∧
        l.handler = .message wish.onMessage := by
  have hname : (Key.subscription s.id .message).name = s.id.text := Key.name_message _
  let rest : List (Router.Change Handler) :=
    [.add (Key.subscription s.id .subscribed).name (some .subscribed)
        (.subscribed wish.topic wish.qos wish.onGranted),
      .add (Key.subscription s.id .subscribeFailed).name (some .subscribeFailed)
        (.subscribeFailed wish.topic wish.onRefused)]
  obtain ⟨hmem, hon⟩ := hk.router.stands_among [] s.id.text (some .message)
    (.message wish.onMessage) rest (by simp [rest])
  rw [router_enter, hname]
  exact ⟨⟨w.router.nextId, some .message, .message wish.onMessage⟩, hmem, hon, rfl, rfl⟩

/-- Who listens for messages after an act is the listener of an active subscription. -/
theorem owned_act (h : Attended r w) (hk : Kept w) (ha : Act r w after) {name : String}
    {l : Listener Handler} (hl : l ∈ after.router.listeners name)
    (hon : after.router.isActive l.id = true) (hname : OfMessage name) :
    ∃ (number : Nat) (s : Subscription), after.store.subscriptions[number]? = some s ∧
      s.active = true ∧ s.id.text = name ∧ s.Hears l := by
  obtain ⟨c, topic, qos, tag, hname'⟩ := id hname
  rcases ha.listener hl with hl | ⟨_, interest, _, _, -, he, -⟩ | ⟨_, _, -, -, hof, -⟩ |
    ⟨s, wish, rfl, hactive, -, ⟨he, hid, hhandler⟩ | ⟨he, -⟩ | ⟨he, -⟩⟩
  · -- It was there before, and its subscription has not ended, or the listener would be off.
    obtain ⟨changes, hr⟩ := ha.later.router
    have hbefore : w.router.isActive l.id = true :=
      Router.isActive_of_after (hk.router.lt name l hl) (hr ▸ hon)
    obtain ⟨number, s, hs, hactive, hid, hears⟩ := h.owned hl hbefore hname
    obtain ⟨s', hs', hb⟩ := ha.later.subscription hs
    cases hactive' : s'.active with
    | true =>
      obtain rfl := hb.still hactive'
      exact ⟨number, s', hs', hactive', hid, hears⟩
    | false =>
      obtain ⟨handle, hhandle, hlid⟩ := hears.1
      have hmem : handle ∈ s.listeners := List.mem_of_head? hhandle
      rw [ha.router_of_ended hs hs' hactive hactive', hlid,
        Router.isActive_removeEach_of_mem hmem] at hon
      cases hon
  · exact absurd (he.symm.trans hname'.symm)
      (OfClient.ne_message (ofClient_interest _ interest) c topic qos tag)
  · exact absurd hname'.symm (hof.ne_message c topic qos tag)
  · rw [show (Key.subscription s.id .message).name = s.id.text from Key.name_message _] at he
    exact ⟨_, _, List.getElem?_concat_length, hactive, he.symm, ⟨_, rfl, hid⟩, _, hhandler⟩
  · exact absurd (he.symm.trans hname'.symm) (name_ne_message _ (by decide) c topic qos tag)
  · exact absurd (he.symm.trans hname'.symm) (name_ne_message _ (by decide) c topic qos tag)

/-- A subscription that is active after an act has its listener, or it is off by hand. -/
theorem listening_act (h : Attended r w) (hk : Kept w) (ha : Act r w after) {number : Nat}
    {s : Subscription} (hs : after.store.subscriptions[number]? = some s)
    (hactive : s.active = true) :
    (∃ l ∈ after.router.listeners s.id.text, after.router.isActive l.id = true ∧ s.Hears l) ∨
      r.name s.id.text ∧ s.IsMuted after.router := by
  rcases ha.subscription hs with ⟨s₀, hs₀, hb⟩ |
    ⟨-, -, -, -, ⟨hinactive, -⟩ | ⟨s₀, wish, rfl, hid, -, hlisteners⟩⟩
  · obtain rfl := hb.still hactive
    obtain ⟨changes, hr⟩ := ha.later.router
    rcases h.listening hs₀ hactive with ⟨l, hl, hon, hears⟩ | ⟨hname, handle, hhandle, hoff⟩
    · by_cases hoff : l.id ∈ after.router.retired
      · obtain ⟨handle, hhandle, hlid⟩ := hears.1
        have hname := ha.name_of_retires hk hs₀ hs hactive (List.mem_of_head? hhandle) hl hlid hon
          (Router.isActive_of_retired hoff)
        exact .inr ⟨hname, handle, hhandle, hlid ▸ hoff⟩
      · left
        have hlt : l.id < after.router.nextId := by
          rw [hr]
          exact Nat.lt_of_lt_of_le (hk.router.lt _ l hl) (w.router.nextId_le_after changes)
        refine ⟨l, ?_, (Router.isActive_iff _ _).2 ⟨hlt, hoff⟩, hears⟩
        rw [hr] at hoff ⊢
        exact (Router.stands_or_retired hl changes).resolve_right hoff
    · exact .inr ⟨hname, handle, hhandle, hr ▸ w.router.retired_subset_after changes hoff⟩
  · exact Bool.noConfusion (hactive.symm.trans hinactive)
  · obtain ⟨l, hl, hon, hlid, hhandler⟩ := stands_enter hk s₀ wish
    rw [hid] at hl
    exact .inl ⟨l, hl, hon, ⟨_, by rw [hlisteners]; rfl, hlid⟩, _, hhandler⟩

theorem act (h : Attended r w) (hk : Kept w) (ha : Act r w after) : Attended r after :=
  ⟨fun hl hon hname => h.owned_act hk ha hl hon hname,
    fun hs hactive => h.listening_act hk ha hs hactive⟩

/-- Whatever acts follow, for messages only active subscriptions listen, and all of these but those
that were muted by hand. -/
theorem acts (h : Attended r w) (hk : Kept w) (ha : Acts r w after) : Attended r after := by
  suffices hboth : Kept after ∧ Attended r after from hboth.2
  induction ha with
  | refl => exact ⟨hk, h⟩
  | tail _ ha ih => exact ⟨ih.1.act ha, ih.2.act ih.1 ha⟩

/-! ## A message event -/

variable {act : Hub.Act (System N A) Handler} {payload : Payload}

/-- A message event of a subscription, whose id no other one has, gives a turn to the listener of
the subscription, if it is switched on, and to no other. -/
theorem turns (h : Attended r w) (hk : Kept w) (hdistinct : w.DistinctIds) {number : Nat}
    {s : Subscription} (hs : w.store.subscriptions[number]? = some s)
    (hcall : ∀ l, Hub.ChangesTo w (Hub.call act l payload w).1) :
    let ls := w.router.listeners (Key.subscription s.id .message).name
    (∃ l, Hub.turns act payload ls w = [(l, w)] ∧ s.active = true ∧ s.Hears l) ∨
      Hub.turns act payload ls w = [] ∧
        (s.active = true → r.name s.id.text ∧ s.IsMuted w.router) := by
  intro ls
  have hls : ls = w.router.listeners s.id.text := congrArg w.router.listeners (Key.name_message _)
  obtain ⟨⟨tag, hid⟩, -⟩ := hk.generated hs
  have hof : OfMessage s.id.text := ⟨_, _, _, tag, congrArg SubscriptionId.text hid.symm⟩
  -- Whoever listens and is switched on is the subscription's own listener.
  have hown {l : Listener Handler} (hl : l ∈ ls) (hon : w.router.isActive l.id = true) :
      s.active = true ∧ s.Hears l := by
    obtain ⟨other, t, ht, hactive, htext, hears⟩ := h.owned (hls ▸ hl) hon hof
    obtain rfl : other = number := hdistinct.eq ht hs (by
      cases t
      cases s
      exact congrArg SubscriptionId.mk htext)
    obtain rfl : t = s := Option.some.inj (ht.symm.trans hs)
    exact ⟨hactive, hears⟩
  by_cases hsome : ∃ l ∈ ls, w.router.isActive l.id = true
  · obtain ⟨l, hl, hon⟩ := hsome
    obtain ⟨hactive, hears⟩ := hown hl hon
    refine .inl ⟨l, ?_, hactive, hears⟩
    refine Hub.turns_eq_singleton (fun k hk' => hk.router.lt _ k hk') (hk.router.nodup _) hl hon
      (fun k hk' hon' => ?_) (hcall l)
    obtain ⟨handle, hhandle, hlid⟩ := hears.1
    obtain ⟨handle', hhandle', hkid⟩ := (hown hk' hon').2.1
    obtain rfl := Option.some.inj (hhandle.symm.trans hhandle')
    rw [hkid, hlid]
  · refine .inr ⟨(Hub.dispatch_of_inactive fun l hl => ?_).1, fun hactive => ?_⟩
    · exact Bool.eq_false_iff.2 fun hon => hsome ⟨l, hl, hon⟩
    · refine (h.listening hs hactive).resolve_left ?_
      rintro ⟨l, hl, hon, -⟩
      exact hsome ⟨l, hls ▸ hl, hon⟩

end Attended

end World

end MqttRelay.Client
