import MqttRelay.Native.Recorder
import MqttRelay.Proofs.Client.AccountingTasks
import MqttRelay.Proofs.Client.Subscribers

/-!
# Subscriptions, registries, listeners and the gauge agree

Whether a subscription is active shows in four places: in the subscription itself, in the registry
of its client, in the router and in the gauge. They agree whenever anybody can look: between
operations, inside of callbacks, and while an event waits for those who have not had their turn.

Results:
* `Met.happen`, `Met.perform`, `Met.turn`: what applications and callbacks meet is come to by acts
  that spare the listeners of subscriptions, and by transactions.
* `Met.agrees`: in every world that is met, the four places agree.
-/

namespace MqttRelay.Client

open Event Native

variable {N A : Type}

/-- Surroundings whose callbacks and interceptors run programs that remove no listeners of
subscriptions by hand. -/
structure Surroundings.Spares (x : Surroundings N A) (layer : Layer N)
    (program : Nat → Notice → Program N A) (start : World N A) : Prop where
  outside : ∃ depth, x.toOutside = .nested layer program depth
  callbacks : ∀ callback depth notice v, World.Acts Realm.sparing start v →
    (Outside.nested layer program depth).Obeys Operation.Spares (fun _ _ => True)
      (program callback notice) v
  consult : ∀ interceptor reason v, ∃ p, (x.consult interceptor reason v).1 = (x.execute p v).1 ∧
    (World.Acts Realm.sparing start v →
      x.toOutside.Obeys Operation.Spares (fun _ _ => True) p v)
  resume : ∀ interceptor call v, ∃ p, (x.resume interceptor call v).1 = (x.execute p v).1 ∧
    (World.Acts Realm.sparing start v →
      x.toOutside.Obeys Operation.Spares (fun _ _ => True) p v)

namespace Surroundings.Spares

variable {x : Surroundings N A} {layer : Layer N} {program : Nat → Notice → Program N A}
  {start : World N A} (hx : x.Spares layer program start)

include hx

theorem minds (interceptor : Nat) :
    x.Minds (Realm.sparing : Realm N A).Permits Realm.sparing.kept
      (World.Acts Realm.sparing start) interceptor where
  consult reason v hv := by
    obtain ⟨p, heq, hobeys⟩ := hx.consult interceptor reason v
    exact ⟨p, (hobeys hv).mono fun _ _ ho => ho.permits, heq⟩
  resume call v hv := by
    obtain ⟨p, heq, hobeys⟩ := hx.resume interceptor call v
    exact ⟨p, (hobeys hv).mono fun _ _ ho => ho.permits, heq⟩

theorem ofTransactions : x.OfTransactions := by
  obtain ⟨depth, hdepth⟩ := hx.outside
  have htell : ∀ callback notice w, World.Transacts w (x.tell callback notice w).1 :=
    hdepth ▸ World.Transacts.nested layer program depth
  refine ⟨htell, fun interceptor reason w => ?_, fun interceptor call w => ?_⟩
  · obtain ⟨p, heq, -⟩ := hx.consult interceptor reason w
    exact heq ▸ World.Transacts.execute htell p w
  · obtain ⟨p, heq, -⟩ := hx.resume interceptor call w
    exact heq ▸ World.Transacts.execute htell p w

/-- Callbacks spare the listeners of subscriptions, however deep they nest. -/
theorem stays_nested (hstart : World.Unused start) (depth callback : Nat) (notice : Notice)
    (v : World N A) :
    World.Stays Realm.sparing start v
      ((Outside.nested layer program depth).tell callback notice v).1 :=
  World.Stays.nested (hstart.settled Realm.wide_sparing) (Realm.fits_sparing layer)
    Realm.lawful_sparing (fun depth callback notice v _ hv =>
      (hx.callbacks callback depth notice v hv).mono fun _ _ ho => ho.permits)
    depth callback notice v trivial

end Surroundings.Spares

namespace World

/-- What is met in a run: whatever acts lead to that spare the listeners of subscriptions, with
nobody's accounts caught in the midst of a transaction. -/
def Met (start w : World N A) : Prop := Acts Realm.sparing start w ∧ Transacts start w

/-- What there is of subscriptions agrees. -/
structure Agrees (w : World N A) : Prop where
  listed : ∀ {number : Nat} {s : Subscription}, w.store.subscriptions[number]? = some s →
    (s.active = true ↔ ∃ m, w.client? s.client = some m ∧ number ∈ m.registry.entries)
  heard : ∀ {number : Nat} {s : Subscription}, w.store.subscriptions[number]? = some s →
    s.active = true → ∀ k ∈ Kind.ofSubscription,
      ∃ l, w.router.listeners (Key.subscription s.id k).name = [l] ∧
        ⟨l.id, (Key.subscription s.id k).name⟩ ∈ s.listeners ∧ w.router.isActive l.id = true
  silent : ∀ {number : Nat} {s : Subscription}, w.store.subscriptions[number]? = some s →
    s.active = false → ∀ k ∈ Kind.ofSubscription,
      w.router.listeners (Key.subscription s.id k).name = []
  counted : ∀ {client : Nat} {m : Member}, w.client? client = some m →
    m.registry.entries.length =
      w.store.subscriptions.countP fun s => s.active && s.client == client
  gauge : w.metrics.subscriptions = (w.store.clients.map (·.registry.entries.length)).sum

/-! ## What the accounts say -/

namespace Agrees

variable {w : World N A}

theorem listed_of_balanced (h : w.accounts.Balanced) {number : Nat} {s : Subscription}
    (hs : w.store.subscriptions[number]? = some s) :
    s.active = true ↔ ∃ m, w.client? s.client = some m ∧ number ∈ m.registry.entries := by
  constructor
  · intro hactive
    obtain ⟨c, hc, -⟩ := h.tagged hs
    obtain ⟨m, hm, rfl⟩ := Option.map_eq_some_iff.1 (w.clients_accounts s.client ▸ hc)
    exact ⟨m, hm, (h.listed hc number).2 ⟨s, hs, rfl, hactive⟩⟩
  · rintro ⟨m, hm, hmem⟩
    obtain ⟨t, ht, -, hactive⟩ := (h.listed (account_of_client hm) number).1 hmem
    obtain rfl : s = t := Option.some.inj (hs.symm.trans ht)
    exact hactive

theorem distinctIds_of_balanced (h : w.accounts.Balanced)
    (hids : (w.store.clients.map (·.identity.clientId)).Nodup)
    (hhash : ∀ m ∈ w.store.clients, '#' ∉ m.identity.clientId.toList) : w.DistinctIds := by
  have hids' : (w.accounts.clients.map (·.clientId)).Nodup := by
    rw [accounts, List.map_map]
    exact hids
  have hhash' : ∀ c ∈ w.accounts.clients, '#' ∉ c.clientId.toList := List.forall_mem_map.2 hhash
  refine List.nodup_iff_getElem?_ne_getElem?.2 fun i j hij hj heq => ?_
  rw [List.length_map] at hj
  have hi : i < w.store.subscriptions.length := Nat.lt_trans hij hj
  rw [List.getElem?_map, List.getElem?_map, List.getElem?_eq_getElem hi,
    List.getElem?_eq_getElem hj] at heq
  exact Nat.ne_of_lt hij (h.eq_of_id hids' hhash' (List.getElem?_eq_getElem hi)
    (List.getElem?_eq_getElem hj) (Option.some.inj heq))

/-- What is accounted for agrees with who listens, if the listeners of subscriptions stand as long
as these are active. -/
theorem of_subscribed (hbalanced : w.accounts.Balanced) (hkept : Kept w)
    (hsubscribed : Subscribed w) (hids : (w.store.clients.map (·.identity.clientId)).Nodup)
    (hhash : ∀ m ∈ w.store.clients, '#' ∉ m.identity.clientId.toList) : Agrees w where
  listed hs := listed_of_balanced hbalanced hs
  heard hs hactive _ hk := hsubscribed.listeners_of_active hkept
    (distinctIds_of_balanced hbalanced hids hhash) hs hactive hk
  silent hs hended _ hk := hsubscribed.listeners_of_ended hkept
    (distinctIds_of_balanced hbalanced hids hhash) hs hended hk
  counted hm := hbalanced.length_entries (account_of_client hm)
  gauge := by
    refine hbalanced.gauge_eq_sum.trans ?_
    rw [accounts, List.map_map]
    rfl

end Agrees

/-! ## What is met -/

namespace Met

variable {x : Surroundings N A} {layer : Layer N} {program : Nat → Notice → Program N A}
  {start w after : World N A}

theorem refl (start : World N A) : Met start start := ⟨.refl, .refl start⟩

theorem trans (h : Met start w) (hs : Stays Realm.sparing start w after)
    (ht : Transacts w after) : Met start after :=
  ⟨Relation.ReflTransGen.trans h.1 (hs h.1), h.2.trans ht⟩

section Runs

variable (hx : x.Spares layer program start) (hstart : Unused start) (hw : Met start w)

include hx hstart hw

/-- Whatever happens leads to a world that is met. -/
theorem happen {h : Happening N A} (hspares : h.Spares w) : Met start (x.happen h w) := by
  have hsettled := hstart.settled (Realm.wide_sparing (N := N) (A := A))
  have htell : ∀ callback notice v, (Realm.sparing : Realm N A).callback callback →
      Stays Realm.sparing start v (x.tell callback notice v).1 := by
    obtain ⟨depth, hdepth⟩ := hx.outside
    rw [hdepth]
    exact fun callback notice v _ => hx.stays_nested hstart depth callback notice v
  have hheeds (interceptor : Nat) : x.Heeds Realm.sparing start interceptor :=
    Stays.heeds hsettled Realm.lawful_sparing htell (Realm.fits_sparing _) (hx.minds interceptor)
  exact hw.trans (Stays.happen hsettled Realm.lawful_sparing Realm.wide_sparing htell
    (Realm.fits_sparing _) hheeds (hspares.allows _)) (Transacts.happen hx.ofTransactions h w)

/-- So does what a callback does, however deep callbacks nest. -/
theorem perform (depth : Nat) {o : Operation} (hspares : o.Spares w) :
    Met start ((Outside.nested layer program depth).perform o w) := by
  have hfits : Fits (Outside.nested layer program depth).layer (Realm.sparing : Realm N A) :=
    Realm.fits_sparing _
  exact hw.trans (Stays.perform (hstart.settled Realm.wide_sparing)
    (fun callback notice v _ => hx.stays_nested hstart depth callback notice v) hfits
    Realm.lawful_sparing hspares.permits)
    (Transacts.perform (Transacts.nested layer program depth) o w)

/-- Whoever has a turn in an event finds a world that is met. -/
theorem turn (depth : Nat) (event : String) (payload : Event.Payload) :
    ∀ t ∈ Hub.turns (Outside.nested layer program depth).act payload (w.router.listeners event) w,
      Met start t.2 := by
  intro t ht
  have hsettled := hstart.settled (Realm.wide_sparing (N := N) (A := A))
  have hstays : Stays Realm.sparing start w t.2 :=
    Hub.turn_rel Stays.refl Stays.trans _ (fun l hl v => Stays.call
      (fun callback notice v _ => hx.stays_nested hstart depth callback notice v)
      (Realm.wide_sparing.admits l.handler) payload v) w t ht
  exact hw.trans hstays
    (Transacts.turn (Transacts.nested layer program depth) payload _ w t ht)

end Runs

section Runs

variable (hx : x.Spares layer program start) (hstart : Unused start)

include hx hstart

/-- What happens one after another leads to a world that is met. -/
theorem foldl {happenings : List (Happening N A)}
    (hspares : ∀ h ∈ happenings, ∀ v, Met start v → h.Spares v) (hw : Met start w) :
    Met start (happenings.foldl (fun w h => x.happen h w) w) := by
  induction happenings generalizing w with
  | nil => exact hw
  | cons h happenings ih =>
    obtain ⟨hfirst, hrest⟩ := List.forall_mem_cons.1 hspares
    exact ih hrest (happen hx hstart hw (hfirst w hw))

/-- Subscriptions, registries, listeners and the gauge agree in every world that is met, if the
clients have ids of their own without a number sign. Whatever happens leads to such worlds, and so
does every operation of a callback; and everybody who has a turn in an event finds one. -/
theorem agrees (hgauge : start.metrics.subscriptions = 0) (hw : Met start w)
    (hids : (w.store.clients.map (·.identity.clientId)).Nodup)
    (hhash : ∀ m ∈ w.store.clients, '#' ∉ m.identity.clientId.toList) :
    (∀ h : Happening N A, h.Spares w → Met start (x.happen h w)) ∧
    (∀ depth, ∀ o : Operation, o.Spares w →
      Met start ((Outside.nested layer program depth).perform o w)) ∧
    (∀ depth event payload, ∀ t ∈ Hub.turns (Outside.nested layer program depth).act payload
      (w.router.listeners event) w, Met start t.2) ∧
    Agrees w := by
  have hempty : start.accounts = ⟨[], [], 0⟩ := by
    rw [accounts, hstart.clients, hstart.subscriptions, hgauge, List.map_nil]
  have hbalanced : w.accounts.Balanced :=
    (hempty ▸ Accounts.Balanced.empty : start.accounts.Balanced).transactions hw.2
  have hkept : Kept w := ((hstart.settled Realm.wide_sparing).acts hw.1).toKept
  have hsubscribed : Subscribed w := (Subscribed.of_unused hstart).acts hstart.kept hw.1
  exact ⟨fun h hspares => happen hx hstart hw hspares,
    fun depth o hspares => perform hx hstart hw depth hspares,
    fun depth event payload => turn hx hstart hw depth event payload,
    .of_subscribed hbalanced hkept hsubscribed hids hhash⟩

end Runs

end Met

/-! ## A client that rearranges -/

/-- What the callbacks do. The first one ends the subscription that tells it, makes another and
removes the other client; the second one does nothing. -/
def rearranging (callback : Nat) (_ : Notice) : Program Recorder Unit :=
  match callback with
  | 0 => .perform (.unsubscribe 0) (.perform (.subscribe 0 ⟨"u", .atMostOnce, 1, none, some 1⟩)
      (.perform (.remove 1) (.finish true)))
  | _ => .finish true

def rearranger : Surroundings Recorder Unit where
  toOutside := .nested Recorder.layer rearranging 2
  consult _ _ w := (w, .decided (.proceed none))
  resume _ _ w := (w, .proceed none)

def blank : World Recorder Unit := { store := { native := { behavior := .accept }, app := () } }

/-- Two clients subscribe, and a message for the first one comes in. -/
def rearrangement : List (Happening Recorder Unit) :=
  [.create (.name "x") { clientId := "x", host := "broker.test", port := 1883 },
    .create (.name "y") { clientId := "y", host := "broker.test", port := 1883 },
    .perform (.connect 0 none), .perform (.connect 1 none),
    .perform (.subscribe 0 ⟨"t", .atMostOnce, 0, none, none⟩),
    .perform (.subscribe 1 ⟨"t", .atMostOnce, 1, none, none⟩),
    .emit (Key.subscription (.generate "x" "t" .atMostOnce 1) .message).name
      (Event.Message.mk "news" "t" .atMostOnce).payload]

def rearranged : World Recorder Unit :=
  rearrangement.foldl (fun w h => rearranger.happen h w) blank

/-- The native layer refuses the next subscription. -/
def refusal : List (Happening Recorder Unit) :=
  [.beside (rearranged.store.native.fail .subscribe) () 0 rearranged.store.names,
    .perform (.subscribe 0 ⟨"v", .atMostOnce, 1, none, some 1⟩)]

def refused : World Recorder Unit :=
  refusal.foldl (fun w h => rearranger.happen h w) rearranged

theorem unused_blank : Unused blank := ⟨⟨rfl, rfl, rfl, rfl, rfl⟩, rfl, rfl⟩

theorem spares_rearranger : rearranger.Spares Recorder.layer rearranging blank where
  outside := ⟨2, rfl⟩
  callbacks callback _ _ _ _ := by
    match callback with
    | 0 => exact ⟨trivial, trivial, trivial, trivial⟩
    | _ + 1 => trivial
  consult _ _ _ := ⟨.finish true, rfl, fun _ => trivial⟩
  resume _ _ _ := ⟨.finish true, rfl, fun _ => trivial⟩

theorem met_refused : Met blank refused := by
  have hrearranged : Met blank rearranged :=
    Met.foldl spares_rearranger unused_blank
      (by simp [rearrangement, Happening.Spares, Operation.Spares]) (.refl blank)
  exact Met.foldl spares_rearranger unused_blank
    (by simp [refusal, Happening.Spares, Operation.Spares]) hrearranged

/-- The first client's callback ended its subscription, made another one and removed the second
client; one more subscription was refused. Only the one from inside of the callback is active, and
everything agrees on this. -/
theorem agrees_refused :
    refused.store.subscriptions.map (·.active) = [false, false, true, false] ∧
      refused.metrics.subscriptions = 1 ∧ Agrees refused := by
  have hclients : refused.store.clients.map (·.identity.clientId) = ["x", "y"] := by
    decide +kernel
  have hids : (refused.store.clients.map (·.identity.clientId)).Nodup := hclients ▸ by decide
  have hhash : ∀ m ∈ refused.store.clients, '#' ∉ m.identity.clientId.toList := by
    have hnames : ∀ id ∈ refused.store.clients.map (·.identity.clientId), '#' ∉ id.toList :=
      hclients ▸ by decide
    exact fun m hm => hnames _ (List.mem_map_of_mem hm)
  exact ⟨by decide +kernel, by decide +kernel,
    (Met.agrees spares_rearranger unused_blank rfl met_refused hids hhash).2.2.2⟩

end World

end MqttRelay.Client
