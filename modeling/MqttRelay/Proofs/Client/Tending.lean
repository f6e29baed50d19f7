import MqttRelay.Proofs.Client.Attendance
import MqttRelay.Proofs.Client.StayingTasks
import MqttRelay.Proofs.Native.Publishing

/-!
# Clients over the adapter

Clients on a router over the broker adapter: the application operates on them, tasks have their
turns, the worker and the connections of the adapter have theirs and deliver their events. The
adapter is asked only for subscriptions that were made, so that these are all that it records.

Results:
* `Realm.fits_tended`: requests of clients keep the adapter faithful to the subscriptions.
* `Faithful.acts`: so do all acts.
* `Attained.acts`: whatever a run comes to is come to by such acts.
-/

namespace MqttRelay.Client

open Event Native

variable {A : Type}

/-- A subscription of a client to a topic was made, and has this id. -/
def Made (subscriptions : List Subscription) (clientId topic : String) (id : SubscriptionId) :
    Prop :=
  ∃ s ∈ subscriptions, s.IsGenerated ∧ s.id = id ∧ s.clientId = clientId ∧ s.topic = topic

/-- An adapter whose notes are right, and which was asked for and records nothing but subscriptions
that were made. -/
structure Faithful (subscriptions : List Subscription) (a : Adapter) : Prop extends
    Adapter.Sound a where
  vouched : Adapter.Vouched (Made subscriptions) a

namespace Faithful

variable {subscriptions : List Subscription} {a : Adapter}

theorem empty : Faithful subscriptions {} := ⟨Adapter.sound_after [], .empty⟩

/-- A request for a subscription that was made. -/
theorem answer (h : Faithful subscriptions a) {q : Request} (hq : Backs subscriptions q) :
    Faithful subscriptions (a.answer q).1 := by
  refine ⟨h.toSound.next (.request q), h.vouched.answer fun id c topic qos he => ?_⟩
  subst he
  exact hq

/-- The worker and the connections have turns. -/
theorem next (h : Faithful subscriptions a) {t : Native.Turn} (ht : ∀ q, t ≠ .request q) :
    Faithful subscriptions (a.next t) :=
  ⟨h.toSound.next t, h.vouched.next h.toLaid fun _ _ _ _ he => absurd he (ht _)⟩

end Faithful

/-! ## The realm -/

/-- What clients do over the adapter. Listeners of message events are not removed by hand, unless
the application meddles. -/
def Realm.tended (meddles : Prop) : Realm Adapter A where
  owner _ := True
  member _ := True
  name event := meddles ∨ ¬ OfMessage event
  heard _ := True
  callback _ := True
  native subscriptions a b := Faithful subscriptions a → Faithful subscriptions b
  kept _ _ := True

namespace Realm

variable {meddles : Prop}

theorem wide_tended : (tended meddles : Realm Adapter A).Wide :=
  ⟨fun _ => trivial, fun _ => trivial, fun _ => trivial, fun _ => trivial, fun _ _ => trivial⟩

theorem lawful_tended : (tended meddles : Realm Adapter A).Lawful := by
  rintro id name - hname
  refine .inr ?_
  rintro ⟨c, topic, qos, tag, rfl⟩
  exact hname.ne_message c topic qos tag rfl

theorem fits_tended : Fits Adapter.layer (tended meddles : Realm Adapter A) :=
  ⟨fun _ _ _ _ hq h => h.answer hq, fun _ _ _ _ _ _ _ => trivial⟩

end Realm

/-- Whether an operation removes no listeners of message events by hand, unless the application
meddles. -/
def Operation.IsTidy (meddles : Prop) (w : World Adapter A) : Operation → Prop
  | .off handle => ∀ name, ∀ l ∈ w.router.listeners name, l.id = handle.id →
      meddles ∨ ¬ OfMessage name
  | .removeAll event => meddles ∨ ¬ OfMessage event
  | _ => True

theorem Operation.IsTidy.permits {meddles : Prop} {w : World Adapter A} {o : Operation}
    (h : o.IsTidy meddles w) : (Realm.tended meddles).Permits w o := by
  cases o with
  | subscribe => exact ⟨fun _ _ => trivial, ⟨trivial, fun _ _ => trivial, fun _ _ => trivial⟩⟩
  | unsubscribe => exact fun _ _ => trivial
  | on client interest callback =>
    exact ⟨Realm.lawful_tended _ _ trivial (ofClient_interest _ interest), trivial⟩
  | off => exact h
  | removeAll => exact h
  | _ => exact fun _ _ => trivial

/-- Whether what happens is tidy. The application makes requests of its own only for subscriptions
that were made, and leaves the native layer alone otherwise. -/
def Happening.IsTidy (meddles : Prop) (w : World Adapter A) : Happening Adapter A → Prop
  | .perform o => o.IsTidy meddles w
  | .request q => Backs w.store.subscriptions q
  | .beside native _ _ _ => native = w.store.native
  | _ => True

theorem Happening.IsTidy.allows {meddles : Prop} {w : World Adapter A}
    {h : Happening Adapter A} (ht : h.IsTidy meddles w) {layer : Layer Adapter}
    (hlayer : layer = Adapter.layer) : (Realm.tended meddles).Allows layer w h := by
  cases h with
  | perform o => exact ht.permits
  | request q => exact fun hf => hlayer ▸ hf.answer ht
  | beside => exact .inl ht
  | _ => trivial

namespace World

/-- Every act keeps the adapter faithful. -/
theorem Act.faithful {meddles : Prop} {w after : World Adapter A}
    (ha : Act (Realm.tended meddles) w after)
    (h : Faithful w.store.subscriptions w.store.native) :
    Faithful after.store.subscriptions after.store.native := by
  have hlater := ha.later
  have hmade {native : Adapter} (h : Faithful w.store.subscriptions native) :
      Faithful after.store.subscriptions native := by
    refine ⟨h.toSound, h.vouched.mono ?_⟩
    rintro c topic id ⟨s, hs, hgenerated, rfl, rfl, rfl⟩
    obtain ⟨number, hnumber⟩ := List.mem_iff_getElem?.1 hs
    obtain ⟨s', hs', hb⟩ := hlater.subscription hnumber
    exact ⟨s', List.mem_of_getElem? hs', hb.isGenerated hgenerated, hb.id, hb.clientId, hb.topic⟩
  cases ha with
  | aside _ _ _ hnative =>
    rw [hnative]
    exact hmade h
  | native native hallowed => exact hmade (hallowed h)
  | detach number =>
    rw [detach_store_native]
    exact hmade h
  | _ => exact hmade h

end World

theorem Faithful.acts {meddles : Prop} {w after : World Adapter A}
    (h : Faithful w.store.subscriptions w.store.native)
    (ha : World.Acts (Realm.tended meddles) w after) :
    Faithful after.store.subscriptions after.store.native := by
  induction ha with
  | refl => exact h
  | tail _ ha ih => exact ha.faithful ih

/-! ## Runs -/

namespace Surroundings

/-- A part of the adapter has its turn, and its events are delivered. -/
def afterTurn (x : Surroundings Adapter A) (t : Native.Turn) (w : World Adapter A) :
    World Adapter A :=
  (x.deliverAll (t.act w.store.native).2
    (w.update fun s => { s with native := (t.act w.store.native).1 })).1

end Surroundings

/-- Surroundings of clients over the adapter, whose callbacks and interceptors run tidy
programs. -/
structure Tends (x : Surroundings Adapter A) (program : Nat → Notice → Program Adapter A)
    (meddles : Prop) (start : World Adapter A) : Prop where
  outside : ∃ depth, x.toOutside = .nested Adapter.layer program depth
  callbacks : ∀ callback depth notice v, World.Acts (Realm.tended meddles) start v →
    (Outside.nested Adapter.layer program depth).Obeys (Operation.IsTidy meddles)
      (fun _ _ => True) (program callback notice) v
  interceptors : ∀ interceptor, x.Minds (Operation.IsTidy meddles) (fun _ _ => True)
    (World.Acts (Realm.tended meddles) start) interceptor

/-- What a run comes to, in which things happen to clients and parts of the adapter have turns. -/
inductive Attained (x : Surroundings Adapter A) (meddles : Prop) (start : World Adapter A) :
    World Adapter A → Prop
  | start : Attained x meddles start start
  | happen {w} (attained : Attained x meddles start w) (h : Happening Adapter A)
      (tidy : h.IsTidy meddles w) : Attained x meddles start (x.happen h w)
  | native {w} (attained : Attained x meddles start w) (t : Native.Turn)
      (own : ∀ q, t ≠ .request q) : Attained x meddles start (x.afterTurn t w)

section Runs

variable {x : Surroundings Adapter A} {program : Nat → Notice → Program Adapter A}
  {meddles : Prop} {start w : World Adapter A}

open World

namespace Tends

variable (h : Tends x program meddles start) (hstart : Unused start)

include h

theorem layer_eq : x.layer = Adapter.layer := by
  obtain ⟨depth, hx⟩ := h.outside
  rw [hx, Outside.nested_layer]

include hstart

theorem tell (callback : Nat) (notice : Notice) (v : World Adapter A) :
    Stays (Realm.tended meddles) start v (x.tell callback notice v).1 := by
  obtain ⟨depth, hx⟩ := h.outside
  rw [hx]
  exact Stays.nested (hstart.settled Realm.wide_tended) Realm.fits_tended Realm.lawful_tended
    (fun depth callback notice v _ hv =>
      (h.callbacks callback depth notice v hv).mono fun _ _ ho => ho.permits) depth callback
    notice v trivial

/-- Events keep to what clients do. -/
theorem deliverAll (events : List Emission) (v : World Adapter A) :
    Stays (Realm.tended meddles) start v (x.deliverAll events v).1 :=
  Stays.deliverAll (hstart.settled Realm.wide_tended) (fun c n v _ => h.tell hstart c n v)
    (fun _ _ => trivial) v

theorem happen {happening : Happening Adapter A} (hw : happening.IsTidy meddles w) :
    Stays (Realm.tended meddles) start w (x.happen happening w) := by
  have hwide : (Realm.tended meddles : Realm Adapter A).Wide := Realm.wide_tended
  have hsettled := hstart.settled hwide
  have htell : ∀ callback notice v, (Realm.tended meddles : Realm Adapter A).callback callback →
      Stays (Realm.tended meddles) start v (x.tell callback notice v).1 :=
    fun callback notice v _ => h.tell hstart callback notice v
  have hfits : Fits x.layer (Realm.tended meddles : Realm Adapter A) :=
    h.layer_eq ▸ Realm.fits_tended
  have hheeds (interceptor : Nat) : x.Heeds (Realm.tended meddles) start interceptor :=
    Stays.heeds hsettled Realm.lawful_tended htell hfits
      ((h.interceptors interceptor).mono fun _ _ ho => ho.permits)
  exact Stays.happen hsettled Realm.lawful_tended hwide htell hfits hheeds
    (hw.allows h.layer_eq)

end Tends

/-- Whatever a run comes to is come to by acts of clients and of the adapter. -/
theorem Attained.acts (h : Attained x meddles start w) (hx : Tends x program meddles start)
    (hstart : Unused start) : Acts (Realm.tended meddles) start w := by
  induction h with
  | start => exact .refl
  | happen _ happening htidy ih => exact ih.trans (hx.happen hstart htidy ih)
  | native _ t hown ih =>
    have hturn : Acts (Realm.tended meddles) start (World.update _ fun s =>
        { s with native := (t.act s.native).1 }) :=
      ih.tail (.native _ _ fun hf => hf.next hown)
    exact hturn.trans (hx.deliverAll hstart _ _ hturn)

end Runs

end MqttRelay.Client
