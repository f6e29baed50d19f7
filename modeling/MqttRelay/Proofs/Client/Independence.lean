import MqttRelay.Native.Recorder
import MqttRelay.Proofs.Client.StayingTasks
import MqttRelay.Proofs.Native.Run

/-!
# Independence of clients

All clients of a router share one table of names. Still, whatever is done with a client and its
subscriptions goes by names that belong to the client, and so it does not touch another client
whose names are different: not its state, not its subscriptions and none of their listeners.
This is so through all that an operation makes happen, as long as callbacks of the client keep
to the client.

Results:
* `answersOwn_recorder`, `answersOwn_adapter`: native layers answer a request under names of the
  client that it is for.
* `Act.undisturbed`, `Acts.undisturbed`: acts for one client leave another one alone.
* `other_undisturbed`: operations on one client, its retries and its events leave another one
  alone.
-/

namespace MqttRelay

open Event

/-! ## Answers of native layers -/

/-- A native layer whose answers to a request are events of the client that it is for, and of the
client's subscriptions. -/
def Native.Layer.AnswersOwn {N : Type} (layer : Native.Layer N) : Prop :=
  ∀ (q : Native.Request) n, q.IsProper → ∀ e ∈ (layer.answer q n).2.events,
    Belongs q.clientId e.key.name

namespace Native

theorem answersOwn_recorder : Recorder.layer.AnswersOwn := by
  intro q r _ e he
  have he : e ∈ (r.answer q).2.events := he
  unfold Recorder.answer at he
  dsimp only at he
  split at he
  · cases he
  · cases q with
    | create clientId host port tls =>
      obtain ⟨ready, -, rfl⟩ := Option.map_eq_some_iff.1 (Option.mem_toList.1 he)
      exact .inl (ofClient_name clientId (by decide))
    | connect clientId parameters =>
      simp only [Recorder.carryOut] at he
      split at he
      · cases he
      · obtain rfl := List.mem_singleton.1 he
        exact .inl (ofClient_name clientId (by decide))
      · obtain rfl := List.mem_singleton.1 he
        exact .inl (ofClient_name clientId (by decide))
    | _ => cases he

/-- The adapter answers with no event on the spot. -/
theorem answersOwn_adapter : Adapter.layer.AnswersOwn := by
  intro q a _ e he
  have he : e ∈ (a.answer q).2.events := he
  rw [(Adapter.answer_parts q a).2.2.2] at he
  cases he

end Native

namespace Client

open Native

variable {N A : Type}

/-! ## A client and its realm -/

/-- Whether a client goes by an id. -/
def World.GoesBy (w : World N A) (client : Nat) (id : String) : Prop :=
  (w.client? client).map (·.identity.clientId) = some id

instance (w : World N A) (client : Nat) (id : String) : Decidable (w.GoesBy client id) :=
  inferInstanceAs (Decidable (_ = _))

/-- Whether an operation is on a client with an id or on one of its subscriptions, with callbacks
of its own only. A handle is the client's if it is found under the client's names. -/
def Operation.Concerns (id : String) (own : Nat → Prop) (w : World N A) : Operation → Prop
  | .connect client _ => w.GoesBy client id
  | .disconnect client => w.GoesBy client id
  | .remove client => w.GoesBy client id
  | .subscribe client wish =>
    w.GoesBy client id ∧ own wish.onMessage ∧ (∀ c ∈ wish.onGranted, own c) ∧
      ∀ c ∈ wish.onRefused, own c
  | .unsubscribe number => ∃ s, w.store.subscriptions[number]? = some s ∧ s.clientId = id
  | .on client _ callback => w.GoesBy client id ∧ own callback
  | .off handle => w.router.Confined handle.id (Belongs id)
  | .removeAll event => Belongs id event
  | .install client _ => w.GoesBy client id
  | .uninstall client _ => w.GoesBy client id

/-- Whether a task is a retry of a client with an id, or goes on with one. -/
def Task.Concerns (id : String) (asked : Nat → Prop) (w : World N A) : Task → Prop
  | .retry client _ _ => w.GoesBy client id
  | .fire client _ => w.GoesBy client id
  | .consult client _ interceptor _ => w.GoesBy client id ∧ asked interceptor
  | .resume client _ interceptor _ => w.GoesBy client id ∧ asked interceptor
  | _ => False

/-- What is done for clients with an id, beside another client, with callbacks and data of one's
own. -/
def Realm.besides (id : String) (other : Nat) (own : Nat → Prop)
    (kept : World N A → World N A → Prop) : Realm N A where
  owner := (· = id)
  member := (· ≠ other)
  name := Belongs id
  heard := Belongs id
  callback := own
  native _ _ _ := True
  kept := kept

variable {own : Nat → Prop} {kept : World N A → World N A → Prop}

theorem Realm.lawful_besides (id : String) (other : Nat) :
    (Realm.besides id other own kept).Lawful := by
  rintro _ name rfl hname
  exact .inl hname

theorem fits_besides {layer : Layer N} (h : layer.AnswersOwn) (id : String) (other : Nat) :
    Fits layer (Realm.besides id other own kept) := by
  refine ⟨fun _ _ _ _ _ => trivial, ?_⟩
  rintro subscriptions q n rfl hq e he
  exact h q n hq.isProper e he

theorem World.GoesBy.owns {w : World N A} {client : Nat} {id : String} (h : w.GoesBy client id)
    (other : Nat) : (Realm.besides id other own kept).Owns w client := by
  intro m hm
  rw [World.GoesBy, hm] at h
  exact Option.some.inj h

/-- An operation on a client keeps to the client's realm. -/
theorem Operation.Concerns.permits {id : String} {w : World N A} {o : Operation}
    (h : o.Concerns id own w) (other : Nat) : (Realm.besides id other own kept).Permits w o := by
  cases o with
  | subscribe client wish => exact ⟨h.1.owns other, ⟨h.2.1, h.2.2.1, h.2.2.2⟩⟩
  | unsubscribe number =>
    obtain ⟨s, hs, hid⟩ := h
    intro s' hs'
    obtain rfl : s = s' := Option.some.inj (hs.symm.trans hs')
    exact hid
  | on client interest callback =>
    have hid : ((w.client? client).map (·.identity.clientId)).getD "" = id := by
      rw [show _ = some id from h.1]
      rfl
    refine ⟨?_, h.2⟩
    rw [hid]
    exact .inl (ofClient_interest id interest)
  | off handle => exact h.names
  | removeAll event => exact h
  | connect client overrides => exact World.GoesBy.owns h other
  | disconnect client => exact World.GoesBy.owns h other
  | remove client => exact World.GoesBy.owns h other
  | install client interceptor => exact World.GoesBy.owns h other
  | uninstall client number => exact World.GoesBy.owns h other

/-! ## The other client -/

namespace World

/-- A client with an id that is left alone: its state, with its options, its retries and its
latest ending, its registry and its subscriptions are as they were, and so are all listeners under
its names, with their switches. -/
structure Undisturbed (number : Nat) (id : String) (w after : World N A) : Prop where
  client : after.client? number = w.client? number
  subscription : ∀ {n : Nat} {s : Subscription}, s.client = number →
    (after.store.subscriptions[n]? = some s ↔ w.store.subscriptions[n]? = some s)
  router : w.router.Same (Belongs id) after.router

namespace Undisturbed

variable {client : Nat} {id : String}

theorem refl (w : World N A) : Undisturbed client id w w := ⟨rfl, fun _ => .rfl, .refl _⟩

theorem trans {a b c : World N A} (h₁ : Undisturbed client id a b)
    (h₂ : Undisturbed client id b c) : Undisturbed client id a c :=
  ⟨h₂.client.trans h₁.client, fun hs => (h₂.subscription hs).trans (h₁.subscription hs),
    h₁.router.trans h₂.router⟩

/-- A subscription of another client is added. -/
theorem added {w : World N A} {new s : Subscription} (hnew : new.client ≠ client)
    (hs : s.client = client) (number : Nat) :
    (w.store.subscriptions ++ [new])[number]? = some s ↔
      w.store.subscriptions[number]? = some s := by
  constructor
  · intro h
    rcases subscriptions_added h with h | ⟨-, rfl⟩
    · exact h
    · exact absurd hs hnew
  · intro h
    exact (List.getElem?_append_left (List.getElem?_eq_some_iff.1 h).1).trans h

end Undisturbed

section Acts

variable {a : String} {other : Nat} {m : Member} {own : Nat → Prop}
  {kept : World N A → World N A → Prop} {w after : World N A}
  (hother : w.client? other = some m) (hne : a ≠ m.identity.clientId)
  (hdisjoint : ∀ name, Belongs a name → ¬ Belongs m.identity.clientId name)

include hother hne hdisjoint

omit hdisjoint in
/-- A client with the one id is another one. -/
theorem ne_of_other {client : Nat} {m' : Member} (hm' : w.client? client = some m')
    (hid : m'.identity.clientId = a) : client ≠ other := by
  rintro rfl
  obtain rfl : m = m' := Option.some.inj (hother.symm.trans hm')
  exact hne hid.symm

omit hother hne in
/-- Handles that stand under names of the one client stand under none of the other's. -/
theorem handle_apart {handle : Router.Handle}
    (hnames : ∀ name, ∀ l ∈ w.router.listeners name, l.id = handle.id → Belongs a name) :
    ∀ name, Belongs m.identity.clientId name → ∀ l ∈ w.router.listeners name,
      l.id ≠ handle.id :=
  fun name hname l hl hid => hdisjoint name (hnames name l hl hid) hname

/-- The end of a subscription of one client leaves another client alone. -/
theorem undisturbed_detach (hkept : Kept w) {number : Nat}
    (howner : ∀ s, w.store.subscriptions[number]? = some s → s.clientId = a) :
    Undisturbed other m.identity.clientId w (w.detach number) := by
  -- The subscription that ends is not one of the other client.
  have hkeep {n : Nat} {s : Subscription} (hs : w.store.subscriptions[n]? = some s)
      (hc : s.client = other) : ¬ (number = n ∧ s.active = true) := by
    rintro ⟨rfl, -⟩
    obtain ⟨-, m', hm', hid⟩ := hkept.generated hs
    exact ne_of_other hother hne hm' (hid.symm.trans (howner s hs)) hc
  refine ⟨client?_detach w number other, fun {n s} hs => ?_, ?_⟩
  · rw [subscriptions_detach]
    constructor
    · intro h
      obtain ⟨t, ht, rfl⟩ := Option.map_eq_some_iff.1 h
      have hc : t.client = other := by
        revert hs
        split <;> exact id
      rw [if_neg (hkeep ht hc)]
      exact ht
    · intro h
      rw [h, Option.map_some, if_neg (hkeep h hs)]
  · rcases w.router_detach number with ⟨hr, -⟩ | ⟨s, hs, -, hr⟩
    · rw [hr]
      exact .refl _
    · rw [hr]
      obtain rfl : s.clientId = a := howner s hs
      obtain ⟨⟨tag, hgenerated⟩, -⟩ := hkept.generated hs
      refine .removeEach fun handle hh => handle_apart hdisjoint fun name l hl hid => ?_
      exact .inr ⟨s.topic, s.qos, tag,
        hgenerated ▸ (hkept.listeners hs handle hh).names name l hl hid⟩

/-- An act for one client leaves another one alone. -/
theorem Act.undisturbed (hkept : Kept w) (h : Act (Realm.besides a other own kept) w after) :
    Undisturbed other m.identity.clientId w after := by
  have hnumbered := hkept.router.toNumbered
  cases h with
  | aside hrouter hclients hsubscriptions =>
    exact ⟨by rw [client?, hclients]; rfl, fun _ => by rw [hsubscriptions],
      by rw [hrouter]; exact .refl _⟩
  | native => exact ⟨rfl, fun _ => .rfl, .refl _⟩
  | on client interest callback hname =>
    exact ⟨rfl, fun _ => .rfl, .add hnumbered (hdisjoint _ hname) _ _⟩
  | off handle hnames => exact ⟨rfl, fun _ => .rfl, .remove (handle_apart hdisjoint hnames)⟩
  | removeAll event hname =>
    exact ⟨rfl, fun _ => .rfl, .removeAll hkept.router (hdisjoint event hname)⟩
  | change client f hmember =>
    refine ⟨?_, fun _ => .rfl, .refl _⟩
    rw [client?_modifyClient, if_neg hmember]
  | make requester config howner =>
    obtain rfl : config.clientId = a := howner
    have hlt : other < w.store.clients.length := (List.getElem?_eq_some_iff.1 hother).1
    have hnot {k : Kind} (hk : k ∈ Kind.ofClient) :
        ¬ Belongs m.identity.clientId (Key.client config.clientId k).name :=
      hdisjoint _ (.inl (ofClient_name _ hk))
    refine ⟨List.getElem?_append_left hlt, fun _ => .rfl, ?_⟩
    rw [router_addClient]
    refine .adds hnumbered ?_
    simp only [List.forall_mem_cons]
    exact ⟨⟨_, _, _, rfl, hnot (by decide)⟩, ⟨_, _, _, rfl, hnot (by decide)⟩,
      ⟨_, _, _, rfl, hnot (by decide)⟩, List.forall_mem_nil _⟩
  | enter m' s wish hm' hid howner hgenerated =>
    obtain rfl : s.clientId = a := howner
    obtain ⟨tag, hgenerated⟩ := hgenerated
    have hnot {k : Kind} (hk : k ∈ Kind.ofSubscription) :
        ¬ Belongs m.identity.clientId (Key.subscription s.id k).name :=
      hdisjoint _ (.inr ⟨s.topic, s.qos, tag, hgenerated ▸ ofSubscription_name s.id hk⟩)
    have hnew := ne_of_other hother hne hm' hid.symm
    refine ⟨rfl, fun hs => Undisturbed.added (by exact hnew) hs _, ?_⟩
    rw [router_enter]
    refine .adds hnumbered ?_
    simp only [List.forall_mem_cons]
    exact ⟨⟨_, _, _, rfl, hnot (by decide)⟩, ⟨_, _, _, rfl, hnot (by decide)⟩,
      ⟨_, _, _, rfl, hnot (by decide)⟩, List.forall_mem_nil _⟩
  | reject m' s hm' hid howner =>
    obtain rfl : s.clientId = a := howner
    have hnew := ne_of_other hother hne hm' hid.symm
    exact ⟨rfl, fun hs => Undisturbed.added hnew hs _, .refl _⟩
  | detach number howner => exact undisturbed_detach hother hne hdisjoint hkept howner

/-- Acts for one client leave another one alone, however many there are. -/
theorem Acts.undisturbed (hkept : Kept w) (h : Acts (Realm.besides a other own kept) w after) :
    Undisturbed other m.identity.clientId w after := by
  suffices hboth : Kept after ∧ Undisturbed other m.identity.clientId w after from hboth.2
  induction h with
  | refl => exact ⟨hkept, .refl w⟩
  | tail _ h ih =>
    obtain ⟨hkept, hso⟩ := ih
    exact ⟨hkept.act h, hso.trans
      (h.undisturbed (hso.client.trans hother) hne hdisjoint hkept)⟩

/-- The books make a world settled for acts for one client, if its events tell its own callbacks
only. -/
theorem Kept.settled_besides (hkept : Kept w)
    (hown : ∀ name, Belongs a name → ∀ l ∈ w.router.listeners name,
      ∀ c ∈ l.handler.callback?, own c) :
    Settled (Realm.besides a other own kept) w where
  toKept := hkept
  admitted {name l} hname hl := by
    have hcallback := hown name hname l hl
    -- A listener that moves the other client stands under a name of that client.
    have hmoves {client : Nat} (hc : l.handler.moves? = some client) : client ≠ other := by
      rintro rfl
      obtain ⟨m', hm', hof⟩ := hkept.moved hl hc
      obtain rfl : m = m' := Option.some.inj (hother.symm.trans hm')
      exact hdisjoint name hname (.inl hof)
    revert hcallback hmoves
    cases l.handler with
    | answer => exact fun _ _ => trivial
    | acknowledge client => exact fun _ hmoves => hmoves rfl
    | lose client => exact fun _ hmoves => hmoves rfl
    | tell => exact fun hcallback _ => hcallback _ rfl
    | message => exact fun hcallback _ => hcallback _ rfl
    | subscribed => exact fun hcallback _ => hcallback
    | subscribeFailed => exact fun hcallback _ => hcallback
  member {client m'} hm' howner := by
    rintro rfl
    obtain rfl : m = m' := Option.some.inj (hother.symm.trans hm')
    exact hne howner.symm

end Acts

/-- Callbacks and interceptors that keep to clients with an id, beside another client. What listens
under the id's names tells the clients' own callbacks, and wherever acts for the clients lead,
their callbacks and interceptors operate on these clients and their subscriptions only. -/
structure Devoted (x : Surroundings N A) (layer : Layer N) (program : Nat → Notice → Program N A)
    (id : String) (other : Nat) (own asked : Nat → Prop) (kept : World N A → World N A → Prop)
    (w : World N A) : Prop where
  outside : ∃ depth, x.toOutside = .nested layer program depth
  listeners : ∀ name, Belongs id name → ∀ l ∈ w.router.listeners name,
    ∀ c ∈ l.handler.callback?, own c
  callbacks : ∀ c, own c → ∀ depth notice v, Acts (Realm.besides id other own kept) w v →
    (Outside.nested layer program depth).Obeys (Operation.Concerns id own) kept
      (program c notice) v
  interceptors : ∀ i, asked i →
    x.Minds (Operation.Concerns id own) kept (Acts (Realm.besides id other own kept) w) i

/-- Whatever is done with a client and its subscriptions leaves every other client alone whose
names are different, if the client's callbacks and interceptors keep to it. This is so for every
operation, for every retry, and for every event under a name of the client. -/
theorem other_undisturbed {x : Surroundings N A} {layer : Layer N}
    {program : Nat → Notice → Program N A} (hlayer : layer.AnswersOwn) {start w : World N A}
    (hstart : Unused start) (hw : Reached start w) {other : Nat} {a b : String}
    (hother : w.GoesBy other b) (hne : a ≠ b) (ha : '#' ∉ a.toList) (hb : '#' ∉ b.toList)
    (hapart : Key.Apart a b) {own asked : Nat → Prop} {kept : World N A → World N A → Prop}
    (hdevoted : Devoted x layer program a other own asked kept w) :
    (∀ o : Operation, o.Concerns a own w → Undisturbed other b w (x.perform o w)) ∧
    (∀ t : Task, t.Concerns a asked w → Undisturbed other b w (x.run t w)) ∧
    (∀ event payload, Belongs a event →
      Undisturbed other b w (Hub.emit x.act event payload w).1) := by
  obtain ⟨m, hm, rfl⟩ := Option.map_eq_some_iff.1 hother
  obtain ⟨depth, hx⟩ := hdevoted.outside
  let r : Realm N A := .besides a other own kept
  have hdisjoint : ∀ name, Belongs a name → ¬ Belongs m.identity.clientId name :=
    fun _ h => h.disjoint hne ha hb hapart
  have hkept : Kept w := hw.kept hstart
  have hsettled : Settled r w := hkept.settled_besides hm hne hdisjoint hdevoted.listeners
  have hlaw : r.Lawful := Realm.lawful_besides a other
  have htell : ∀ callback notice v, r.callback callback →
      Stays r w v (x.tell callback notice v).1 := by
    rw [hx]
    exact Stays.nested hsettled (fits_besides hlayer a other) hlaw
      (fun depth callback notice v hc hv =>
        (hdevoted.callbacks callback hc depth notice v hv).mono fun _ _ ho => ho.permits other)
      depth
  have hfits : Fits x.layer r := by
    rw [hx, Outside.nested_layer]
    exact fits_besides hlayer a other
  have hheeds {i : Nat} (hi : asked i) : x.Heeds r w i :=
    Stays.heeds hsettled hlaw htell hfits
      ((hdevoted.interceptors i hi).mono fun _ _ ho => ho.permits other)
  -- What stays within the realm of the one client leaves the other alone.
  have hstays {after : World N A} (h : Stays r w w after) :
      Undisturbed other m.identity.clientId w after :=
    Acts.undisturbed hm hne hdisjoint hkept (h .refl)
  have hheld {client : Nat} (h : w.GoesBy client a) : ∃ m, w.client? client = some m := by
    obtain ⟨m, hm, -⟩ := Option.map_eq_some_iff.1 h
    exact ⟨m, hm⟩
  refine ⟨fun o ho => hstays (Stays.perform hsettled htell hfits hlaw (ho.permits other)),
    fun t ht => hstays ?_, fun event payload hname =>
      hstays (Stays.emit hsettled htell hname payload w)⟩
  cases t with
  | retry client generation delayMs =>
    exact retry_rel (Stays.fire hsettled htell hfits (World.GoesBy.owns ht other) generation)
      (Stays.sleep delayMs _ w)
  | fire client generation =>
    exact Stays.fire hsettled htell hfits (World.GoesBy.owns ht other) generation
  | consult client generation interceptor reason =>
    exact Stays.consult hsettled htell hfits (hheeds ht.2) (ht.1.owns other) (hheld ht.1)
      generation reason
  | resume client generation interceptor call =>
    exact Stays.resume hsettled htell hfits (hheeds ht.2) (ht.1.owns other) (hheld ht.1)
      generation call
  | _ => exact ht.elim

/-! ## Two neighbours -/

/-- What the callbacks of two clients do. One of the first client's connects it again, and those
of the second client remove it. -/
def caring (callback : Nat) (_ : Notice) : Program Recorder Unit :=
  match callback with
  | 0 => .perform (.connect 0 none) (.finish true)
  | 1 => .finish true
  | _ => .perform (.remove 1) (.finish true)

def neighbours : Surroundings Recorder Unit where
  toOutside := .nested Recorder.layer caring 2
  consult _ _ w := (w, .decided (.proceed none))
  resume _ _ w := (w, .proceed none)

def vacant : World Recorder Unit := { store := { native := { behavior := .accept }, app := () } }

/-- Two clients that are connected, each with a callback for lost connections and a
subscription. -/
def neighbouring : World Recorder Unit :=
  [.create (.name "x") { clientId := "x", host := "broker.test", port := 1883 },
    .create (.name "y") { clientId := "y", host := "broker.test", port := 1883 },
    .perform (.connect 0 none), .perform (.on 0 .disconnected 0),
    .perform (.subscribe 0 ⟨"t", .atMostOnce, 1, none, none⟩),
    .perform (.connect 1 none), .perform (.on 1 .disconnected 2),
    .perform (.subscribe 1 ⟨"t", .atMostOnce, 2, none, none⟩)].foldl
      (fun w h => neighbours.happen h w) vacant

theorem minds_neighbours (P : World Recorder Unit → Operation → Prop)
    (K : World Recorder Unit → World Recorder Unit → Prop) (worlds : World Recorder Unit → Prop)
    (i : Nat) : neighbours.Minds P K worlds i :=
  ⟨fun _ _ _ => ⟨.finish true, trivial, rfl⟩, fun _ _ _ => ⟨.finish true, trivial, rfl⟩⟩

theorem unused_vacant : Unused vacant := ⟨⟨rfl, rfl, rfl, rfl, rfl⟩, rfl, rfl⟩

theorem reached_neighbouring : Reached vacant neighbouring :=
  Reached.foldl rfl unused_vacant (minds_neighbours _ _ _) _ .refl

theorem goesBy_neighbouring : neighbouring.GoesBy 0 "x" ∧ neighbouring.GoesBy 1 "y" := by
  decide +kernel

theorem devoted_neighbouring :
    Devoted neighbours Recorder.layer caring "x" 1 (· < 2) (fun _ => True) (fun _ _ => False)
      neighbouring where
  outside := ⟨2, rfl⟩
  listeners name hname l hl c hc := by
    obtain ⟨ls, hls, hl⟩ := Router.mem_table_of_mem_listeners hl
    have htable : ∀ p ∈ neighbouring.router.table, ∀ l ∈ p.2, ∀ c ∈ l.handler.callback?,
        c < 2 ∨ (Key.client "y" .disconnected).name = p.1 ∨
          (Key.subscription (.generate "y" "t" .atMostOnce 1) .message).name = p.1 := by
      decide +kernel
    have hother : ¬ Belongs "y" name :=
      hname.disjoint (by decide) (by decide) (by decide) ⟨by decide, by decide⟩
    rcases htable (name, ls) hls l hl c hc with h | h | h
    · exact h
    · exact absurd (.inl ⟨.disconnected, by decide, h⟩) hother
    · exact absurd (.inr ⟨"t", .atMostOnce, 1, .message, by decide, h⟩) hother
  callbacks c hc depth notice v hv := by
    have hgoes : v.GoesBy 0 "x" := by
      obtain ⟨m, hm, hid⟩ := Option.map_eq_some_iff.1 goesBy_neighbouring.1
      obtain ⟨m', hm', hi⟩ := hv.later.client hm
      rw [GoesBy, hm', Option.map_some, hi, hid]
    match c, hc with
    | 0, _ => exact ⟨hgoes, trivial⟩
    | 1, _ => trivial
  interceptors i _ := minds_neighbours _ _ _ i

/-- The first of two neighbours is removed; or a retry of it has its turn; or its connection is
lost, and its callback connects it again. The second one is left alone each time. -/
theorem other_undisturbed_neighbouring :
    let removed := neighbours.perform (.remove 0) neighbouring
    let retried := neighbours.run (.retry 0 1 0) neighbouring
    let lost := (Hub.emit neighbours.act (Key.client "x" .disconnected).name
      (Event.Disconnected.mk .connectionError none).payload neighbouring).1
    (removed.client? 0).map (·.state.removed) = some true ∧
      lost.store.native.calls.length = neighbouring.store.native.calls.length + 1 ∧
      Undisturbed 1 "y" neighbouring removed ∧ Undisturbed 1 "y" neighbouring retried ∧
      Undisturbed 1 "y" neighbouring lost := by
  intro removed retried lost
  obtain ⟨hfirst, hsecond⟩ := goesBy_neighbouring
  obtain ⟨hperform, hrun, hemit⟩ := other_undisturbed answersOwn_recorder unused_vacant
    reached_neighbouring hsecond (by decide) (by decide) (by decide) ⟨by decide, by decide⟩
    devoted_neighbouring
  exact ⟨by decide +kernel, by decide +kernel, hperform (.remove 0) hfirst,
    hrun (.retry 0 1 0) hfirst, hemit _ _ (.inl (ofClient_name "x" (by decide)))⟩

end World

end Client

end MqttRelay
