import MqttRelay.Proofs.Client.Agreement

/-!
# Ids that never repeat

A subscription's events are addressed by its id, and the id is text that the client's id and the
topic are written into. Topics may hold number signs, as the id itself does, and a message event
adds nothing to the id; still a name can be read back from both of its ends. The number at the
end of an id is one that the client's registry gives out once.

Results:
* `name_subscription_eq_iff`: the name of a subscription's event says the client, the topic, the
  level, the number and the kind.
* `name_client_ne_subscription`: it is no name of a client's event.
* `pairwise_of_transacts`: a registry never gives out an id twice.
* `names_and_ids_unique`: all of it, over whatever happens to clients.
-/

namespace MqttRelay

namespace Event

/-- The name of a subscription's event says all that its id is generated from, and the kind. -/
theorem name_subscription_eq_iff {clientId client topic other : String} {qos level : Qos}
    {tag number : Nat} {k l : Kind} (hclientId : '#' ∉ clientId.toList)
    (hclient : '#' ∉ client.toList) (hl : l ∈ Kind.ofSubscription) :
    (Key.subscription (.generate clientId topic qos tag) k).name =
        (Key.subscription (.generate client other level number) l).name ↔
      clientId = client ∧ topic = other ∧ qos = level ∧ tag = number ∧ k = l := by
  constructor
  · intro h
    obtain ⟨hid, hkind⟩ := name_subscription_inj hl h
    obtain ⟨hclientId, htopic, hqos, htag⟩ := (generate_inj hclientId hclient).1 hid
    exact ⟨hclientId, htopic, hqos, htag, hkind⟩
  · rintro ⟨rfl, rfl, rfl, rfl, rfl⟩
    rfl

/-- No event of a subscription has the name of any event addressed to a client, if that client's
id has no number sign. -/
theorem name_client_ne_subscription {client : String} (hclient : '#' ∉ client.toList) (l : Kind)
    (clientId topic : String) (qos : Qos) (tag : Nat) {k : Kind} (hk : k ∈ Kind.ofSubscription) :
    (Key.client client l).name ≠ (Key.subscription (.generate clientId topic qos tag) k).name := by
  intro h
  obtain ⟨rest, hrest⟩ := (ofSubscription_name (.generate clientId topic qos tag) hk).toList_eq
  exact hash_notMem_client hclient l (by simp [h, hrest])

end Event

namespace Client

open Event Native

/-! ## Ids that were given out -/

namespace Accounts

/-- The accounts with the gauge counted anew, whatever it was. -/
def reckoned (a : Accounts) : Accounts := { a with gauge := a.subscriptions.countP (·.active) }

theorem reckoned_add (a : Accounts) (s : Subscription) : (a.add s).reckoned = a.reckoned.add s := by
  refine Accounts.ext rfl rfl ?_
  show (a.subscriptions ++ [s]).countP _ = a.subscriptions.countP _ + _
  rw [List.countP_append, List.countP_singleton]

theorem reckoned_detach (a : Accounts) (number : Nat) :
    (a.detach number).reckoned = a.reckoned.detach number :=
  Accounts.ext rfl rfl (Balanced.countP_modify_ended a.subscriptions number)

theorem reckoned_foldl_detach (numbers : List Nat) (a : Accounts) :
    (numbers.foldl detach a).reckoned = numbers.foldl detach a.reckoned := by
  induction numbers generalizing a with
  | nil => rfl
  | cons n numbers ih => rw [List.foldl_cons, List.foldl_cons, ih, reckoned_detach]

/-- A transaction remains one if the gauge is counted anew. -/
theorem Transaction.reckoned {a b : Accounts} (h : Transaction a b) :
    Transaction a.reckoned b.reckoned := by
  cases h with
  | make clientId => exact .make a.reckoned clientId
  | add c s account clientId id =>
    rw [reckoned_add]
    exact .add a.reckoned c s account clientId id
  | withdraw client number own =>
    show Transaction a.reckoned ((a.detach number).reckoned.modify client (Registry.without number))
    rw [reckoned_detach]
    exact .withdraw a.reckoned client number own
  | close client c account =>
    show Transaction a.reckoned
      ((c.registry.entries.foldl detach a).reckoned.modify client Registry.shut)
    rw [reckoned_foldl_detach]
    exact .close a.reckoned client c account

/-- From accounts without clients and subscriptions, whatever the gauge is, transactions lead to
balanced ones. -/
theorem balanced_reckoned {a b : Accounts} (hclients : a.clients = [])
    (hsubscriptions : a.subscriptions = []) (h : Relation.ReflTransGen Transaction a b) :
    Balanced b.reckoned := by
  have hempty : a.reckoned = ⟨[], [], 0⟩ :=
    Accounts.ext hclients hsubscriptions (by rw [reckoned, hsubscriptions]; rfl)
  exact (hempty ▸ Balanced.empty : Balanced a.reckoned).transactions
    (h.lift reckoned fun _ _ => Transaction.reckoned)

end Accounts

namespace World

variable {N A : Type} {start w : World N A}

/-- No two subscriptions of one client have the same id. -/
theorem pairwise_of_transacts (hclients : start.store.clients = [])
    (hsubscriptions : start.store.subscriptions = []) (h : Transacts start w) :
    w.store.subscriptions.Pairwise fun s t => s.client = t.client → s.id ≠ t.id := by
  have hbalanced : w.accounts.reckoned.Balanced :=
    Accounts.balanced_reckoned (by rw [accounts, hclients]; rfl) hsubscriptions h
  refine List.pairwise_iff_getElem.2 fun i j hi hj hij hclient hid => Nat.ne_of_lt hij ?_
  exact hbalanced.apart (List.getElem?_eq_getElem hi) (List.getElem?_eq_getElem hj) hclient hid

end World

namespace Surroundings.OfTransactions

variable {N A : Type} {x : Surroundings N A}

theorem foldl (hx : x.OfTransactions) (happenings : List (Happening N A)) (w : World N A) :
    World.Transacts w (happenings.foldl (fun w h => x.happen h w) w) := by
  induction happenings generalizing w with
  | nil => exact .refl w
  | cons h happenings ih => exact (World.Transacts.happen hx h w).trans (ih _)

/-- The name of a subscription's event says the client, the topic, the level, the number and the
kind, whatever the topic is, and is no name of an event addressed to a client; only ids of clients
with a number sign are not told apart. So no two subscriptions that a client ever made, removed
ones and refused ones among them, have the same id, whatever happens to clients. -/
theorem names_and_ids_unique (hx : x.OfTransactions) {start : World N A}
    (hclients : start.store.clients = []) (hsubscriptions : start.store.subscriptions = []) :
    (∀ clientId client : String, '#' ∉ clientId.toList → '#' ∉ client.toList →
      ∀ (topic other : String) (qos level : Qos) (tag number : Nat),
      ∀ k ∈ Kind.ofSubscription, ∀ l ∈ Kind.ofSubscription,
        ((Key.subscription (.generate clientId topic qos tag) k).name =
            (Key.subscription (.generate client other level number) l).name ↔
          clientId = client ∧ topic = other ∧ qos = level ∧ tag = number ∧ k = l)) ∧
    (∀ client : String, '#' ∉ client.toList →
      ∀ (l : Kind) (clientId topic : String) (qos : Qos) (tag : Nat),
      ∀ k ∈ Kind.ofSubscription,
        (Key.client client l).name ≠
          (Key.subscription (.generate clientId topic qos tag) k).name) ∧
    ∀ happenings : List (Happening N A),
      (happenings.foldl (fun w h => x.happen h w) start).store.subscriptions.Pairwise
        fun s t => s.client = t.client → s.id ≠ t.id :=
  ⟨fun _ _ hclientId hclient _ _ _ _ _ _ _ _ _ hl => name_subscription_eq_iff hclientId hclient hl,
    fun _ hclient l clientId topic qos tag _ hk =>
      name_client_ne_subscription hclient l clientId topic qos tag hk,
    fun happenings =>
      World.pairwise_of_transacts hclients hsubscriptions (hx.foldl happenings start)⟩

/-- A topic that looks like the end of an id, a client's id that looks like the beginning of one,
and two clients with four subscriptions, one of which was ended and one refused. -/
theorem names_and_ids_unique_of_rearranging :
    World.rearranger.OfTransactions ∧
      World.blank.store.clients = [] ∧ World.blank.store.subscriptions = [] ∧
      '#' ∉ "x".toList ∧ '#' ∉ "mqtt_client".toList ∧
      (Key.subscription (.generate "x" "t#1#2" .atLeastOnce 3) .message).name ≠
        (Key.subscription (.generate "x" "t" .atLeastOnce 2) .subscribed).name ∧
      (Key.client "mqtt_client" .subscribed).name ≠
        (Key.subscription (.generate "" "" .atMostOnce 1) .subscribed).name ∧
      World.refused.store.subscriptions.length = 4 ∧
      World.refused.store.subscriptions.Pairwise fun s t => s.client = t.client → s.id ≠ t.id := by
  have hx : World.rearranger.OfTransactions := World.spares_rearranger.ofTransactions
  have hhash : '#' ∉ "x".toList ∧ '#' ∉ "mqtt_client".toList := by decide
  have hempty : World.blank.store.clients = [] ∧ World.blank.store.subscriptions = [] :=
    ⟨rfl, rfl⟩
  obtain ⟨hnames, hclients, hids⟩ := names_and_ids_unique hx hempty.1 hempty.2
  refine ⟨hx, hempty.1, hempty.2, hhash.1, hhash.2, fun hname => ?_, ?_, by decide +kernel, ?_⟩
  · have heq := (hnames "x" "x" hhash.1 hhash.1 _ _ _ _ _ _ .message (by decide) .subscribed
      (by decide)).1 hname
    exact absurd heq.2.1 (by decide)
  · exact hclients "mqtt_client" hhash.2 .subscribed _ _ _ _ .subscribed (by decide)
  · have hrun := hids (World.rearrangement ++ World.refusal)
    rw [List.foldl_append] at hrun
    exact hrun

end Surroundings.OfTransactions

end Client

end MqttRelay
