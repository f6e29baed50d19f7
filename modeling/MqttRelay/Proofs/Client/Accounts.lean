import Mathlib.Algebra.BigOperators.Group.List.Basic
import Mathlib.Algebra.GroupWithZero.Nat
import Mathlib.Data.List.Nodup
import Mathlib.Data.List.Perm.Basic
import Mathlib.Logic.Relation
import MqttRelay.Proofs.Client.Realm

/-!
# Accounts of subscriptions

Subscriptions are accounted for in three places: a subscription knows whether it is active, its
client's registry lists it, and a gauge counts. No client or callback ever sees the three in
disagreement, because they only change together: in transactions, each of which touches all the
places that it concerns.

Results:
* `Balanced.transaction`: every transaction keeps the accounts balanced.
* `Balanced.length_entries`: a registry lists as many subscriptions as its client has active ones.
* `Balanced.gauge_eq_sum`: the gauge is the sum over all registries.
* `Balanced.eq_of_id`: clients with ids of their own never give out a subscription id twice.
-/

namespace MqttRelay.Client

/-! ## Counting -/

section Counting

variable {α : Type}

/-- What a list holds is counted by its places as well. -/
theorem countP_range_any (p : α → Bool) (l : List α) :
    (List.range l.length).countP (fun n => l[n]?.any p) = l.countP p := by
  induction l using List.reverseRecOn with
  | nil => rfl
  | append_singleton l a ih =>
    have hbefore : (List.range l.length).countP (fun n => (l ++ [a])[n]?.any p) =
        (List.range l.length).countP (fun n => l[n]?.any p) :=
      List.countP_congr fun n hn => by rw [List.getElem?_append_left (List.mem_range.1 hn)]
    rw [List.length_append, List.length_singleton, List.range_succ, List.countP_append, hbefore, ih,
      List.countP_append]
    simp [List.countP_singleton]

theorem sum_range_ite (n k : Nat) :
    ((List.range n).map fun c => if k = c then 1 else 0).sum = if k < n then 1 else 0 := by
  induction n with
  | zero => rfl
  | succ n ih =>
    rw [List.range_succ, List.map_append, List.sum_append, ih, List.map_singleton,
      List.sum_singleton]
    split <;> split <;> split <;> omega

/-- What a list holds is counted class by class. -/
theorem sum_countP (p : α → Bool) (f : α → Nat) {n : Nat} {l : List α} (h : ∀ a ∈ l, f a < n) :
    ((List.range n).map fun c => l.countP fun a => p a && f a == c).sum = l.countP p := by
  induction l with
  | nil => simp
  | cons a l ih =>
    obtain ⟨ha, hl⟩ := List.forall_mem_cons.1 h
    simp only [List.countP_cons, List.sum_map_add, ih hl]
    cases p a with
    | false => simp
    | true =>
      have hone := sum_range_ite n (f a)
      rw [if_pos ha] at hone
      simpa using hone

/-- What is found in a list with one more at its end was there before, or is this one. -/
theorem getElem?_concat {l : List α} {a b : α} {n : Nat} (h : (l ++ [a])[n]? = some b) :
    l[n]? = some b ∨ n = l.length ∧ b = a := by
  by_cases hlt : n < l.length
  · exact .inl ((List.getElem?_append_left hlt).symm.trans h)
  · obtain rfl : n = l.length := by
      have := (List.getElem?_eq_some_iff.1 h).1
      rw [List.length_append, List.length_singleton] at this
      omega
    rw [List.getElem?_concat_length] at h
    exact .inr ⟨rfl, (Option.some.inj h).symm⟩

end Counting

/-! ## Transactions -/

/-- The handles of the listeners that a subscription is made with. -/
def Subscription.handles (s : Subscription) (next : Nat) : List Router.Handle :=
  [⟨next, (Event.Key.subscription s.id .message).name⟩,
    ⟨next + 1, (Event.Key.subscription s.id .subscribed).name⟩,
    ⟨next + 2, (Event.Key.subscription s.id .subscribeFailed).name⟩]

/-- A subscription after its end. -/
def Subscription.ended (s : Subscription) : Subscription :=
  if s.active then { s with active := false, listeners := [] } else s

theorem Subscription.active_ended (s : Subscription) : s.ended.active = false := by
  unfold ended
  split
  · rfl
  · next h => exact Bool.eq_false_iff.2 h

/-- A subscription stays what it was when it ends. -/
theorem Subscription.becomes_ended (s : Subscription) : s.Becomes s.ended := by
  unfold ended
  split
  · exact ⟨rfl, rfl, rfl, rfl, rfl, nofun, List.nil_subset _⟩
  · exact .refl s

/-- A registry that gave out a number for a subscription, and lists it if it is active. -/
def Registry.next (number : Nat) (active : Bool) (r : Registry) : Registry :=
  { r with tag := r.tag + 1, entries := if active then r.entries ++ [number] else r.entries }

/-- A registry that a subscription left. -/
def Registry.without (number : Nat) (r : Registry) : Registry :=
  { r with entries := r.entries.erase number }

/-- A registry that was closed. -/
def Registry.shut (r : Registry) : Registry := { r with entries := [], closed := true }

/-- What a client is known by, with its registry. -/
structure Account where
  clientId : String
  registry : Registry := {}

/-- The accounts of all clients, with the subscriptions and their gauge. -/
@[ext] structure Accounts where
  clients : List Account
  subscriptions : List Subscription
  gauge : Nat

namespace Accounts

/-- Changes the registry of one client. -/
def modify (client : Nat) (f : Registry → Registry) (a : Accounts) : Accounts :=
  { a with clients := a.clients.modify client fun c => { c with registry := f c.registry } }

/-- Ends a subscription, once. -/
def detach (a : Accounts) (number : Nat) : Accounts :=
  { a with
    subscriptions := a.subscriptions.modify number Subscription.ended
    gauge := a.gauge - if a.subscriptions[number]?.any (·.active) then 1 else 0 }

/-- Adds a subscription, which may never be active. -/
def add (s : Subscription) (a : Accounts) : Accounts :=
  { a with
    subscriptions := a.subscriptions ++ [s]
    gauge := a.gauge + if s.active then 1 else 0 }

/-- An active subscription of a client has this number. -/
def Active (a : Accounts) (client number : Nat) : Prop :=
  ∃ s, a.subscriptions[number]? = some s ∧ s.client = client ∧ s.active = true

/-- A change of the accounts that nothing interrupts. -/
inductive Transaction : Accounts → Accounts → Prop
  /-- A client is made. -/
  | make (a) (clientId : String) :
      Transaction a { a with clients := a.clients ++ [{ clientId := clientId }] }
  /-- A subscription is made, under the next number of its client's registry. -/
  | add (a) (c : Account) (s : Subscription) (account : a.clients[s.client]? = some c)
      (clientId : s.clientId = c.clientId)
      (id : s.id = .generate s.clientId s.topic s.qos (c.registry.tag + 1)) :
      Transaction a ((a.modify s.client (Registry.next a.subscriptions.length s.active)).add s)
  /-- A subscription ends and leaves the registry of its client. -/
  | withdraw (a) (client number : Nat)
      (own : ∀ s, a.subscriptions[number]? = some s → s.client = client) :
      Transaction a ((a.detach number).modify client (Registry.without number))
  /-- A registry is closed, and its subscriptions end. -/
  | close (a) (client : Nat) (c : Account) (account : a.clients[client]? = some c) :
      Transaction a ((c.registry.entries.foldl detach a).modify client Registry.shut)

/-! ## What transactions change -/

theorem clients_modify (a : Accounts) (client other : Nat) (f : Registry → Registry) :
    (a.modify client f).clients[other]? =
      if client = other then a.clients[other]?.map fun c => { c with registry := f c.registry }
      else a.clients[other]? := by
  show (a.clients.modify client _)[other]? = _
  rw [List.getElem?_modify]
  split <;> simp

theorem exists_account_modify {a : Accounts} {client : Nat} {c : Account}
    (h : a.clients[client]? = some c) (other : Nat) (f : Registry → Registry) :
    ∃ c', (a.modify other f).clients[client]? = some c' ∧ c'.clientId = c.clientId ∧
      c'.registry = if other = client then f c.registry else c.registry := by
  rw [clients_modify, h]
  split
  · exact ⟨_, rfl, rfl, rfl⟩
  · exact ⟨c, rfl, rfl, rfl⟩

/-- An account of a client is as it was, or its registry changed. -/
theorem account_of_modify {a : Accounts} {client other : Nat} {f : Registry → Registry}
    {c : Account} (h : (a.modify client f).clients[other]? = some c) :
    ∃ c₀, a.clients[other]? = some c₀ ∧ c.clientId = c₀.clientId ∧
      c.registry = if client = other then f c₀.registry else c₀.registry := by
  rw [clients_modify] at h
  split at h
  · next he =>
    obtain ⟨c₀, hc₀, rfl⟩ := Option.map_eq_some_iff.1 h
    exact ⟨c₀, hc₀, rfl, by rw [if_pos he]⟩
  · next he => exact ⟨c, h, rfl, by rw [if_neg he]⟩

theorem clients_foldl_detach (numbers : List Nat) (a : Accounts) :
    (numbers.foldl detach a).clients = a.clients := by
  induction numbers generalizing a with
  | nil => rfl
  | cons n numbers ih => exact ih (a.detach n)

theorem subscriptions_detach (a : Accounts) (number other : Nat) :
    (a.detach number).subscriptions[other]? =
      if number = other then a.subscriptions[other]?.map Subscription.ended
      else a.subscriptions[other]? := by
  show (a.subscriptions.modify number _)[other]? = _
  rw [List.getElem?_modify]
  split <;> simp

theorem subscription_of_detach {a : Accounts} {number other : Nat} {s : Subscription}
    (h : (a.detach number).subscriptions[other]? = some s) :
    ∃ s₀, a.subscriptions[other]? = some s₀ ∧ s₀.Becomes s := by
  rw [subscriptions_detach] at h
  split at h
  · obtain ⟨s₀, hs₀, rfl⟩ := Option.map_eq_some_iff.1 h
    exact ⟨s₀, hs₀, s₀.becomes_ended⟩
  · exact ⟨s, h, .refl s⟩

theorem subscription_detach {a : Accounts} {other : Nat} {s : Subscription}
    (h : a.subscriptions[other]? = some s) (number : Nat) :
    ∃ s', (a.detach number).subscriptions[other]? = some s' ∧ s.Becomes s' := by
  rw [subscriptions_detach, h]
  split
  · exact ⟨s.ended, rfl, s.becomes_ended⟩
  · exact ⟨s, rfl, .refl s⟩

theorem subscription_foldl_detach {a : Accounts} {other : Nat} {s : Subscription}
    (h : a.subscriptions[other]? = some s) (numbers : List Nat) :
    ∃ s', (numbers.foldl detach a).subscriptions[other]? = some s' ∧ s.Becomes s' := by
  induction numbers generalizing a s with
  | nil => exact ⟨s, h, .refl s⟩
  | cons n numbers ih =>
    obtain ⟨s₁, hs₁, hb₁⟩ := subscription_detach h n
    obtain ⟨s₂, hs₂, hb₂⟩ := ih hs₁
    exact ⟨s₂, hs₂, hb₁.trans hb₂⟩

theorem subscription_of_foldl_detach {numbers : List Nat} {a : Accounts} {other : Nat}
    {s : Subscription} (h : (numbers.foldl detach a).subscriptions[other]? = some s) :
    ∃ s₀, a.subscriptions[other]? = some s₀ ∧ s₀.Becomes s := by
  induction numbers generalizing a with
  | nil => exact ⟨s, h, .refl s⟩
  | cons n numbers ih =>
    obtain ⟨s₁, hs₁, hb₁⟩ := ih h
    obtain ⟨s₀, hs₀, hb₀⟩ := subscription_of_detach hs₁
    exact ⟨s₀, hs₀, hb₀.trans hb₁⟩

theorem active_detach (a : Accounts) (number client other : Nat) :
    (a.detach number).Active client other ↔ other ≠ number ∧ a.Active client other := by
  unfold Active
  rw [subscriptions_detach]
  split
  · next he =>
    refine ⟨?_, fun h => absurd he.symm h.1⟩
    rintro ⟨s, hs, -, hactive⟩
    obtain ⟨s₀, -, rfl⟩ := Option.map_eq_some_iff.1 hs
    exact Bool.noConfusion (s₀.active_ended.symm.trans hactive)
  · next hne => exact (and_iff_right (Ne.symm hne)).symm

theorem active_foldl_detach (numbers : List Nat) (a : Accounts) (client other : Nat) :
    (numbers.foldl detach a).Active client other ↔ other ∉ numbers ∧ a.Active client other := by
  induction numbers generalizing a with
  | nil => simp
  | cons n numbers ih =>
    rw [List.foldl_cons, ih, active_detach, List.mem_cons, not_or, and_left_comm, and_assoc]

/-- A subscription that was made later is active if it was made so. -/
theorem active_add (a : Accounts) (s : Subscription) (client number : Nat) :
    (a.add s).Active client number ↔ a.Active client number ∨
      number = a.subscriptions.length ∧ s.client = client ∧ s.active = true := by
  unfold Active add
  constructor
  · rintro ⟨t, ht, hclient, hactive⟩
    rcases getElem?_concat ht with ht | ⟨rfl, rfl⟩
    · exact .inl ⟨t, ht, hclient, hactive⟩
    · exact .inr ⟨rfl, hclient, hactive⟩
  · rintro (⟨t, ht, hclient, hactive⟩ | ⟨rfl, hclient, hactive⟩)
    · have hlt := (List.getElem?_eq_some_iff.1 ht).1
      exact ⟨t, (List.getElem?_append_left hlt).trans ht, hclient, hactive⟩
    · exact ⟨s, List.getElem?_concat_length, hclient, hactive⟩

theorem subscription_of_transaction {a b : Accounts} (h : Transaction a b) {number : Nat}
    {s : Subscription} (hs : a.subscriptions[number]? = some s) :
    ∃ s', b.subscriptions[number]? = some s' ∧ s.Becomes s' := by
  cases h with
  | make => exact ⟨s, hs, .refl s⟩
  | add =>
    exact ⟨s, (List.getElem?_append_left (List.getElem?_eq_some_iff.1 hs).1).trans hs, .refl s⟩
  | withdraw _ other => exact subscription_detach hs other
  | close _ c => exact subscription_foldl_detach hs c.registry.entries

/-- A subscription is still there after transactions. -/
theorem subscription_of_transactions {a b : Accounts} (h : Relation.ReflTransGen Transaction a b)
    {number : Nat} {s : Subscription} (hs : a.subscriptions[number]? = some s) :
    ∃ s', b.subscriptions[number]? = some s' ∧ s.Becomes s' := by
  induction h with
  | refl => exact ⟨s, hs, .refl s⟩
  | tail _ h ih =>
    obtain ⟨s₁, hs₁, hb₁⟩ := ih
    obtain ⟨s₂, hs₂, hb₂⟩ := subscription_of_transaction h hs₁
    exact ⟨s₂, hs₂, hb₁.trans hb₂⟩

/-! ## Balanced accounts -/

/-- The accounts of the clients agree with the subscriptions and the gauge. -/
structure Balanced (a : Accounts) : Prop where
  listed : ∀ {client : Nat} {c : Account}, a.clients[client]? = some c →
    ∀ n, n ∈ c.registry.entries ↔ a.Active client n
  nodup : ∀ {client : Nat} {c : Account}, a.clients[client]? = some c → c.registry.entries.Nodup
  gauge : a.gauge = a.subscriptions.countP (·.active)
  /-- Ids are generated with the numbers that registries give out. -/
  tagged : ∀ {number : Nat} {s : Subscription}, a.subscriptions[number]? = some s →
    ∃ c, a.clients[s.client]? = some c ∧ s.clientId = c.clientId ∧
      ∃ tag ≤ c.registry.tag, s.id = .generate s.clientId s.topic s.qos tag
  apart : ∀ {i j : Nat} {s t : Subscription}, a.subscriptions[i]? = some s →
    a.subscriptions[j]? = some t → s.client = t.client → s.id = t.id → i = j

namespace Balanced

variable {a : Accounts}

theorem empty : Balanced ⟨[], [], 0⟩ := ⟨nofun, nofun, rfl, nofun, nofun⟩

theorem lt_of_mem (h : Balanced a) {client : Nat} {c : Account}
    (hc : a.clients[client]? = some c) {n : Nat} (hn : n ∈ c.registry.entries) :
    n < a.subscriptions.length := by
  obtain ⟨s, hs, -⟩ := (h.listed hc n).1 hn
  exact (List.getElem?_eq_some_iff.1 hs).1

/-! ### Subscriptions that are made -/

section Made

variable (h : Balanced a) {c : Account} {s : Subscription} (hc : a.clients[s.client]? = some c)
  (hclientId : s.clientId = c.clientId)
  (hid : s.id = .generate s.clientId s.topic s.qos (c.registry.tag + 1))
  {f : Registry → Registry} (hf : ∀ r, (f r).tag = r.tag + 1)

include h hc hclientId hid hf in
theorem tagged_made {number : Nat} {t : Subscription}
    (ht : (a.subscriptions ++ [s])[number]? = some t) :
    ∃ c', (a.modify s.client f).clients[t.client]? = some c' ∧ t.clientId = c'.clientId ∧
      ∃ tag ≤ c'.registry.tag, t.id = .generate t.clientId t.topic t.qos tag := by
  rcases getElem?_concat ht with ht | ⟨-, rfl⟩
  · obtain ⟨c₀, hc₀, hclientId₀, tag, htag, hid₀⟩ := h.tagged ht
    obtain ⟨c', hc', hsame, hregistry⟩ := exists_account_modify hc₀ s.client f
    refine ⟨c', hc', hclientId₀.trans hsame.symm, tag, ?_, hid₀⟩
    rw [hregistry]
    split
    · rw [hf]
      omega
    · exact htag
  · obtain ⟨c', hc', hsame, hregistry⟩ := exists_account_modify hc t.client f
    refine ⟨c', hc', hclientId.trans hsame.symm, _, Nat.le_of_eq ?_, hid⟩
    rw [hregistry, if_pos rfl, hf]

include h hc hid in
/-- The number in a new id is above those in all others of the client. -/
theorem apart_made {i j : Nat} {t u : Subscription}
    (ht : (a.subscriptions ++ [s])[i]? = some t) (hu : (a.subscriptions ++ [s])[j]? = some u)
    (hclient : t.client = u.client) (he : t.id = u.id) : i = j := by
  have hnew {number : Nat} {v : Subscription} (hv : a.subscriptions[number]? = some v)
      (hclient : v.client = s.client) : v.id ≠ s.id := by
    obtain ⟨c₀, hc₀, -, tag, htag, hid₀⟩ := h.tagged hv
    obtain rfl : c = c₀ := Option.some.inj (hc.symm.trans (hclient ▸ hc₀))
    intro he
    rw [hid₀, hid] at he
    have := Event.tag_of_generate he
    omega
  rcases getElem?_concat ht with ht | ⟨hi, htnew⟩ <;>
    rcases getElem?_concat hu with hu | ⟨hj, hunew⟩
  · exact h.apart ht hu hclient he
  · exact absurd (hunew ▸ he) (hnew ht (hunew ▸ hclient))
  · exact absurd (htnew ▸ he.symm) (hnew hu (htnew ▸ hclient.symm))
  · exact hi.trans hj.symm

end Made

/-! ### Subscriptions that end -/

section Ended

variable (h : Balanced a) {b : Accounts}
  (hbecomes : ∀ {number : Nat} {s : Subscription}, b.subscriptions[number]? = some s →
    ∃ s₀, a.subscriptions[number]? = some s₀ ∧ s₀.Becomes s)

include h hbecomes in
theorem tagged_ended {client : Nat} {f : Registry → Registry} (hf : ∀ r, (f r).tag = r.tag)
    (hb : b.clients = a.clients) {number : Nat} {s : Subscription}
    (hs : b.subscriptions[number]? = some s) :
    ∃ c, (b.modify client f).clients[s.client]? = some c ∧ s.clientId = c.clientId ∧
      ∃ tag ≤ c.registry.tag, s.id = .generate s.clientId s.topic s.qos tag := by
  obtain ⟨s₀, hs₀, hs⟩ := hbecomes hs
  obtain ⟨c₀, hc₀, hclientId, tag, htag, hid⟩ := h.tagged hs₀
  obtain ⟨c, hc, hsame, hregistry⟩ := exists_account_modify (a := b) (hb ▸ hc₀) client f
  refine ⟨c, hs.client ▸ hc, hs.clientId.trans (hclientId.trans hsame.symm), tag, ?_, ?_⟩
  · rw [hregistry]
    split
    · rwa [hf]
    · exact htag
  · rw [hs.id, hs.clientId, hs.topic, hs.qos, hid]

include h hbecomes in
theorem apart_ended {i j : Nat} {s t : Subscription} (hs : b.subscriptions[i]? = some s)
    (ht : b.subscriptions[j]? = some t) (hclient : s.client = t.client) (hid : s.id = t.id) :
    i = j := by
  obtain ⟨s₀, hs₀, hs⟩ := hbecomes hs
  obtain ⟨t₀, ht₀, ht⟩ := hbecomes ht
  exact h.apart hs₀ ht₀ (hs.client.symm.trans (hclient.trans ht.client))
    (hs.id.symm.trans (hid.trans ht.id))

end Ended

/-! ### Transactions -/

theorem make (h : Balanced a) (clientId : String) :
    Balanced { a with clients := a.clients ++ [{ clientId := clientId }] } where
  listed {client c} hc n := by
    rcases getElem?_concat hc with hc | ⟨rfl, rfl⟩
    · exact h.listed hc n
    · -- Nobody subscribed for a client that was not there.
      refine iff_of_false List.not_mem_nil ?_
      rintro ⟨s, hs, hclient, -⟩
      obtain ⟨c₀, hc₀, -⟩ := h.tagged hs
      rw [hclient, List.getElem?_eq_none (Nat.le_refl _)] at hc₀
      cases hc₀
  nodup {client c} hc := by
    rcases getElem?_concat hc with hc | ⟨-, rfl⟩
    · exact h.nodup hc
    · exact List.nodup_nil
  gauge := h.gauge
  tagged hs := by
    obtain ⟨c, hc, htagged⟩ := h.tagged hs
    exact ⟨c, (List.getElem?_append_left (List.getElem?_eq_some_iff.1 hc).1).trans hc, htagged⟩
  apart := h.apart

theorem add (h : Balanced a) {c : Account} {s : Subscription}
    (hc : a.clients[s.client]? = some c) (hclientId : s.clientId = c.clientId)
    (hid : s.id = .generate s.clientId s.topic s.qos (c.registry.tag + 1)) :
    Balanced ((a.modify s.client (Registry.next a.subscriptions.length s.active)).add s) where
  listed {client d} hd n := by
    obtain ⟨d₀, hd₀, -, hregistry⟩ := account_of_modify (a := a) hd
    rw [active_add, hregistry]
    show _ ↔ a.Active client n ∨ _
    rw [← h.listed hd₀ n]
    split
    · next he => cases s.active <;> simp [Registry.next, he, modify]
    · next he => simp [he]
  nodup {client d} hd := by
    obtain ⟨d₀, hd₀, -, hregistry⟩ := account_of_modify (a := a) hd
    rw [hregistry, Registry.next]
    split
    · dsimp only
      split
      · rw [← List.concat_eq_append]
        exact (h.nodup hd₀).concat fun hmem => Nat.lt_irrefl _ (h.lt_of_mem hd₀ hmem)
      · exact h.nodup hd₀
    · exact h.nodup hd₀
  gauge := by
    show a.gauge + _ = (a.subscriptions ++ [s]).countP _
    rw [h.gauge, List.countP_append, List.countP_singleton]
  tagged ht := h.tagged_made hc hclientId hid (fun _ => rfl) ht
  apart ht hu := h.apart_made hc hid ht hu

theorem countP_modify_ended (l : List Subscription) (number : Nat) :
    (l.modify number Subscription.ended).countP (·.active) =
      l.countP (·.active) - if l[number]?.any (·.active) then 1 else 0 := by
  induction l generalizing number with
  | nil => simp
  | cons s l ih =>
    cases number with
    | zero => cases hs : s.active <;> simp [hs, Subscription.active_ended]
    | succ number =>
      have hsome : l[number]?.any (·.active) = true → 0 < l.countP (·.active) := by
        intro h
        obtain ⟨t, ht, hactive⟩ := (Option.any_eq_true _ _).1 h
        exact List.countP_pos_iff.2 ⟨t, List.mem_of_getElem? ht, hactive⟩
      rw [List.modify_succ_cons, List.countP_cons, List.countP_cons, ih, List.getElem?_cons_succ]
      split
      · next h => have := hsome h; omega
      · omega

/-- The end of a subscription is counted, if it still was active. -/
theorem gauge_detach {a : Accounts} (h : a.gauge = a.subscriptions.countP (·.active))
    (number : Nat) :
    (a.detach number).gauge = (a.detach number).subscriptions.countP (·.active) := by
  show a.gauge - _ = (a.subscriptions.modify number _).countP _
  rw [h, countP_modify_ended]

theorem gauge_foldl_detach {a : Accounts} (h : a.gauge = a.subscriptions.countP (·.active))
    (numbers : List Nat) :
    (numbers.foldl detach a).gauge =
      (numbers.foldl detach a).subscriptions.countP (·.active) := by
  induction numbers generalizing a with
  | nil => exact h
  | cons n numbers ih => exact ih (gauge_detach h n)

theorem withdraw (h : Balanced a) {client number : Nat}
    (hown : ∀ s, a.subscriptions[number]? = some s → s.client = client) :
    Balanced ((a.detach number).modify client (Registry.without number)) where
  listed {other d} hd n := by
    obtain ⟨d₀, hd₀, -, hregistry⟩ := account_of_modify hd
    show _ ↔ (a.detach number).Active other n
    rw [active_detach, ← h.listed hd₀ n, hregistry]
    split
    · exact (h.nodup hd₀).mem_erase_iff
    · next hne =>
      -- The registry of another client does not list what ends.
      refine (and_iff_right_of_imp fun hmem => ?_).symm
      rintro rfl
      obtain ⟨s, hs, hclient, -⟩ := (h.listed hd₀ n).1 hmem
      exact hne ((hown s hs).symm.trans hclient)
  nodup {other d} hd := by
    obtain ⟨d₀, hd₀, -, hregistry⟩ := account_of_modify hd
    rw [hregistry]
    split
    · exact (h.nodup hd₀).erase number
    · exact h.nodup hd₀
  gauge := gauge_detach h.gauge number
  tagged hs :=
    have hsame (r : Registry) : (r.without number).tag = r.tag := rfl
    h.tagged_ended subscription_of_detach hsame rfl hs
  apart hs ht := h.apart_ended subscription_of_detach hs ht

theorem close (h : Balanced a) {client : Nat} {c : Account} (hc : a.clients[client]? = some c) :
    Balanced ((c.registry.entries.foldl detach a).modify client Registry.shut) where
  listed {other d} hd n := by
    obtain ⟨d₀, hd₀, -, hregistry⟩ := account_of_modify hd
    rw [clients_foldl_detach] at hd₀
    show _ ↔ (c.registry.entries.foldl detach a).Active other n
    rw [active_foldl_detach, ← h.listed hd₀ n, hregistry]
    split
    · next he =>
      subst he
      obtain rfl : c = d₀ := Option.some.inj (hc.symm.trans hd₀)
      simp [Registry.shut]
    · next hne =>
      refine (and_iff_right_of_imp fun hmem hmem' => hne ?_).symm
      obtain ⟨s, hs, hother, -⟩ := (h.listed hd₀ n).1 hmem
      obtain ⟨t, ht, hclient, -⟩ := (h.listed hc n).1 hmem'
      obtain rfl : s = t := Option.some.inj (hs.symm.trans ht)
      exact hclient.symm.trans hother
  nodup {other d} hd := by
    obtain ⟨d₀, hd₀, -, hregistry⟩ := account_of_modify hd
    rw [clients_foldl_detach] at hd₀
    rw [hregistry]
    split
    · exact List.nodup_nil
    · exact h.nodup hd₀
  gauge := gauge_foldl_detach h.gauge _
  tagged hs :=
    have hsame (r : Registry) : r.shut.tag = r.tag := rfl
    h.tagged_ended subscription_of_foldl_detach hsame (clients_foldl_detach _ _) hs
  apart hs ht := h.apart_ended subscription_of_foldl_detach hs ht

/-- Every transaction keeps the accounts balanced. -/
theorem transaction (h : Balanced a) {b : Accounts} (ht : Transaction a b) : Balanced b := by
  cases ht with
  | make clientId => exact h.make clientId
  | add c s hc hclientId hid => exact h.add hc hclientId hid
  | withdraw client number hown => exact h.withdraw hown
  | close client c hc => exact h.close hc

theorem transactions (h : Balanced a) {b : Accounts}
    (ht : Relation.ReflTransGen Transaction a b) : Balanced b := by
  induction ht with
  | refl => exact h
  | tail _ ht ih => exact ih.transaction ht

/-! ### Sums -/

/-- A registry lists as many subscriptions as its client has active ones. -/
theorem length_entries (h : Balanced a) {client : Nat} {c : Account}
    (hc : a.clients[client]? = some c) :
    c.registry.entries.length = a.subscriptions.countP fun s => s.active && s.client == client := by
  rw [← countP_range_any, List.countP_eq_length_filter]
  refine List.Perm.length_eq ((List.perm_ext_iff_of_nodup (h.nodup hc)
    (List.nodup_range.filter _)).2 fun n => ?_)
  rw [h.listed hc n, List.mem_filter, List.mem_range, Option.any_eq_true]
  constructor
  · rintro ⟨s, hs, hclient, hactive⟩
    exact ⟨(List.getElem?_eq_some_iff.1 hs).1, s, hs, by simp [hclient, hactive]⟩
  · rintro ⟨-, s, hs, h⟩
    rw [Bool.and_eq_true, beq_iff_eq] at h
    exact ⟨s, hs, h.2, h.1⟩

/-- The gauge is the sum over all registries. -/
theorem gauge_eq_sum (h : Balanced a) :
    a.gauge = (a.clients.map fun c => c.registry.entries.length).sum := by
  have hlengths : (a.clients.map fun c => c.registry.entries.length) =
      (List.range a.clients.length).map fun client =>
        a.subscriptions.countP fun s => s.active && s.client == client := by
    refine List.ext_getElem (by simp) fun client hlt _ => ?_
    rw [List.length_map] at hlt
    rw [List.getElem_map, List.getElem_map, List.getElem_range]
    exact h.length_entries (List.getElem?_eq_getElem hlt)
  rw [hlengths, sum_countP, h.gauge]
  intro s hs
  obtain ⟨number, hnumber⟩ := List.mem_iff_getElem?.1 hs
  obtain ⟨c, hc, -⟩ := h.tagged hnumber
  exact (List.getElem?_eq_some_iff.1 hc).1

/-! ### Ids -/

/-- If clients have ids of their own without a number sign, no subscription id is given out
twice. -/
theorem eq_of_id (h : Balanced a) (hids : (a.clients.map (·.clientId)).Nodup)
    (hhash : ∀ c ∈ a.clients, '#' ∉ c.clientId.toList) {i j : Nat} {s t : Subscription}
    (hs : a.subscriptions[i]? = some s) (ht : a.subscriptions[j]? = some t) (hid : s.id = t.id) :
    i = j := by
  obtain ⟨c, hc, hsc, tag, -, hsid⟩ := h.tagged hs
  obtain ⟨d, hd, htd, tag', -, htid⟩ := h.tagged ht
  refine h.apart hs ht ?_ hid
  rw [hsid, htid, hsc, htd] at hid
  have he : c.clientId = d.clientId := Event.clientId_of_generate
    (hhash c (List.mem_of_getElem? hc)) (hhash d (List.mem_of_getElem? hd)) hid
  refine (List.getElem?_inj ?_ hids).1 ?_
  · rw [List.length_map]
    exact (List.getElem?_eq_some_iff.1 hc).1
  · rw [List.getElem?_map, List.getElem?_map, hc, hd, Option.map_some, Option.map_some, he]

end Balanced

end Accounts

end MqttRelay.Client
