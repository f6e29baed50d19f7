import Mathlib.Data.List.Basic
import MqttRelay.Proofs.Event.Name

/-!
# Whose event a name is

Names are flat, but say whose they are. The name of a client's event has no number sign if the
client's id has none, and the names of events of its subscriptions begin with one and the
client's id between two. The name of a message event ends in a digit, and no other name that a
client or a subscription listens under does.

Results:
* `Belongs.disjoint`: no event of a client or of its subscriptions shares a name with one of
  another client.
* `OfClient.ne_message`, `name_ne_message`: only message events have names of message events.
* `OfClient.not_ofSubscriptions`, `name_subscription_inj`: events of clients and of subscriptions
  have different names, and those of two subscriptions do.
* `topic_of_generate`, `tag_of_generate`, `clientId_of_generate`, `generate_inj`: the id of a
  client's subscription says its topic, its number, the client's id, and all that it is made from.
-/

namespace MqttRelay.Event

/-- The name of an event of a client. -/
def OfClient (clientId name : String) : Prop :=
  ∃ k ∈ Kind.ofClient, (Key.client clientId k).name = name

/-- The name of an event of a subscription. -/
def OfSubscription (id : SubscriptionId) (name : String) : Prop :=
  ∃ k ∈ Kind.ofSubscription, (Key.subscription id k).name = name

/-- The name of an event of a client, or of one of its subscriptions. -/
def Belongs (clientId name : String) : Prop :=
  OfClient clientId name ∨
    ∃ topic qos tag, OfSubscription (.generate clientId topic qos tag) name

/-- The name of a message event of a client's subscription. -/
def OfMessage (name : String) : Prop :=
  ∃ clientId topic qos tag, (SubscriptionId.generate clientId topic qos tag).text = name

theorem ofClient_name (clientId : String) {k : Kind} (hk : k ∈ Kind.ofClient) :
    OfClient clientId (Key.client clientId k).name := ⟨k, hk, rfl⟩

theorem ofSubscription_name (id : SubscriptionId) {k : Kind} (hk : k ∈ Kind.ofSubscription) :
    OfSubscription id (Key.subscription id k).name := ⟨k, hk, rfl⟩

/-! ## Lists cut at a separator -/

section Separator

variable {α : Type} {a : α} {x₁ x₂ z₁ z₂ : List α}

/-- Two lists that are cut at their first separator. -/
theorem append_cons_inj_left (h₁ : a ∉ x₁) (h₂ : a ∉ x₂)
    (h : x₁ ++ a :: z₁ = x₂ ++ a :: z₂) : x₁ = x₂ ∧ z₁ = z₂ := by
  rcases List.append_eq_append_iff.1 h with ⟨c, rfl, hc⟩ | ⟨c, rfl, hc⟩ <;> cases c <;> simp_all

/-- Two lists that are cut at their last separator. -/
theorem append_cons_inj_right (h₁ : a ∉ z₁) (h₂ : a ∉ z₂)
    (h : x₁ ++ a :: z₁ = x₂ ++ a :: z₂) : x₁ = x₂ ∧ z₁ = z₂ := by
  rcases List.append_eq_append_iff.1 h with ⟨c, rfl, hc⟩ | ⟨c, rfl, hc⟩ <;> cases c <;> simp_all

end Separator

/-! ## The ids of subscriptions -/

theorem isDigit_of_mem_toDigits {n : Nat} {c : Char} (h : c ∈ Nat.toDigits 10 n) :
    c.isDigit = true := Nat.isDigit_of_mem_toDigits (by decide) (by decide) h

theorem hash_notMem_toDigits (n : Nat) : '#' ∉ Nat.toDigits 10 n := fun h =>
  absurd (isDigit_of_mem_toDigits h) (by decide)

theorem toList_text (q : Qos) : q.text.toList = Nat.toDigits 10 q.toNat := by simp [Qos.text]

/-- An id as the rows of characters that it is put together from. -/
theorem toList_generate (clientId topic : String) (qos : Qos) (tag : Nat) :
    (SubscriptionId.generate clientId topic qos tag).text.toList =
      ("mqtt_client".toList ++ '#' :: (clientId.toList ++ '#' :: "subscribe_mqtt".toList)) ++
        '#' :: (topic.toList ++ '#' ::
          (Nat.toDigits 10 qos.toNat ++ '#' :: Nat.toDigits 10 tag)) := by
  have hfirst : "mqtt_client#".toList = "mqtt_client".toList ++ ['#'] := by decide
  have hmiddle : "#subscribe_mqtt#".toList = '#' :: ("subscribe_mqtt".toList ++ ['#']) := by decide
  have hhash : "#".toList = ['#'] := by decide
  unfold SubscriptionId.generate
  dsimp only
  rw [String.toList_append, String.toList_append, String.toList_append, String.toList_append,
    String.toList_append, String.toList_append, String.toList_append, hfirst, hmiddle, hhash,
    toList_text]
  generalize "mqtt_client".toList = first
  generalize "subscribe_mqtt".toList = second
  simp

theorem toDigits_inj {m n : Nat} (h : Nat.toDigits 10 m = Nat.toDigits 10 n) : m = n :=
  calc
    m = Nat.ofDigitChars 10 (Nat.toDigits 10 m) 0 := Nat.ofDigitChars_ten_toDigits.symm
    _ = Nat.ofDigitChars 10 (Nat.toDigits 10 n) 0 := by rw [h]
    _ = n := Nat.ofDigitChars_ten_toDigits

section Generated

variable {clientId client topic other : String} {qos level : Qos} {tag number : Nat}

/-- An id falls into what the client's id and the topic are written into, its level and its
number: the level and the number follow the last two number signs. -/
theorem parts_of_generate (h : SubscriptionId.generate clientId topic qos tag =
      SubscriptionId.generate client other level number) :
    clientId.toList ++ '#' :: ("subscribe_mqtt".toList ++ '#' :: topic.toList) =
        client.toList ++ '#' :: ("subscribe_mqtt".toList ++ '#' :: other.toList) ∧
      qos = level ∧ tag = number := by
  have hparts (c t : String) (q : Qos) (n : Nat) :
      (SubscriptionId.generate c t q n).text.toList =
        ("mqtt_client".toList ++ '#' :: (c.toList ++ '#' :: ("subscribe_mqtt".toList ++
          '#' :: t.toList)) ++ '#' :: Nat.toDigits 10 q.toNat) ++ '#' :: Nat.toDigits 10 n := by
    rw [toList_generate]
    simp only [List.append_assoc, List.cons_append]
  have hlist := congrArg (·.text.toList) h
  simp only [hparts] at hlist
  obtain ⟨hfront, htag⟩ :=
    append_cons_inj_right (hash_notMem_toDigits tag) (hash_notMem_toDigits number) hlist
  obtain ⟨hfront, hqos⟩ :=
    append_cons_inj_right (hash_notMem_toDigits _) (hash_notMem_toDigits _) hfront
  refine ⟨(List.cons.inj (List.append_cancel_left hfront)).2, Option.some.inj ?_, toDigits_inj htag⟩
  rw [← Qos.ofNat?_toNat, ← Qos.ofNat?_toNat, toDigits_inj hqos]

/-- The id of a client's subscription says its topic. -/
theorem topic_of_generate (h : SubscriptionId.generate clientId topic qos tag =
      SubscriptionId.generate clientId other level number) : topic = other := by
  have hrest := List.cons.inj (List.append_cancel_left (parts_of_generate h).1)
  exact String.toList_injective (List.cons.inj (List.append_cancel_left hrest.2)).2

/-- The id of a subscription says its number. -/
theorem tag_of_generate (h : SubscriptionId.generate clientId topic qos tag =
      SubscriptionId.generate client other level number) : tag = number := (parts_of_generate h).2.2

/-- The id of a subscription says its client's id, if that has no number sign. -/
theorem clientId_of_generate (hclientId : '#' ∉ clientId.toList) (hclient : '#' ∉ client.toList)
    (h : SubscriptionId.generate clientId topic qos tag =
      SubscriptionId.generate client other level number) : clientId = client :=
  String.toList_injective (append_cons_inj_left hclientId hclient (parts_of_generate h).1).1

/-- The id of a subscription says all that it is generated from, if the client's id has no number
sign. -/
theorem generate_inj (hclientId : '#' ∉ clientId.toList) (hclient : '#' ∉ client.toList) :
    SubscriptionId.generate clientId topic qos tag =
        SubscriptionId.generate client other level number ↔
      clientId = client ∧ topic = other ∧ qos = level ∧ tag = number := by
  constructor
  · intro h
    obtain rfl := clientId_of_generate hclientId hclient h
    exact ⟨rfl, topic_of_generate h, (parts_of_generate h).2⟩
  · rintro ⟨rfl, rfl, rfl, rfl⟩
    rfl

end Generated

/-! ## Names of messages -/

/-- The name of a message event ends in a digit. -/
theorem getLast?_generate (clientId topic : String) (qos : Qos) (tag : Nat) :
    ∃ c, (SubscriptionId.generate clientId topic qos tag).text.toList.getLast? = some c ∧
      c.isDigit = true := by
  obtain ⟨c, hc⟩ : ∃ c, (Nat.toDigits 10 tag).getLast? = some c :=
    Option.ne_none_iff_exists'.1 (by simp [Nat.toDigits_ne_nil])
  refine ⟨c, ?_, isDigit_of_mem_toDigits (List.mem_of_getLast? hc)⟩
  rw [toList_generate]
  simp [List.getLast?_append, List.getLast?_cons, hc]

/-- No other kind than that of messages ends a name in a digit. -/
theorem not_isDigit_suffix {k : Kind} (hk : k ≠ .message) :
    ∃ c, k.suffix.toList.getLast? = some c ∧ c.isDigit = false := by
  cases k with
  | message => exact absurd rfl hk
  | _ => exact ⟨_, rfl, by decide⟩

/-- Only the name of a message event is that of a message event. -/
theorem name_ne_message (scope : Scope) {k : Kind} (hk : k ≠ .message)
    (clientId topic : String) (qos : Qos) (tag : Nat) :
    (Key.mk scope k).name ≠ (SubscriptionId.generate clientId topic qos tag).text := by
  intro h
  obtain ⟨c, hc, hdigit⟩ := getLast?_generate clientId topic qos tag
  obtain ⟨d, hd, hletter⟩ := not_isDigit_suffix hk
  rw [← h, Key.name, String.toList_append, List.getLast?_append, hd] at hc
  obtain rfl : d = c := Option.some.inj hc
  exact Bool.noConfusion (hdigit.symm.trans hletter)

theorem OfClient.ne_message {clientId name : String} (h : OfClient clientId name)
    (other topic : String) (qos : Qos) (tag : Nat) :
    name ≠ (SubscriptionId.generate other topic qos tag).text := by
  obtain ⟨k, hk, rfl⟩ := h
  exact name_ne_message _ (by rintro rfl; revert hk; decide) other topic qos tag

/-! ## Names of subscriptions -/

/-- The name of an event of some client's subscription. -/
def OfSubscriptions (name : String) : Prop :=
  ∃ clientId topic qos tag, OfSubscription (.generate clientId topic qos tag) name

/-- No other suffix begins before the answer to a subscription, or ends in it. -/
theorem not_suffix_of_ne : ∀ k ∈ Kind.all, k ≠ .message → ∀ l ∈ Kind.ofSubscription,
    l ≠ .message → k ≠ l →
      ¬ k.suffix.toList <:+ l.suffix.toList ∧ ¬ l.suffix.toList <:+ k.suffix.toList := by
  decide

/-- The name of an answer to a subscription says its kind. -/
theorem kind_eq_of_name_eq {a b : Scope} {k l : Kind} (hk : k ≠ .message)
    (hl : l ∈ Kind.ofSubscription) (hmessage : l ≠ .message)
    (h : (Key.mk a k).name = (Key.mk b l).name) : k = l := by
  by_contra hne
  obtain ⟨hkl, hlk⟩ := not_suffix_of_ne k (by cases k <;> decide) hk l hl hmessage hne
  have hlist := congrArg String.toList h
  rw [Key.name, Key.name, String.toList_append, String.toList_append] at hlist
  exact (List.suffix_or_suffix_of_suffix ⟨_, hlist⟩ ⟨_, rfl⟩).elim hkl hlk

/-- No event of a client shares a name with one of a subscription. -/
theorem OfClient.not_ofSubscriptions {clientId name : String} (h : OfClient clientId name) :
    ¬ OfSubscriptions name := by
  rintro ⟨other, topic, qos, tag, l, hl, hname⟩
  by_cases hmessage : l = .message
  · subst hmessage
    rw [Key.subscription, Key.name_message] at hname
    exact h.ne_message other topic qos tag hname.symm
  · obtain ⟨k, hk, rfl⟩ := h
    have hkind (k : Kind) : k ∈ Kind.ofClient → k ∉ Kind.ofSubscription := by cases k <;> decide
    have hk' : k ≠ .message := by
      rintro rfl
      revert hk
      decide
    exact hkind k hk (kind_eq_of_name_eq hk' hl hmessage hname.symm ▸ hl)

/-- The name of an event of a subscription says the id and the kind. -/
theorem name_subscription_inj {clientId client topic other : String} {qos level : Qos}
    {tag number : Nat} {k l : Kind} (hl : l ∈ Kind.ofSubscription)
    (h : (Key.subscription (.generate clientId topic qos tag) k).name =
      (Key.subscription (.generate client other level number) l).name) :
    SubscriptionId.generate clientId topic qos tag = .generate client other level number ∧
      k = l := by
  have hkind : k = l := by
    by_cases hkm : k = .message <;> by_cases hlm : l = .message
    · rw [hkm, hlm]
    · rw [hkm, Key.subscription, Key.name_message] at h
      exact absurd h.symm (name_ne_message _ hlm clientId topic qos tag)
    · rw [hlm, Key.subscription, Key.subscription, Key.name_message] at h
      exact absurd h (name_ne_message _ hkm client other level number)
    · exact kind_eq_of_name_eq hkm hl hlm h
  subst hkind
  have hlist := congrArg String.toList h
  rw [Key.name, Key.name, String.toList_append, String.toList_append] at hlist
  have htext := String.toList_injective (List.append_cancel_right hlist)
  exact ⟨congrArg SubscriptionId.mk htext, rfl⟩

/-! ## Names of different clients -/

theorem hash_notMem_suffix (k : Kind) : '#' ∉ k.suffix.toList := by cases k <;> decide

theorem hash_notMem_client {clientId : String} (hid : '#' ∉ clientId.toList) (k : Kind) :
    '#' ∉ (Key.client clientId k).name.toList := by
  rw [Key.name, String.toList_append, List.mem_append]
  rintro (hm | hm)
  · exact hid hm
  · exact hash_notMem_suffix k hm

/-- The name of a client's event has no number sign if the client's id has none. -/
theorem OfClient.hash_notMem {clientId name : String} (h : OfClient clientId name)
    (hid : '#' ∉ clientId.toList) : '#' ∉ name.toList := by
  obtain ⟨k, -, rfl⟩ := h
  exact hash_notMem_client hid k

/-- The name of an event of a client's subscription says the client's id. -/
theorem OfSubscription.toList_eq {clientId topic name : String} {qos : Qos} {tag : Nat}
    (h : OfSubscription (.generate clientId topic qos tag) name) :
    ∃ rest, name.toList = "mqtt_client".toList ++ '#' :: (clientId.toList ++ '#' :: rest) := by
  obtain ⟨k, -, rfl⟩ := h
  rw [Key.name, String.toList_append, Key.subscription, Scope.text, toList_generate]
  exact ⟨_, by simp only [List.append_assoc, List.cons_append]; rfl⟩

/-- No event of a client or of its subscriptions shares a name with one of another client, if
neither id has a number sign and neither is the other followed by `dis`. -/
theorem Belongs.disjoint {a b : String} (hab : a ≠ b) (ha : '#' ∉ a.toList)
    (hb : '#' ∉ b.toList) (hapart : Key.Apart a b) {name : String} (h : Belongs a name) :
    ¬ Belongs b name := by
  intro h'
  rcases h with h | ⟨topic, qos, tag, h⟩ <;> rcases h' with h' | ⟨topic', qos', tag', h'⟩
  · obtain ⟨k, hk, rfl⟩ := h
    obtain ⟨l, hl, hname⟩ := h'
    exact (Key.disjoint_iff_apart a b).2 ⟨hab, hapart⟩ k hk l hl hname.symm
  · obtain ⟨rest, hrest⟩ := h'.toList_eq
    exact h.hash_notMem ha (by simp [hrest])
  · obtain ⟨rest, hrest⟩ := h.toList_eq
    exact h'.hash_notMem hb (by simp [hrest])
  · obtain ⟨rest, hrest⟩ := h.toList_eq
    obtain ⟨rest', hrest'⟩ := h'.toList_eq
    have htail := List.cons.inj (List.append_cancel_left (hrest.symm.trans hrest'))
    exact hab (String.toList_injective (append_cons_inj_left ha hb htail.2).1)

end MqttRelay.Event
