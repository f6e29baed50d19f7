import MqttRelay.Proofs.History
import MqttRelay.Proofs.Topic.Table

/-!
# What the broker holds for a topic table

A subscription asks the broker for a topic only when no other one covers it, and gives the
topic up only with the last one. Whoever carries out these answers holds the right topics
without looking at the table again: a ledger keeps the two side by side.

* `Ledger.call` — one call on the table, its answer carried out at the broker.
* `IsCurrent`, `IsHighest` — what the history of calls says of a topic, with no table in sight.
* `level?_after` — the table has the level of a subscription that is current, and no other.
* `Covering` — the broker holds the topics in use, none below any of its subscriptions.

Results:
* `after_agrees`: after any calls the broker holds the topics in use, high enough, and the
  table lists each of them once, at its highest level.
-/

namespace MqttRelay.Topic

/-! ## Histories of calls -/

/-- A call on a topic table. -/
inductive Change where
  | add (topic : String) (id : SubscriptionId) (qos : Qos)
  | remove (topic : String) (id : SubscriptionId)
  deriving DecidableEq, Inhabited, Repr

namespace Change

/-- The topic and the subscription of a call. -/
def subject : Change → String × SubscriptionId
  | add topic id _ => (topic, id)
  | remove topic id => (topic, id)

end Change

/-- The subscription was added to the topic and not removed since. -/
def IsAdded (topic : String) (id : SubscriptionId) (changes : List Change) : Prop :=
  Since (fun c => ∃ qos, c = .add topic id qos) (· = .remove topic id) changes

/-- The last call about the subscription and the topic added it at this level. -/
def IsCurrent (topic : String) (id : SubscriptionId) (qos : Qos) (changes : List Change) : Prop :=
  Since (· = .add topic id qos) (·.subject = (topic, id)) changes

/-- The level is the highest of the topic's current subscriptions. -/
structure IsHighest (topic : String) (qos : Qos) (changes : List Change) : Prop where
  attained : ∃ id, IsCurrent topic id qos changes
  bound : ∀ id other, IsCurrent topic id other changes → other.toNat ≤ qos.toNat

/-! ## The levels of a table -/

namespace Table

/-- The level at which a subscription of a topic stands in the table. -/
def level? (t : Table) (topic : String) (id : SubscriptionId) : Option Qos :=
  ((t.subscribers topic).get? id.text).map (·.qos)

theorem level?_add (t : Table) (topic other : String) (id i : SubscriptionId) (qos : Qos) :
    (t.add topic id qos).1.level? other i =
      if (topic, id) = (other, i) then some qos else t.level? other i := by
  obtain ⟨id⟩ := id
  obtain ⟨i⟩ := i
  unfold level?
  rw [subscribers_add]
  split
  · next htopic =>
    subst htopic
    simp only [Assoc.get?_insert, Prod.mk.injEq, true_and, SubscriptionId.mk.injEq]
    split <;> rfl
  · next htopic => simp [htopic]

theorem level?_remove (t : Table) (topic other : String) (id i : SubscriptionId) :
    (t.remove topic id).1.level? other i =
      if (topic, id) = (other, i) then none else t.level? other i := by
  obtain ⟨id⟩ := id
  obtain ⟨i⟩ := i
  unfold level?
  rw [subscribers_remove]
  split
  · next htopic =>
    subst htopic
    simp only [Assoc.get?_erase, Prod.mk.injEq, true_and, SubscriptionId.mk.injEq]
    split <;> rfl
  · next htopic => simp [htopic]

/-- The broker is asked for a level above all others of the topic; another one is covered. -/
theorem add_answer_cases (t : Table) (topic : String) (id : SubscriptionId) (qos : Qos) :
    ((t.add topic id qos).2 = .subscribe qos ∧
      ∀ best, maxQos (t.subscribers topic) = some best → best.toNat < qos.toNat) ∨
    ((t.add topic id qos).2 = .covered ∧
      ∃ best, maxQos (t.subscribers topic) = some best ∧ qos.toNat ≤ best.toNat) := by
  simp only [add]
  cases maxQos (t.subscribers topic) with
  | none => exact Or.inl ⟨rfl, fun _ h => absurd h.symm (Option.some_ne_none _)⟩
  | some best =>
    by_cases h : qos.toNat ≤ best.toNat
    · exact Or.inr ⟨if_pos h, best, rfl, h⟩
    · refine Or.inl ⟨if_neg h, fun other hother => ?_⟩
      exact Option.some.inj hother ▸ Nat.lt_of_not_le h

/-- A topic is given up exactly with its last subscription. -/
theorem remove_answer (t : Table) (topic : String) (id : SubscriptionId) :
    (t.remove topic id).2 = .released ↔
      t.subscribers topic ≠ [] ∧ (t.subscribers topic).erase id.text = [] := by
  unfold remove
  cases hget : t.get? topic with
  | none => simp [subscribers, hget]
  | some before =>
    have hbefore : t.subscribers topic = before := by rw [subscribers, hget]; rfl
    rw [hbefore]
    dsimp only
    split
    · next hcontains =>
      have hne : before ≠ [] := by
        rintro rfl
        cases hcontains
      split <;> next hleft => simpa [hne] using hleft
    · next hnot =>
      rw [Assoc.erase_of_not_contains (Bool.eq_false_iff.2 hnot)]
      simp

end Table

/-! ## Carrying out the answers -/

/-- What the broker holds after it was asked what an addition asks for. -/
def Added.carry (topic : String) (held : Assoc Qos) : Added → Assoc Qos
  | subscribe qos => held.insert topic qos
  | covered => held

/-- What the broker holds after it was asked what a removal asks for. -/
def Removed.carry (topic : String) (held : Assoc Qos) : Removed → Assoc Qos
  | released => held.erase topic
  | retained => held
  | unknown => held

theorem Removed.get?_carry (answer : Removed) (topic other : String) (held : Assoc Qos) :
    (answer.carry topic held).get? other =
      if topic = other ∧ answer = .released then none else held.get? other := by
  cases answer <;> simp [carry, Assoc.get?_erase]

/-- A topic table beside what the broker holds. -/
structure Ledger where
  table : Table := []
  held : Assoc Qos := []
  deriving DecidableEq, Inhabited, Repr

namespace Ledger

/-- A call on the table; what the answer asks for is done at the broker. -/
def call (l : Ledger) : Change → Ledger
  | .add topic id qos =>
    let (table, answer) := l.table.add topic id qos
    ⟨table, answer.carry topic l.held⟩
  | .remove topic id =>
    let (table, answer) := l.table.remove topic id
    ⟨table, answer.carry topic l.held⟩

/-- What a list of calls makes of an empty table. -/
def after (changes : List Change) : Ledger := changes.foldl call {}

theorem after_append_singleton (changes : List Change) (c : Change) :
    after (changes ++ [c]) = (after changes).call c := List.foldl_concat ..

/-! ## The table's part -/

theorem level?_call (l : Ledger) (c : Change) (topic : String) (id : SubscriptionId) :
    (l.call c).table.level? topic id =
      if c.subject = (topic, id) then
        match c with
        | .add _ _ qos => some qos
        | .remove _ _ => none
      else l.table.level? topic id := by
  cases c with
  | add other i qos =>
    exact l.table.level?_add other topic i id qos
  | remove other i =>
    exact l.table.level?_remove other topic i id

/-- The table has a subscription at the level of the last call about it, if that added it. -/
theorem level?_after (changes : List Change) (topic : String) (id : SubscriptionId) (qos : Qos) :
    (after changes).table.level? topic id = some qos ↔ IsCurrent topic id qos changes := by
  induction changes using List.reverseRecOn with
  | nil => simpa [after, IsCurrent, Table.level?, Table.subscribers] using not_since_nil _ _
  | append_singleton changes c ih =>
    rw [after_append_singleton, level?_call, IsCurrent, since_append_singleton]
    by_cases hc : c.subject = (topic, id)
    · rw [if_pos hc]
      cases c <;> cases hc <;> simp [Change.subject]
    · have hne : c ≠ .add topic id qos := by
        rintro rfl
        exact hc rfl
      simp only [hne, hc, not_false_iff, and_true, false_or]
      exact ih

/-- A subscription was added and not removed since, if and only if it has a level. -/
theorem isAdded_iff (changes : List Change) (topic : String) (id : SubscriptionId) :
    IsAdded topic id changes ↔ ∃ qos, IsCurrent topic id qos changes := by
  simp only [← level?_after]
  induction changes using List.reverseRecOn with
  | nil => simpa [after, IsAdded, Table.level?, Table.subscribers] using not_since_nil _ _
  | append_singleton changes c ih =>
    rw [after_append_singleton, level?_call, IsAdded, since_append_singleton]
    by_cases hc : c.subject = (topic, id)
    · rw [if_pos hc]
      cases c <;> cases hc <;> simp
    · have hadd : ¬ ∃ qos, c = .add topic id qos := by
        rintro ⟨qos, rfl⟩
        exact hc rfl
      have hremove : c ≠ .remove topic id := by
        rintro rfl
        exact hc rfl
      simp only [hadd, hc, hremove, not_false_iff, and_true, false_or]
      exact ih

/-! ## The broker's part -/

/-- What the broker holds of a topic covers its subscriptions: nothing if there are none, else a
level that is not below any of theirs. -/
structure Covers (held : Option Qos) (subscribers : Assoc Subscriber) : Prop where
  used : held = none ↔ subscribers = []
  bound : ∀ q, held = some q → ∀ s ∈ subscribers, s.2.qos.toNat ≤ q.toNat

namespace Covers

variable {held : Option Qos} {subscribers : Assoc Subscriber}

/-- A level above all others covers its subscription and them. -/
theorem raise {qos : Qos}
    (h : ∀ best, maxQos subscribers = some best → best.toNat < qos.toNat) (key : String) :
    Covers (some qos) (subscribers.insert key ⟨qos, false⟩) := by
  refine ⟨by simp [Table.insert_ne_nil], fun q hq s hs => ?_⟩
  obtain rfl := Option.some.inj hq
  rcases Assoc.mem_insert hs with rfl | hs
  · exact le_refl _
  · obtain ⟨best, hbest, hall, -⟩ := Table.highest_maxQos (List.ne_nil_of_mem hs)
    exact (hall s hs).trans (h best hbest).le

/-- A subscription below the highest one is covered as that is. -/
theorem join (h : Covers held subscribers) {qos best : Qos}
    (hbest : maxQos subscribers = some best) (hle : qos.toNat ≤ best.toNat) (key : String) :
    Covers held (subscribers.insert key ⟨qos, false⟩) := by
  obtain ⟨-, u, hu, rfl⟩ := Table.maxQos_eq_some_iff.1 hbest
  refine ⟨by simp [Table.insert_ne_nil, h.used, List.ne_nil_of_mem hu], fun q hq s hs => ?_⟩
  rcases Assoc.mem_insert hs with rfl | hs
  · exact hle.trans (h.bound q hq u hu)
  · exact h.bound q hq s hs

/-- As long as a subscription is left, what covered all covers the rest. -/
theorem leave (h : Covers held subscribers) {key : String}
    (hleft : subscribers.erase key ≠ [] ∨ subscribers = []) :
    Covers held (subscribers.erase key) := by
  refine ⟨?_, fun q hq s hs => h.bound q hq s (List.mem_filter.1 hs).1⟩
  rw [h.used]
  constructor
  · rintro rfl
    rfl
  · exact fun hnil => hleft.resolve_left fun hne => hne hnil

end Covers

/-- The broker covers every topic of a table in good order. -/
structure Covering (l : Ledger) : Prop where
  wellFormed : l.table.WellFormed
  ordered : ∀ topic, Assoc.Ordered (l.table.subscribers topic)
  covers : ∀ topic, Covers (l.held.get? topic) (l.table.subscribers topic)

namespace Covering

variable {l : Ledger}

theorem empty : Covering {} :=
  ⟨.nil, fun _ => List.Pairwise.nil, fun _ => ⟨⟨fun _ => rfl, fun _ => rfl⟩, nofun⟩⟩

theorem add (h : l.Covering) (topic : String) (id : SubscriptionId) (qos : Qos) :
    (l.call (.add topic id qos)).Covering := by
  refine ⟨h.wellFormed.add topic id qos, fun other => ?_, fun other => ?_⟩
  · simp only [call, Table.subscribers_add]
    split
    · exact (h.ordered topic).insert _ _
    · exact h.ordered other
  · simp only [call, Table.subscribers_add]
    rcases l.table.add_answer_cases topic id qos with ⟨hanswer, hlow⟩ | ⟨hanswer, best, hbest, hle⟩
    · rw [hanswer, Added.carry, Assoc.get?_insert]
      split
      · exact .raise hlow _
      · exact h.covers other
    · rw [hanswer, Added.carry]
      split
      · next htopic => exact htopic ▸ (h.covers topic).join hbest hle _
      · exact h.covers other

theorem remove (h : l.Covering) (topic : String) (id : SubscriptionId) :
    (l.call (.remove topic id)).Covering := by
  refine ⟨h.wellFormed.remove topic id, fun other => ?_, fun other => ?_⟩
  · simp only [call, Table.subscribers_remove]
    split
    · exact (h.ordered topic).erase _
    · exact h.ordered other
  · have hanswer := l.table.remove_answer topic id
    simp only [call, Table.subscribers_remove, Removed.get?_carry]
    by_cases htopic : topic = other
    · subst htopic
      rw [if_pos rfl]
      split
      · next hreleased =>
        rw [(hanswer.1 hreleased.2).2]
        exact ⟨⟨fun _ => rfl, fun _ => rfl⟩, nofun⟩
      · next hreleased =>
        rw [hanswer, eq_self, true_and, not_and_or, not_not] at hreleased
        exact (h.covers topic).leave hreleased.symm
    · simp only [htopic, false_and, if_false]
      exact h.covers other

theorem call (h : l.Covering) (c : Change) : (l.call c).Covering := by
  cases c with
  | add topic id qos => exact h.add topic id qos
  | remove topic id => exact h.remove topic id

theorem after (changes : List Change) : (after changes).Covering := by
  induction changes using List.reverseRecOn with
  | nil => exact empty
  | append_singleton changes c ih => exact after_append_singleton changes c ▸ ih.call c

end Covering

/-! ## Agreement -/

/-- The subscriptions of a topic are its current ones. -/
theorem mem_subscribers_after (changes : List Change) (topic : String) (id : SubscriptionId)
    (qos : Qos) :
    (∃ s ∈ (after changes).table.subscribers topic, s.1 = id.text ∧ s.2.qos = qos) ↔
      IsCurrent topic id qos changes := by
  rw [← level?_after, Table.level?, Option.map_eq_some_iff]
  constructor
  · rintro ⟨s, hs, hid, hqos⟩
    exact ⟨s.2, hid ▸ ((Covering.after changes).ordered topic).get?_of_mem hs, hqos⟩
  · rintro ⟨s, hs, hqos⟩
    exact ⟨(id.text, s), Assoc.mem_of_get? hs, rfl, hqos⟩

/-- The highest level of a topic's subscriptions is that of its current ones. -/
theorem highest_after (changes : List Change) (topic : String) (qos : Qos) :
    Table.Highest ((after changes).table.subscribers topic) qos ↔
      IsHighest topic qos changes := by
  have hmem := mem_subscribers_after changes topic
  constructor
  · rintro ⟨hall, s, hs, hqos⟩
    refine ⟨⟨⟨s.1⟩, (hmem _ _).1 ⟨s, hs, rfl, hqos⟩⟩, fun id other hother => ?_⟩
    obtain ⟨s, hs, -, rfl⟩ := (hmem _ _).2 hother
    exact hall s hs
  · rintro ⟨⟨id, hid⟩, hbound⟩
    obtain ⟨s, hs, -, hqos⟩ := (hmem _ _).2 hid
    exact ⟨fun u hu => hbound ⟨u.1⟩ u.2.qos ((hmem _ _).1 ⟨u, hu, rfl, rfl⟩), s, hs, hqos⟩

theorem contains_held_iff (changes : List Change) (topic : String) :
    (after changes).held.contains topic = true ↔
      (after changes).table.subscribers topic ≠ [] := by
  rw [Assoc.contains, Option.isSome_iff_ne_none, Ne,
    ((Covering.after changes).covers topic).used]

/-- After any calls, the broker holds a topic if and only if a subscription was added to it and
not removed since, and at no lower level than any of its current subscriptions; and the table
lists exactly these topics, each of them once, at the highest level of its current ones. -/
theorem after_agrees (changes : List Change) :
    (∀ topic, (after changes).held.contains topic = true ↔ ∃ id, IsAdded topic id changes) ∧
    (∀ topic qos, IsHighest topic qos changes →
      ∃ held, (after changes).held.get? topic = some held ∧ qos.toNat ≤ held.toNat) ∧
    ((after changes).table.filters.map (·.1)).Nodup ∧
    (∀ topic, topic ∈ (after changes).table.filters.map (·.1) ↔
      (after changes).held.contains topic = true) ∧
    ∀ topic qos, (topic, qos) ∈ (after changes).table.filters ↔ IsHighest topic qos changes := by
  have hcovering := Covering.after changes
  have hlist (topic : String) (qos : Qos) :
      (topic, qos) ∈ (after changes).table.filters ↔ IsHighest topic qos changes :=
    (Table.mem_filters hcovering.wellFormed).trans (highest_after changes topic qos)
  have hused (topic : String) : (after changes).held.contains topic = true ↔
      ∃ qos, IsHighest topic qos changes := by
    simp only [contains_held_iff, ← highest_after]
    constructor
    · intro hne
      obtain ⟨qos, -, hhigh⟩ := Table.highest_maxQos hne
      exact ⟨qos, hhigh⟩
    · rintro ⟨qos, -, s, hs, -⟩
      exact List.ne_nil_of_mem hs
  refine ⟨fun topic => ?_, fun topic qos hhigh => ?_, ?_, fun topic => ?_, hlist⟩
  · simp only [contains_held_iff, isAdded_iff, ← mem_subscribers_after]
    constructor
    · intro hne
      obtain ⟨s, hs⟩ := List.exists_mem_of_ne_nil _ hne
      exact ⟨⟨s.1⟩, s.2.qos, s, hs, rfl, rfl⟩
    · rintro ⟨id, qos, s, hs, -⟩
      exact List.ne_nil_of_mem hs
  · obtain ⟨held, hheld⟩ := Option.isSome_iff_exists.1 ((hused topic).2 ⟨qos, hhigh⟩)
    obtain ⟨-, s, hs, hqos⟩ := (highest_after changes topic qos).2 hhigh
    exact ⟨held, hheld, hqos ▸ (hcovering.covers topic).bound held hheld s hs⟩
  · exact (Table.filters_of_wellFormed hcovering.wellFormed).2.1
  · rw [hused, List.mem_map]
    constructor
    · rintro ⟨⟨t, qos⟩, hmem, rfl⟩
      exact ⟨qos, (hlist t qos).1 hmem⟩
    · rintro ⟨qos, hhigh⟩
      exact ⟨(topic, qos), (hlist topic qos).2 hhigh, rfl⟩

/-- The broker may hold a topic higher than any of its current subscriptions: the one it was
raised for is gone, and lowering it would mean to subscribe again. -/
example : after [.add "t" ⟨"a"⟩ .atMostOnce, .add "t" ⟨"b"⟩ .exactlyOnce, .remove "t" ⟨"b"⟩] =
    ⟨[("t", [("a", ⟨.atMostOnce, false⟩)])], [("t", .exactlyOnce)]⟩ := by decide

end Ledger

end MqttRelay.Topic
