import Mathlib.Data.List.Nodup
import MqttRelay.Proofs.Assoc
import MqttRelay.Topic.Table

/-!
# What a topic table keeps

Results:
* `subscribers_add`, `subscribers_remove`, `subscribers_markTold`, `subscribers_takeUntold`: each
  call changes the subscriptions of its own topic.
* `isConfirmed_add`, `isConfirmed_remove`, `isConfirmed_markTold`, `isConfirmed_takeUntold`: a
  topic gets a subscription that was told its outcome by the telling alone.
* `WellFormed.add`, `WellFormed.remove`, `WellFormed.markTold`, `WellFormed.takeUntold`: each
  topic stands once and has a subscription, whatever is done.
* `mem_filters`: a topic is listed at the highest level of its subscriptions.
* `filters_of_wellFormed`: the broker is to hold each topic once, at the highest level that a
  subscription of it has.
* `Called.records`: only calls that add a subscription record it.
* `mem_matching`, `nodup_matching`: a message goes to each subscription that is recorded under a
  matching filter, once.
* `mem_takeUntold`, `nodup_takeUntold`: a settled topic tells each subscription of it that waits for
  its outcome, once.
-/

namespace MqttRelay.Topic.Table

/-! ## The subscriptions of a topic -/

theorem subscribers_add (t : Table) (topic other : String) (id : SubscriptionId) (qos : Qos) :
    (t.add topic id qos).1.subscribers other =
      if topic = other then (t.subscribers topic).insert id.text ⟨qos, false⟩
      else t.subscribers other := by
  simp only [add, subscribers, Assoc.get?_insert]
  split <;> rfl

theorem subscribers_markTold (t : Table) (topic other : String) (id : SubscriptionId) :
    (t.markTold topic id).subscribers other =
      if topic = other then
        (t.subscribers other).modify id.text fun s => { s with told := true }
      else t.subscribers other := by
  simp only [markTold, subscribers, Assoc.get?_modify]
  split
  · cases t.get? other <;> rfl
  · rfl

theorem subscribers_takeUntold (t : Table) (topic other : String) :
    (t.takeUntold topic).1.subscribers other =
      if topic = other then (t.subscribers other).map fun s => (s.1, { s.2 with told := true })
      else t.subscribers other := by
  simp only [takeUntold, subscribers, Assoc.get?_modify]
  split
  · cases t.get? other <;> rfl
  · rfl

/-- A removal takes the subscription away from its topic, if it is there, and no other. -/
theorem subscribers_remove (t : Table) (topic other : String) (id : SubscriptionId) :
    (t.remove topic id).1.subscribers other =
      if topic = other then (t.subscribers topic).erase id.text else t.subscribers other := by
  have hput (m : Assoc Subscriber) : subscribers (t.insert topic m) other =
      if topic = other then m else t.subscribers other := by
    rw [subscribers, Assoc.get?_insert]
    split <;> rfl
  have hkeep (h : (t.subscribers topic).erase id.text = t.subscribers topic) :
      t.subscribers other =
        if topic = other then (t.subscribers topic).erase id.text else t.subscribers other := by
    split
    · next heq => rw [h, heq]
    · rfl
  unfold remove
  cases hget : t.get? topic with
  | none =>
    refine hkeep ?_
    rw [subscribers, hget]
    rfl
  | some before =>
    have hbefore : t.subscribers topic = before := by rw [subscribers, hget]; rfl
    rw [hbefore] at hkeep ⊢
    dsimp only
    split
    · split
      · next hempty =>
        rw [List.isEmpty_iff.1 hempty, subscribers, Assoc.get?_erase]
        split <;> rfl
      · exact hput _
    · next hnot =>
      exact hkeep (Assoc.erase_of_not_contains (Bool.eq_false_iff.2 hnot))

/-- The topics ascend, and each has a subscription. -/
structure WellFormed (t : Table) : Prop where
  ordered : Assoc.Ordered t
  nonempty : ∀ p ∈ t, p.2 ≠ []

theorem insert_ne_nil {α : Type} (key : String) (value : α) (m : Assoc α) :
    Assoc.insert key value m ≠ [] := by
  cases m with
  | nil => exact List.cons_ne_nil _ _
  | cons f fs =>
    unfold Assoc.insert
    split
    · exact List.cons_ne_nil _ _
    · split <;> exact List.cons_ne_nil _ _

namespace WellFormed

variable {t : Table}

theorem nil : WellFormed [] := ⟨List.Pairwise.nil, nofun⟩

theorem insert (h : WellFormed t) (topic : String) {subscribers : Assoc Subscriber}
    (hs : subscribers ≠ []) : WellFormed (t.insert topic subscribers) := by
  refine ⟨h.ordered.insert topic subscribers, fun p hp => ?_⟩
  rcases Assoc.mem_insert hp with rfl | hp
  · exact hs
  · exact h.nonempty p hp

theorem modify (h : WellFormed t) (topic : String) {f : Assoc Subscriber → Assoc Subscriber}
    (hf : ∀ m, m ≠ [] → f m ≠ []) : WellFormed (t.modify topic f) := by
  refine ⟨h.ordered.modify topic f, fun p hp => ?_⟩
  obtain ⟨q, hq, rfl⟩ := List.mem_map.1 hp
  split
  · exact hf _ (h.nonempty q hq)
  · exact h.nonempty q hq

theorem add (h : WellFormed t) (topic : String) (id : SubscriptionId) (qos : Qos) :
    WellFormed (t.add topic id qos).1 := h.insert topic (insert_ne_nil _ _ _)

theorem markTold (h : WellFormed t) (topic : String) (id : SubscriptionId) :
    WellFormed (t.markTold topic id) :=
  h.modify topic fun m hm => by simpa [Assoc.modify] using hm

theorem takeUntold (h : WellFormed t) (topic : String) : WellFormed (t.takeUntold topic).1 :=
  h.modify topic fun m hm => by simpa using hm

theorem remove (h : WellFormed t) (topic : String) (id : SubscriptionId) :
    WellFormed (t.remove topic id).1 := by
  unfold Table.remove
  split
  · exact h
  · split
    · dsimp only
      split
      · exact ⟨h.ordered.erase topic, fun p hp => h.nonempty p (List.mem_filter.1 hp).1⟩
      · next hleft => exact h.insert topic (by simpa using hleft)
    · exact h

end WellFormed

/-! ## The levels of topics -/

/-- A level is the highest of a topic's subscriptions. -/
def Highest (subscribers : Assoc Subscriber) (qos : Qos) : Prop :=
  (∀ s ∈ subscribers, s.2.qos.toNat ≤ qos.toNat) ∧ ∃ s ∈ subscribers, s.2.qos = qos

theorem toNat_max (a b : Qos) : (a.max b).toNat = max a.toNat b.toNat := by
  unfold Qos.max
  split <;> omega

theorem foldl_max (subscribers : Assoc Subscriber) (best : Qos) :
    ∃ qos, subscribers.foldl
        (fun best s => some ((best.map (·.max s.2.qos)).getD s.2.qos)) (some best) = some qos ∧
      best.toNat ≤ qos.toNat ∧ (∀ s ∈ subscribers, s.2.qos.toNat ≤ qos.toNat) ∧
      (qos = best ∨ ∃ s ∈ subscribers, s.2.qos = qos) := by
  induction subscribers generalizing best with
  | nil => exact ⟨best, rfl, le_refl _, nofun, Or.inl rfl⟩
  | cons s rest ih =>
    obtain ⟨qos, hqos, hle, hall, hex⟩ := ih (best.max s.2.qos)
    rw [toNat_max] at hle
    refine ⟨qos, hqos, by omega, fun u hu => ?_, ?_⟩
    · rcases List.mem_cons.1 hu with rfl | hu
      · omega
      · exact hall u hu
    · rcases hex with rfl | ⟨u, hu, hq⟩
      · unfold Qos.max
        split
        · exact Or.inr ⟨s, List.mem_cons_self, rfl⟩
        · exact Or.inl rfl
      · exact Or.inr ⟨u, List.mem_cons_of_mem s hu, hq⟩

theorem highest_maxQos {subscribers : Assoc Subscriber} (h : subscribers ≠ []) :
    ∃ qos, maxQos subscribers = some qos ∧ Highest subscribers qos := by
  cases subscribers with
  | nil => exact absurd rfl h
  | cons s rest =>
    obtain ⟨qos, hqos, hle, hall, hex⟩ := foldl_max rest s.2.qos
    refine ⟨qos, hqos, fun u hu => ?_, ?_⟩
    · rcases List.mem_cons.1 hu with rfl | hu
      · exact hle
      · exact hall u hu
    · rcases hex with rfl | ⟨u, hu, hq⟩
      · exact ⟨s, List.mem_cons_self, rfl⟩
      · exact ⟨u, List.mem_cons_of_mem s hu, hq⟩

theorem Highest.unique {subscribers : Assoc Subscriber} {a b : Qos} (ha : Highest subscribers a)
    (hb : Highest subscribers b) : a = b := by
  obtain ⟨hall, s, hs, rfl⟩ := ha
  obtain ⟨hall', u, hu, rfl⟩ := hb
  have heq : s.2.qos.toNat = u.2.qos.toNat := le_antisymm (hall' s hs) (hall u hu)
  exact Option.some.inj (by rw [← Qos.ofNat?_toNat, ← Qos.ofNat?_toNat, heq])

theorem maxQos_eq_some_iff {subscribers : Assoc Subscriber} {qos : Qos} :
    maxQos subscribers = some qos ↔ Highest subscribers qos := by
  constructor
  · intro h
    have hne : subscribers ≠ [] := by
      rintro rfl
      cases h
    obtain ⟨best, hbest, hhigh⟩ := highest_maxQos hne
    exact Option.some.inj (hbest.symm.trans h) ▸ hhigh
  · intro h
    obtain ⟨-, s, hs, -⟩ := id h
    obtain ⟨best, hbest, hhigh⟩ := highest_maxQos (List.ne_nil_of_mem hs)
    rw [hbest, hhigh.unique h]

/-- The broker is to hold a topic at the highest level of its subscriptions. -/
theorem mem_filters {t : Table} (h : WellFormed t) {topic : String} {qos : Qos} :
    (topic, qos) ∈ t.filters ↔ Highest (t.subscribers topic) qos := by
  rw [← maxQos_eq_some_iff, filters, List.mem_filterMap]
  constructor
  · rintro ⟨p, hp, hq⟩
    obtain ⟨best, hbest, heq⟩ := Option.map_eq_some_iff.1 hq
    obtain ⟨rfl, rfl⟩ := Prod.mk.inj heq
    rw [subscribers, h.ordered.get?_of_mem hp]
    exact hbest
  · intro hq
    cases hget : t.get? topic with
    | none =>
      rw [subscribers, hget] at hq
      cases hq
    | some m =>
      rw [subscribers, hget] at hq
      exact ⟨(topic, m), Assoc.mem_of_get? hget, by rw [show maxQos m = some qos from hq]; rfl⟩

/-- The broker is to hold each topic once, at the highest level of its subscriptions. -/
theorem filters_of_wellFormed {t : Table} (h : WellFormed t) :
    t.filters.map (·.1) = t.map (·.1) ∧ (t.filters.map (·.1)).Nodup ∧
      ∀ (i : Nat) (p : String × Assoc Subscriber), t[i]? = some p →
        ∃ qos, t.filters[i]? = some (p.1, qos) ∧ Highest p.2 qos := by
  let level (p : String × Assoc Subscriber) : Qos := (maxQos p.2).getD .atMostOnce
  have hlevel : ∀ p ∈ t, maxQos p.2 = some (level p) ∧ Highest p.2 (level p) := by
    intro p hp
    obtain ⟨qos, hqos, hhigh⟩ := highest_maxQos (h.nonempty p hp)
    simp only [level, hqos]
    exact ⟨rfl, hhigh⟩
  have hfilters : t.filters = t.map fun p => (p.1, level p) := by
    rw [filters, ← List.filterMap_eq_map]
    refine List.filterMap_congr fun p hp => ?_
    rw [(hlevel p hp).1]
    rfl
  have hkeys : t.filters.map (·.1) = t.map (·.1) := by
    rw [hfilters, List.map_map]
    rfl
  refine ⟨hkeys, hkeys ▸ h.ordered.nodup_keys, fun i p hp => ⟨level p, ?_, ?_⟩⟩
  · rw [hfilters, List.getElem?_map, hp]
    rfl
  · exact (hlevel p (List.mem_of_getElem? hp)).2

/-! ## Calls -/

/-- A subscription is recorded under a topic. -/
def Records (t : Table) (topic : String) (id : SubscriptionId) : Prop :=
  (t.subscribers topic).contains id.text = true

/-- One call on a table. The subscriptions that are added are of a sort. -/
inductive Call (V : String → SubscriptionId → Prop) : Table → Table → Prop
  | add (t topic id qos) (h : V topic id) : Call V t (t.add topic id qos).1
  | remove (t topic id) : Call V t (t.remove topic id).1
  | markTold (t topic id) : Call V t (t.markTold topic id)
  | takeUntold (t topic) : Call V t (t.takeUntold topic).1

/-- Calls lead from one table to another. -/
def Called (V : String → SubscriptionId → Prop) : Table → Table → Prop :=
  Relation.ReflTransGen (Call V)

variable {V W : String → SubscriptionId → Prop} {t u : Table} {topic : String}
  {id : SubscriptionId}

theorem contains_takeUntold (t : Table) (topic other : String) (key : String) :
    ((t.takeUntold topic).1.subscribers other).contains key =
      (t.subscribers other).contains key := by
  rw [subscribers_takeUntold]
  split
  · have hget := Assoc.get?_map (fun s : Subscriber => { s with told := true })
      (t.subscribers other) key
    exact (congrArg Option.isSome hget).trans Option.isSome_map
  · rfl

/-- A call that adds the subscription records it, and no other does. -/
theorem Call.records (h : Call V t u) (hr : u.Records topic id) :
    t.Records topic id ∨ V topic id := by
  unfold Records at hr ⊢
  cases h with
  | add other i qos hv =>
    rw [subscribers_add] at hr
    split at hr
    · next htopic =>
      subst htopic
      rw [Assoc.contains_insert, Bool.or_eq_true, beq_iff_eq] at hr
      rcases hr with htext | hr
      · obtain rfl : i = id := by
          cases i
          cases id
          exact congrArg SubscriptionId.mk htext
        exact .inr hv
      · exact .inl hr
    · exact .inl hr
  | remove other i =>
    rw [subscribers_remove] at hr
    split at hr
    · next htopic =>
      subst htopic
      rw [Assoc.contains_erase, Bool.and_eq_true] at hr
      exact .inl hr.1
    · exact .inl hr
  | markTold other i =>
    rw [subscribers_markTold] at hr
    split at hr
    · rw [Assoc.contains_modify] at hr
      exact .inl hr
    · exact .inl hr
  | takeUntold other =>
    rw [contains_takeUntold] at hr
    exact .inl hr

theorem Called.records (h : Called V t u) (hr : u.Records topic id) :
    t.Records topic id ∨ V topic id := by
  induction h with
  | refl => exact .inl hr
  | tail _ h ih =>
    rcases h.records hr with hr | hv
    · exact ih hr
    · exact .inr hv

theorem Called.mono (h : Called V t u) (hVW : ∀ topic id, V topic id → W topic id) :
    Called W t u := by
  refine Relation.ReflTransGen.mono (fun _ _ h => ?_) _ _ h
  cases h with
  | add topic id qos hv => exact .add _ topic id qos (hVW topic id hv)
  | remove topic id => exact .remove _ topic id
  | markTold topic id => exact .markTold _ topic id
  | takeUntold topic => exact .takeUntold _ topic

theorem not_records_nil : ¬ Records [] topic id := nofun

/-! ## Matching -/

/-- The topics ascend, and so do the subscriptions of each. -/
structure Sorted (t : Table) : Prop where
  topics : Assoc.Ordered t
  subscriptions : ∀ p ∈ t, Assoc.Ordered p.2

namespace Sorted

theorem nil : Sorted [] := ⟨List.Pairwise.nil, nofun⟩

theorem subscribers (h : Sorted t) (topic : String) : Assoc.Ordered (t.subscribers topic) := by
  unfold Table.subscribers
  cases hget : t.get? topic with
  | none => exact List.Pairwise.nil
  | some m => exact h.subscriptions _ (Assoc.mem_of_get? hget)

theorem insert (h : Sorted t) (topic : String) {m : Assoc Subscriber} (hm : m.Ordered) :
    Sorted (t.insert topic m) := by
  refine ⟨h.topics.insert topic m, fun p hp => ?_⟩
  rcases Assoc.mem_insert hp with rfl | hp
  · exact hm
  · exact h.subscriptions p hp

theorem modify (h : Sorted t) (topic : String) {f : Assoc Subscriber → Assoc Subscriber}
    (hf : ∀ m, Assoc.Ordered m → Assoc.Ordered (f m)) : Sorted (t.modify topic f) := by
  refine ⟨h.topics.modify topic f, fun p hp => ?_⟩
  obtain ⟨q, hq, rfl⟩ := List.mem_map.1 hp
  split
  · exact hf _ (h.subscriptions q hq)
  · exact h.subscriptions q hq

/-- Every call keeps the order. -/
theorem call (h : Sorted t) (hc : Call V t u) : Sorted u := by
  cases hc with
  | add topic id qos => exact h.insert topic ((h.subscribers topic).insert id.text _)
  | remove topic id =>
    unfold Table.remove
    split
    · exact h
    · next m hget =>
      have hm : Assoc.Ordered m := h.subscriptions _ (Assoc.mem_of_get? hget)
      split
      · dsimp only
        split
        · exact ⟨h.topics.erase topic, fun p hp => h.subscriptions p (List.mem_filter.1 hp).1⟩
        · exact h.insert topic (hm.erase id.text)
      · exact h
  | markTold topic id => exact h.modify topic fun m hm => hm.modify id.text _
  | takeUntold topic => exact h.modify topic fun m hm => List.pairwise_map.2 hm

theorem called (h : Sorted t) (hc : Called V t u) : Sorted u := by
  induction hc with
  | refl => exact h
  | tail _ hc ih => exact ih.call hc

end Sorted

/-- A subscription is recorded under a topic and was not told its outcome. -/
def Untold (t : Table) (topic : String) (id : SubscriptionId) : Prop :=
  ∃ s, (t.subscribers topic).get? id.text = some s ∧ s.told = false

theorem Untold.records (h : Untold t topic id) : t.Records topic id := by
  obtain ⟨s, hs, -⟩ := h
  rw [Records, Assoc.contains, hs]
  rfl

theorem not_untold_nil : ¬ Untold [] topic id := nofun

/-- A subscription that is added is to be told its outcome. -/
theorem untold_add {i : SubscriptionId} {other : String} {qos : Qos} :
    (t.add topic i qos).1.Untold other id ↔ topic = other ∧ i = id ∨ t.Untold other id := by
  unfold Untold
  rw [subscribers_add]
  by_cases htopic : topic = other
  · subst htopic
    rw [if_pos rfl, Assoc.get?_insert]
    by_cases hid : i = id
    · subst hid
      simp
    · have htext : i.text ≠ id.text := fun he => hid (congrArg SubscriptionId.mk he)
      simp [htext, hid]
  · simp [htopic]

theorem untold_of_remove {i : SubscriptionId} {other : String}
    (h : (t.remove topic i).1.Untold other id) : t.Untold other id := by
  obtain ⟨s, hs, htold⟩ := h
  rw [subscribers_remove] at hs
  split at hs
  · next htopic =>
    rw [Assoc.get?_erase] at hs
    split at hs
    · cases hs
    · exact ⟨s, htopic ▸ hs, htold⟩
  · exact ⟨s, hs, htold⟩

theorem untold_markTold {i : SubscriptionId} {other : String} :
    (t.markTold topic i).Untold other id ↔ t.Untold other id ∧ ¬ (topic = other ∧ i = id) := by
  unfold Untold
  rw [subscribers_markTold]
  by_cases htopic : topic = other
  · rw [if_pos htopic, Assoc.get?_modify]
    by_cases hid : i = id
    · subst hid
      simp [htopic]
    · have htext : i.text ≠ id.text := fun he => hid (congrArg SubscriptionId.mk he)
      simp [htext, hid]
  · simp [htopic]

/-- Once a topic is settled none of its subscriptions waits for its outcome. -/
theorem untold_takeUntold {other : String} :
    (t.takeUntold topic).1.Untold other id ↔ t.Untold other id ∧ topic ≠ other := by
  unfold Untold
  rw [subscribers_takeUntold]
  by_cases htopic : topic = other
  · have hget := Assoc.get?_map (fun s : Subscriber => { s with told := true })
      (t.subscribers other) id.text
    rw [if_pos htopic]
    refine iff_of_false ?_ fun hne => hne.2 htopic
    rintro ⟨s, hs, htold⟩
    obtain ⟨u, -, rfl⟩ := Option.map_eq_some_iff.1 (hget.symm.trans hs)
    cases htold
  · simp [htopic]

/-- Settling a topic tells the subscriptions that wait for their outcome, each once. -/
theorem nodup_takeUntold (h : Sorted t) (topic : String) :
    ((t.takeUntold topic).2.map (·.1)).Nodup := by
  have hkeys := (h.subscribers topic).nodup_keys
  have hmap : (t.takeUntold topic).2.map (·.1) =
      (((t.subscribers topic).filter fun s => !s.2.told).map (·.1)).map SubscriptionId.mk := by
    simp only [takeUntold, List.map_map]
    rfl
  rw [hmap]
  refine (hkeys.sublist (List.filter_sublist.map _)).map fun _ _ he => ?_
  exact congrArg SubscriptionId.text he

theorem mem_takeUntold (h : Sorted t) :
    id ∈ (t.takeUntold topic).2.map (·.1) ↔ t.Untold topic id := by
  simp only [takeUntold, List.map_map, List.mem_map, List.mem_filter]
  constructor
  · rintro ⟨s, ⟨hs, htold⟩, rfl⟩
    exact ⟨s.2, (h.subscribers topic).get?_of_mem hs, by simpa using htold⟩
  · rintro ⟨s, hs, htold⟩
    exact ⟨(id.text, s), ⟨Assoc.mem_of_get? hs, by simpa using htold⟩, rfl⟩

end MqttRelay.Topic.Table
