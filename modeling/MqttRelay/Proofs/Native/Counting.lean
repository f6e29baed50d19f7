import MqttRelay.Native.Recorder
import MqttRelay.Proofs.Topic.Ledger

/-!
# The recording layer counts like a topic table

The recording layer goes to its imagined broker with the first subscription of a topic and with
the release of the last one. It keeps no levels and forgets nothing but empty topics; a topic
table keeps levels and asks again for a higher one. Side by side they hold the same subscriptions
all the time, so that what is observed of clients over the one holds over the other.

* `Change.request` — a call on a table as a request on behalf of a client.
* `Mirrors` — the layer holds the subscriptions of a table for a client.

Results:
* `Mirrors.add`, `Mirrors.remove`: one call keeps the two in step.
* `counts_as_table`: after any calls both hold the same subscriptions, and the layer turns to its
  broker when the table does, as long as a topic is asked for at one level.
-/

namespace MqttRelay

namespace Assoc

variable {α β : Type}

theorem insert_map (f : String → α → β) (key : String) (value : α) (m : Assoc α) :
    insert key (f key value) (m.map fun p => (p.1, f p.1 p.2)) =
      (insert key value m).map fun p => (p.1, f p.1 p.2) := by
  induction m with
  | nil => rfl
  | cons p m ih =>
    simp only [List.map_cons, insert]
    split
    · rfl
    · split
      · next h => rw [List.map_cons, h]
      · rw [List.map_cons, ih]

theorem erase_map (f : String → α → β) (key : String) (m : Assoc α) :
    erase key (m.map fun p => (p.1, f p.1 p.2)) =
      (erase key m).map fun p => (p.1, f p.1 p.2) := List.filter_map

end Assoc

namespace Topic

/-- What a call on a table asks of a native layer on behalf of a client. -/
def Change.request (clientId : String) : Change → Native.Request
  | add topic id qos => .subscribe id clientId topic qos
  | remove topic id => .unsubscribe id clientId topic

/-- The subscriptions of a topic without their levels. -/
def Table.holders (t : Table) (topic : String) : Assoc SubscriptionId :=
  (t.subscribers topic).map fun s => (s.1, ⟨s.1⟩)

namespace Table

variable (t : Table) (topic other : String) (id : SubscriptionId)

theorem holders_add (qos : Qos) :
    (t.add topic id qos).1.holders other =
      if topic = other then (t.holders topic).insert id.text id else t.holders other := by
  unfold holders
  rw [subscribers_add]
  split
  · exact (Assoc.insert_map (fun key _ => SubscriptionId.mk key) ..).symm
  · rfl

theorem holders_remove :
    (t.remove topic id).1.holders other =
      if topic = other then (t.holders topic).erase id.text else t.holders other := by
  unfold holders
  rw [subscribers_remove]
  split
  · exact (Assoc.erase_map (fun key _ => SubscriptionId.mk key) ..).symm
  · rfl

theorem holders_eq_nil_iff : t.holders topic = [] ↔ t.subscribers topic = [] := List.map_eq_nil_iff

/-- A topic is given up exactly with its last subscription. -/
theorem released_iff_holders :
    (t.remove topic id).2 = .released ↔
      t.holders topic ≠ [] ∧ (t.holders topic).erase id.text = [] := by
  have herase : (t.holders topic).erase id.text = [] ↔
      (t.subscribers topic).erase id.text = [] := by
    rw [holders, Assoc.erase_map (fun key _ => SubscriptionId.mk key), List.map_eq_nil_iff]
  rw [remove_answer, herase, Ne, Ne, holders_eq_nil_iff]

end Table

/-- Among subscriptions of one level, the broker is asked for the first one alone. -/
theorem Ledger.subscribes_iff_of_level (changes : List Change) {topic : String} {qos : Qos}
    (h : ∀ id other, IsCurrent topic id other changes → other = qos) (id : SubscriptionId) :
    ((after changes).table.add topic id qos).2 = .subscribe qos ↔
      (after changes).table.subscribers topic = [] := by
  rw [Table.add_answer]
  constructor
  · intro hlow
    by_contra hne
    obtain ⟨best, hbest, hhigh⟩ := Table.highest_maxQos hne
    obtain ⟨other, hother⟩ := ((highest_after changes topic best).1 hhigh).attained
    have := hlow best hbest
    rw [h other best hother] at this
    exact Nat.lt_irrefl _ this
  · rintro hnil best hbest
    rw [hnil] at hbest
    cases hbest

end Topic

namespace Native.Recorder

open Topic

/-! ## One request -/

theorem holders_setHolders (clientId topic other : String) (ids : Assoc SubscriptionId)
    (r : Recorder) :
    (r.setHolders clientId topic ids).holders clientId other =
      if topic = other then ids else r.holders clientId other := by
  unfold holders setHolders
  dsimp only
  rw [Assoc.get?_insert_self, Option.getD_some]
  split
  · next hempty =>
    rw [Assoc.get?_erase]
    split
    · exact (List.isEmpty_iff.1 hempty).symm
    · rfl
  · rw [Assoc.get?_insert]
    split <;> rfl

/-- A request that is not refused is carried out. -/
theorem answer_of_allowed {r : Recorder} {request : Request} (h : request.operation ∉ r.failing) :
    r.answer request =
      ((carryOut request { r with calls := r.calls ++ [request] }).1,
        { events := (carryOut request { r with calls := r.calls ++ [request] }).2 }) := by
  simp [answer, h]

/-- A subscription that is not refused. -/
theorem answer_subscribe {r : Recorder} (h : Operation.subscribe ∉ r.failing)
    (id : SubscriptionId) (clientId topic : String) (qos : Qos) :
    r.answer (.subscribe id clientId topic qos) =
      ({ r.setHolders clientId topic ((r.holders clientId topic).insert id.text id) with
          calls := r.calls ++ [.subscribe id clientId topic qos]
          subscribed := r.subscribed ++ if r.holders clientId topic = [] then [topic] else [] },
        {}) := by
  rw [answer_of_allowed h]
  have hsame : holders clientId topic
      { r with calls := r.calls ++ [.subscribe id clientId topic qos] } =
        r.holders clientId topic := rfl
  unfold carryOut
  dsimp only
  rw [hsame]
  cases r.holders clientId topic <;> simp [setHolders]

/-- The end of a subscription that is not refused. -/
theorem answer_unsubscribe {r : Recorder} (h : Operation.unsubscribe ∉ r.failing)
    (id : SubscriptionId) (clientId topic : String) :
    r.answer (.unsubscribe id clientId topic) =
      ({ r.setHolders clientId topic ((r.holders clientId topic).erase id.text) with
          calls := r.calls ++ [.unsubscribe id clientId topic]
          unsubscribed := r.unsubscribed ++
            if r.holders clientId topic ≠ [] ∧ (r.holders clientId topic).erase id.text = []
              then [topic] else [] }, {}) := by
  rw [answer_of_allowed h]
  have hsame : holders clientId topic
      { r with calls := r.calls ++ [.unsubscribe id clientId topic] } =
        r.holders clientId topic := rfl
  unfold carryOut
  dsimp only
  rw [hsame]
  cases r.holders clientId topic with
  | nil => simp [setHolders]
  | cons p ids =>
    cases Assoc.erase id.text (p :: ids) <;> simp [setHolders]

/-! ## Side by side -/

/-- The layer holds the subscriptions of a table for a client, and refuses neither to make nor to
end one. -/
structure Mirrors (clientId : String) (r : Recorder) (t : Table) : Prop where
  holders : ∀ topic, r.holders clientId topic = t.holders topic
  subscribes : Operation.subscribe ∉ r.failing
  unsubscribes : Operation.unsubscribe ∉ r.failing

namespace Mirrors

variable {clientId : String} {r : Recorder} {t : Table}

theorem subscribers (h : Mirrors clientId r t) (topic : String) :
    r.subscribers clientId topic = (t.subscribers topic).map fun s => ⟨s.1⟩ := by
  rw [Recorder.subscribers, h.holders, Table.holders, List.map_map]
  rfl

theorem add (h : Mirrors clientId r t) (topic : String) (id : SubscriptionId) (qos : Qos) :
    Mirrors clientId (r.answer (.subscribe id clientId topic qos)).1 (t.add topic id qos).1 := by
  rw [answer_subscribe h.subscribes]
  refine ⟨fun other => ?_, h.subscribes, h.unsubscribes⟩
  rw [Table.holders_add, ← h.holders, ← h.holders]
  exact holders_setHolders clientId topic other _ r

theorem remove (h : Mirrors clientId r t) (topic : String) (id : SubscriptionId) :
    Mirrors clientId (r.answer (.unsubscribe id clientId topic)).1 (t.remove topic id).1 := by
  rw [answer_unsubscribe h.unsubscribes]
  refine ⟨fun other => ?_, h.subscribes, h.unsubscribes⟩
  rw [Table.holders_remove, ← h.holders, ← h.holders]
  exact holders_setHolders clientId topic other _ r

end Mirrors

/-- The layer after calls were requested of it on behalf of a client. -/
def after (r : Recorder) (clientId : String) (changes : List Change) : Recorder :=
  changes.foldl (fun r c => (r.answer (c.request clientId)).1) r

theorem after_append_singleton (r : Recorder) (clientId : String) (changes : List Change)
    (c : Change) :
    r.after clientId (changes ++ [c]) =
      ((r.after clientId changes).answer (c.request clientId)).1 :=
  List.foldl_concat ..

/-- After any calls the layer holds what a table holds after them. -/
theorem mirrors_after {r : Recorder} {clientId : String} (h : Mirrors clientId r [])
    (changes : List Change) :
    Mirrors clientId (r.after clientId changes) (Ledger.after changes).table := by
  induction changes using List.reverseRecOn with
  | nil => exact h
  | append_singleton changes c ih =>
    rw [after_append_singleton, Ledger.after_append_singleton]
    cases c with
    | add topic id qos => exact ih.add topic id qos
    | remove topic id => exact ih.remove topic id

/-- A layer that has no subscriptions of a client yet and refuses none is asked for the calls that
are made on an empty table. After any of them both hold the same subscriptions on every topic:
those that were added and not removed since. The layer turns to its broker for a topic exactly
when the topic has no subscription, which is when the table does, if all current subscriptions of
the topic are at the level of the new one; and it releases a topic exactly when the table does. -/
theorem counts_as_table {r : Recorder} {clientId : String}
    (hsubscribes : Operation.subscribe ∉ r.failing)
    (hunsubscribes : Operation.unsubscribe ∉ r.failing)
    (hnew : ∀ topic, r.subscribers clientId topic = []) (changes : List Change) :
    let layer := r.after clientId changes
    let table := (Ledger.after changes).table
    (∀ topic, layer.subscribers clientId topic = (table.subscribers topic).map fun s => ⟨s.1⟩) ∧
    (∀ topic id, id ∈ layer.subscribers clientId topic ↔ IsAdded topic id changes) ∧
    (∀ topic id qos,
      let next := (layer.answer (.subscribe id clientId topic qos)).1
      next.subscribed =
        layer.subscribed ++ (if layer.subscribers clientId topic = [] then [topic] else []) ∧
      next.unsubscribed = layer.unsubscribed ∧
      ((∀ i level, IsCurrent topic i level changes → level = qos) →
        ((table.add topic id qos).2 = .subscribe qos ↔
          layer.subscribers clientId topic = []))) ∧
    ∀ topic id,
      let next := (layer.answer (.unsubscribe id clientId topic)).1
      next.unsubscribed =
        layer.unsubscribed ++ (if (table.remove topic id).2 = .released then [topic] else []) ∧
      next.subscribed = layer.subscribed := by
  intro layer table
  have hstart : Mirrors clientId r [] := by
    refine ⟨fun topic => ?_, hsubscribes, hunsubscribes⟩
    exact List.map_eq_nil_iff.1 (hnew topic)
  have hmirrors : Mirrors clientId layer table := mirrors_after hstart changes
  have hnil (topic : String) :
      layer.holders clientId topic = [] ↔ layer.subscribers clientId topic = [] :=
    List.map_eq_nil_iff.symm
  refine ⟨hmirrors.subscribers, fun topic id => ?_, fun topic id qos => ⟨?_, ?_, fun hlevel => ?_⟩,
    fun topic id => ⟨?_, ?_⟩⟩
  · simp only [Ledger.isAdded_iff, ← Ledger.mem_subscribers_after, hmirrors.subscribers,
      List.mem_map]
    constructor
    · rintro ⟨s, hs, rfl⟩
      exact ⟨s.2.qos, s, hs, rfl, rfl⟩
    · rintro ⟨qos, s, hs, hid, -⟩
      exact ⟨s, hs, congrArg SubscriptionId.mk hid⟩
  · simp only [answer_subscribe hmirrors.subscribes, hnil]
  · rw [answer_subscribe hmirrors.subscribes]
    rfl
  · rw [Ledger.subscribes_iff_of_level changes hlevel, hmirrors.subscribers, List.map_eq_nil_iff]
  · simp only [answer_unsubscribe hmirrors.unsubscribes, hmirrors.holders,
      ← Table.released_iff_holders]
  · rw [answer_unsubscribe hmirrors.unsubscribes]
    rfl

/-- A topic that is asked for again at a higher level goes to the table's broker a second time,
and not to the layer's. -/
example :
    ((Ledger.after [.add "t" ⟨"a"⟩ .atMostOnce]).table.add "t" ⟨"b"⟩ .exactlyOnce).2 =
      .subscribe .exactlyOnce ∧
    (({} : Recorder).after "x"
      [.add "t" ⟨"a"⟩ .atMostOnce, .add "t" ⟨"b"⟩ .exactlyOnce]).subscribed = ["t"] := by decide

/-- Calls of which one repeats a subscription, one ends an unknown one and one empties a topic
that is asked for again. -/
def repeating : List Change :=
  [.add "t" ⟨"a"⟩ .atLeastOnce, .add "t" ⟨"a"⟩ .atLeastOnce, .remove "t" ⟨"b"⟩,
    .add "t" ⟨"b"⟩ .atLeastOnce, .remove "t" ⟨"a"⟩, .remove "t" ⟨"b"⟩, .remove "t" ⟨"b"⟩,
    .add "t" ⟨"b"⟩ .atLeastOnce]

/-- After these calls both hold one subscription. Another one of its level is covered by it, and
its end releases the topic. -/
theorem counts_as_table_of_repeating :
    Operation.subscribe ∉ ({} : Recorder).failing ∧
    Operation.unsubscribe ∉ ({} : Recorder).failing ∧
    (∀ topic, ({} : Recorder).subscribers "x" topic = []) ∧
    (∀ i level, IsCurrent "t" i level repeating → level = .atLeastOnce) ∧
    (({} : Recorder).after "x" repeating).subscribers "x" "t" = [⟨"b"⟩] ∧
    ((Ledger.after repeating).table.add "t" ⟨"c"⟩ .atLeastOnce).2 ≠ .subscribe .atLeastOnce ∧
    ((({} : Recorder).after "x" repeating).answer (.unsubscribe ⟨"b"⟩ "x" "t")).1.unsubscribed =
      ["t", "t"] := by
  have hnew : ∀ topic, ({} : Recorder).subscribers "x" topic = [] := fun _ => rfl
  obtain ⟨hsame, -, hadd, hremove⟩ := counts_as_table (by decide) (by decide) hnew repeating
  have hlevel : ∀ i level, IsCurrent "t" i level repeating → level = .atLeastOnce := by
    have hlevels : ∀ s ∈ (Ledger.after repeating).table.subscribers "t",
        s.2.qos = .atLeastOnce := by decide
    intro i level hcurrent
    obtain ⟨s, hs, -, rfl⟩ := (Ledger.mem_subscribers_after repeating "t" i level).2 hcurrent
    exact hlevels s hs
  have hholds : (({} : Recorder).after "x" repeating).subscribers "x" "t" = [⟨"b"⟩] :=
    (hsame "t").trans (by decide)
  refine ⟨by decide, by decide, hnew, hlevel, hholds, fun hanswer => ?_, ?_⟩
  · have hnone := ((hadd "t" ⟨"c"⟩ .atLeastOnce).2.2 hlevel).1 hanswer
    exact absurd (hholds.symm.trans hnone) (List.cons_ne_nil _ _)
  · exact (hremove "t" ⟨"b"⟩).1.trans (by decide)

end Native.Recorder

end MqttRelay
