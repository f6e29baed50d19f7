import MqttRelay.Client.Creation
import MqttRelay.Proofs.Router.Listeners

/-!
# Removing a client again

The native layer is asked once to remove a client, but the listeners under the names of its
events are removed at every call. A client that was removed may share these names with a client
made since under the same id, whose listeners then go with the second call.

Results:
* `World.remove_again_iff`: a second removal never reaches the native layer, and it leaves
  everything as it was exactly if no event of the client's id has a listener and whatever the
  client itself had is gone.
* `World.remove_again_detaches_newer_client`: a second removal takes the listeners of a client
  made since under the same id.
-/

namespace MqttRelay.Client.World

variable {N A : Type}

/-! ## What is left -/

/-- Whether a subscription is active. -/
def isLive (w : World N A) (number : Nat) : Bool := w.store.subscriptions[number]?.any (·.active)

/-- What a removal leaves: the listeners and the active subscriptions were there before. -/
structure Within (left w : World N A) : Prop where
  router : left.router.Within w.router
  isLive : ∀ number, left.isLive number = true → w.isLive number = true

namespace Within

theorem refl (w : World N A) : Within w w := ⟨.refl w.router, fun _ h => h⟩

theorem trans {w₁ w₂ w₃ : World N A} (h₁ : Within w₁ w₂) (h₂ : Within w₂ w₃) : Within w₁ w₃ :=
  ⟨h₁.router.trans h₂.router, fun n h => h₂.isLive n (h₁.isLive n h)⟩

theorem isLive_eq_false {left w : World N A} (h : Within left w) {number : Nat}
    (hw : w.isLive number = false) : left.isLive number = false := by
  rw [Bool.eq_false_iff] at hw ⊢
  exact fun hl => hw (h.isLive number hl)

end Within

/-! ## Ending subscriptions -/

theorem detach_of_not_isLive {w : World N A} {number : Nat} (h : w.isLive number = false) :
    w.detach number = w := by
  unfold detach
  split
  · next s hs =>
    have hs : s.active = false := by simpa [World.isLive, hs] using h
    rw [if_neg (by simp [hs])]
  · rfl

theorem isLive_detach_self (w : World N A) (number : Nat) :
    (w.detach number).isLive number = false := by
  unfold detach
  split
  · next s hs =>
    split
    · simp [World.isLive, Hub.count, update, setRouter, System.modifySubscription, hs]
    · next ha => simpa [World.isLive, hs] using ha
  · next hs => simp [World.isLive, hs]

theorem within_detach (w : World N A) (number : Nat) : Within (w.detach number) w := by
  cases h : w.isLive number with
  | false =>
    rw [detach_of_not_isLive h]
    exact .refl w
  | true =>
    refine ⟨?_, fun other ho => ?_⟩
    · unfold detach
      split
      · split
        · exact .removeEach _ _
        · exact .refl _
      · exact .refl _
    · by_cases he : number = other
      · rw [← he, h]
      · unfold detach at ho
        split at ho
        · split at ho
          · simpa [World.isLive, Hub.count, update, setRouter, System.modifySubscription,
              List.getElem?_modify, he] using ho
          · exact ho
        · exact ho

theorem within_foldl_detach (numbers : List Nat) (w : World N A) :
    Within (numbers.foldl (fun w n => w.detach n) w) w := by
  induction numbers generalizing w with
  | nil => exact .refl w
  | cons n numbers ih => exact (ih (w.detach n)).trans (within_detach w n)

theorem isLive_foldl_detach_of_mem {numbers : List Nat} {number : Nat} (h : number ∈ numbers)
    (w : World N A) : (numbers.foldl (fun w n => w.detach n) w).isLive number = false := by
  induction numbers generalizing w with
  | nil => cases h
  | cons n numbers ih =>
    rcases List.mem_cons.1 h with rfl | h
    · exact (within_foldl_detach numbers _).isLive_eq_false (isLive_detach_self w number)
    · exact ih h _

theorem foldl_detach_of_not_isLive {numbers : List Nat} {w : World N A}
    (h : ∀ n ∈ numbers, w.isLive n = false) :
    numbers.foldl (fun w n => w.detach n) w = w := by
  induction numbers with
  | nil => rfl
  | cons n numbers ih =>
    obtain ⟨hn, hrest⟩ := List.forall_mem_cons.1 h
    rw [List.foldl_cons, detach_of_not_isLive hn]
    exact ih hrest

theorem detach_store (number : Nat) (w : World N A) :
    ∃ subscriptions, (w.detach number).store = { w.store with subscriptions := subscriptions } := by
  unfold detach
  split
  · split
    · exact ⟨_, rfl⟩
    · exact ⟨_, rfl⟩
  · exact ⟨_, rfl⟩

theorem foldl_detach_store (numbers : List Nat) (w : World N A) :
    ∃ subscriptions, (numbers.foldl (fun w n => w.detach n) w).store =
      { w.store with subscriptions := subscriptions } := by
  induction numbers generalizing w with
  | nil => exact ⟨_, rfl⟩
  | cons n numbers ih =>
    obtain ⟨_, hn⟩ := w.detach_store n
    obtain ⟨subscriptions, h⟩ := ih (w.detach n)
    exact ⟨subscriptions, by rw [List.foldl_cons, h, hn]⟩

/-! ## Waking -/

theorem foldl_enqueue_await (lost : List (Creation × Nat)) (s : System N A) :
    lost.foldl (fun s p => s.enqueue (.await p.2)) s =
      { s with ready := s.ready ++ lost.map fun p => .await p.2 } := by
  induction lost generalizing s with
  | nil => simp
  | cons p lost ih =>
    rw [List.foldl_cons, ih]
    simp [System.enqueue]

/-- Clients under construction are woken by tasks, and by nothing else. -/
theorem wake_eq (w : World N A) :
    ∃ creations : List Nat,
      w.wake = w.update fun s => { s with ready := s.ready ++ creations.map .await } := by
  refine ⟨(w.store.creations.zipIdx.filter fun p =>
    !p.1.ended && p.1.answer.isNone && !w.router.isActive p.1.listener.id).map (·.2), ?_⟩
  rw [wake, update, foldl_enqueue_await, List.map_map]
  rfl

/-! ## A second removal -/

/-- No event of a client's id has a listener, and whatever the client itself had is gone. -/
structure Cleared (m : Member) (w : World N A) : Prop where
  names : ∀ k ∈ Event.Kind.ofClient,
    w.router.table.get? (Event.Key.client m.identity.clientId k).name = none
  lifecycle : ∀ handle ∈ m.lifecycle, w.router.isActive handle.id = false
  registry : ∀ n ∈ m.registry.entries, w.isLive n = false

/-- Nothing changed but what a client keeps for itself, and the work that waits: not the
counters, not the listeners of any event nor their switches, not the native layer, the journal,
the subscriptions nor any other client. -/
structure Untouched (client : Nat) (w after : World N A) : Prop where
  metrics : after.metrics = w.metrics
  table : after.router.table = w.router.table
  isActive : ∀ id, after.router.isActive id = w.router.isActive id
  clients : ∀ other, other ≠ client → after.client? other = w.client? other
  store : ∃ clients ready, after.store = { w.store with clients := clients, ready := ready }

/-- The router after a client's own listeners and all under the names of its events went. -/
def unlisten (m : Member) (r : Router Handler) : Router Handler :=
  Event.Kind.ofClient.foldl
    (fun r k => r.removeAll (Event.Key.client m.identity.clientId k).name)
    (r.removeEach m.lifecycle)

/-- A removed client without its listeners, before its subscriptions end. -/
def abandon (client : Nat) (m : Member) (w : World N A) : World N A :=
  ((w.pin client).update (·.modifyClient client fun m =>
    { m with state := m.state.remove, lifecycle := [] })).setRouter (unlisten m w.router)

theorem client?_abandon {client : Nat} {m : Member} {w : World N A}
    (hm : w.client? client = some m) :
    (w.abandon client m).client? client =
      some { m with state := m.state.remove, lifecycle := [] } := by
  rw [client?] at hm
  simp [abandon, client?, setRouter, update, pin, hm, System.modifyClient]

/-- A client that registers no subscription from then on, and lists none. -/
def shut (client : Nat) (w : World N A) : World N A :=
  w.update (·.modifyClient client fun m =>
    { m with registry := { m.registry with entries := [], closed := true } })

/-- The subscriptions of a removed client, ended after its listeners went. -/
def release (client : Nat) (m : Member) (w : World N A) : World N A :=
  m.registry.entries.foldl (fun w n => w.detach n) ((w.abandon client m).shut client)

/-- The removal of a removed client takes listeners and subscriptions, and asks nothing. -/
theorem remove_of_removed_eq (outside : Outside N A) {client : Nat} {m : Member} {w : World N A}
    (hm : w.client? client = some m) (h : m.state.removed = true) :
    ∃ tasks, outside.remove client w = (w.release client m).update fun s =>
      { s with ready := s.ready ++ tasks, pinned := s.pinned.erase client } := by
  have hclose : (w.abandon client m).closeRegistry client = w.release client m := by
    simp only [closeRegistry, client?_abandon hm]
    rfl
  obtain ⟨creations, hwake⟩ := (w.release client m).wake_eq
  refine ⟨creations.map .await, ?_⟩
  simp only [Outside.remove, hm, h, Bool.not_true, Bool.false_eq_true, if_false]
  show ((w.abandon client m).closeRegistry client).wake.unpin client = _
  rw [hclose, hwake]
  rfl

/-- Ending subscriptions reaches neither the native layer nor another client. -/
theorem release_frame (client : Nat) (m : Member) (w : World N A) :
    (w.release client m).store.native = w.store.native ∧
      (w.release client m).store.journal = w.store.journal ∧
      ∀ other, other ≠ client → (w.release client m).client? other = w.client? other := by
  obtain ⟨subscriptions, h⟩ :=
    foldl_detach_store m.registry.entries ((w.abandon client m).shut client)
  refine ⟨by rw [release, h]; rfl, by rw [release, h]; rfl, fun other ho => ?_⟩
  rw [client?, release, h]
  simp [abandon, shut, update, pin, setRouter, System.modifyClient, client?, Ne.symm ho]

/-- Whatever there was, a second removal clears it. -/
theorem cleared_release (client : Nat) (m : Member) (w : World N A) :
    Cleared m (w.release client m) := by
  have hleft : (w.release client m).router.Within (unlisten m w.router) :=
    (within_foldl_detach m.registry.entries ((w.abandon client m).shut client)).router
  constructor
  · intro k hk
    exact hleft.absent _ (Router.get?_foldl_removeAll_of_mem hk _)
  · intro handle hh
    have hin : (unlisten m w.router).Within (w.router.removeEach m.lifecycle) :=
      .foldl (fun r k => .removeAll r (Event.Key.client m.identity.clientId k).name) _ _
    apply hleft.isActive_eq_false
    exact hin.isActive_eq_false (Router.isActive_removeEach_of_mem hh)
  · intro n hn
    exact isLive_foldl_detach_of_mem hn _

/-- Where there is nothing, a second removal takes nothing. -/
theorem release_of_cleared (client : Nat) {m : Member} {w : World N A} (h : Cleared m w) :
    (w.release client m).router = w.router ∧ (w.release client m).metrics = w.metrics ∧
      ∃ clients, (w.release client m).store =
        { w.store with clients := clients, pinned := client :: w.store.pinned } := by
  have hr : unlisten m w.router = w.router := by
    rw [unlisten, Router.removeEach_of_inactive h.lifecycle,
      Router.foldl_removeAll_of_absent h.names]
  have hs : w.release client m = (w.abandon client m).shut client :=
    foldl_detach_of_not_isLive h.registry
  rw [hs]
  exact ⟨hr, rfl, _, rfl⟩

/-- A second removal never reaches the native layer and changes no other client. It leaves all
else as it was, the counters, the listeners and their switches, exactly if no event of the
client's id has a listener and whatever the client itself had is gone. -/
theorem remove_again_iff (outside : Outside N A) (client : Nat) (m : Member) (w : World N A)
    (hm : w.client? client = some m) (h : m.state.removed = true) :
    ((outside.remove client w).store.native = w.store.native ∧
      (outside.remove client w).store.journal = w.store.journal ∧
      ∀ other, other ≠ client → (outside.remove client w).client? other = w.client? other) ∧
    (Untouched client w (outside.remove client w) ↔ Cleared m w) := by
  obtain ⟨tasks, heq⟩ := remove_of_removed_eq outside hm h
  obtain ⟨hnative, hjournal, hclients⟩ := w.release_frame client m
  rw [heq]
  refine ⟨⟨hnative, hjournal, hclients⟩, ?_⟩
  constructor
  · -- What the second removal leaves is clear; if it changed nothing, so was what it found.
    intro hu
    have hcleared := w.cleared_release client m
    constructor
    · intro k hk
      rw [← hu.table]
      exact hcleared.names k hk
    · intro handle hh
      rw [← hu.isActive]
      exact hcleared.lifecycle handle hh
    · intro n hn
      obtain ⟨clients, ready, hstore⟩ := hu.store
      have hsubscriptions := congrArg System.subscriptions hstore
      rw [isLive, ← hsubscriptions]
      exact hcleared.registry n hn
  · intro hc
    obtain ⟨hrouter, hmetrics, clients, hstore⟩ := release_of_cleared client hc
    refine ⟨hmetrics, congrArg Router.table hrouter, fun id => congrArg (·.isActive id) hrouter,
      hclients, clients, w.store.ready ++ tasks, ?_⟩
    rw [update, hstore]
    simp

/-- Where no client was made since, a second removal changes nothing. -/
theorem remove_again_of_alone :
    let silent : Outside Unit Unit :=
      { layer := { answer := fun _ n => (n, {}), status := fun _ _ => .disconnected }
        tell := fun _ _ w => (w, true) }
    let start : World Unit Unit := { store := { native := (), app := () } }
    let config : Config := { clientId := "x", host := "broker.test", port := 1883 }
    let once := silent.remove 0 (start.addClient (.name "a") config).1
    (once.client? 0).map (·.state.removed) = some true ∧
      Untouched 0 once (silent.remove 0 once) := by
  intro silent start config once
  obtain ⟨m, hm⟩ : ∃ m, once.client? 0 = some m := Option.isSome_iff_exists.1 (by decide)
  have hfields : (once.client? 0).map (fun m => (m.identity.clientId, m.state.removed,
      m.lifecycle, m.registry.entries)) = some ("x", true, [], []) := by decide
  rw [hm, Option.map_some, Option.some.injEq, Prod.mk.injEq, Prod.mk.injEq, Prod.mk.injEq]
    at hfields
  obtain ⟨hid, hremoved, hlifecycle, hentries⟩ := hfields
  refine ⟨by decide, (remove_again_iff silent 0 m once hm hremoved).2.2 ⟨?_, ?_, ?_⟩⟩
  · rw [hid]
    decide
  · simp [hlifecycle]
  · simp [hentries]

/-- A client is removed, another is made under the same id, and the first is removed again: the
listeners of the second client, which nobody removed, are gone and switched off. -/
theorem remove_again_detaches_newer_client :
    let silent : Outside Unit Unit :=
      { layer := { answer := fun _ n => (n, {}), status := fun _ _ => .disconnected }
        tell := fun _ _ w => (w, true) }
    let start : World Unit Unit := { store := { native := (), app := () } }
    let config : Config := { clientId := "x", host := "broker.test", port := 1883 }
    let once := silent.remove 0 (start.addClient (.name "a") config).1
    let w := (once.addClient (.name "b") config).1
    let again := silent.remove 0 w
    (w.client? 0).map (·.state.removed) = some true ∧
      (w.client? 1).map (·.state.removed) = some false ∧
      (w.client? 1).map (·.lifecycle.map fun h => w.router.isActive h.id) = some [true, true] ∧
      (again.client? 1).map (·.lifecycle.map fun h => again.router.isActive h.id) =
        some [false, false] ∧
      w.router.count "xconnected" = 1 ∧ again.router.count "xconnected" = 0 := by
  decide

end MqttRelay.Client.World
