import MqttRelay.Router

/-!
# Listeners that come and go

What adding and removing listeners leaves of the listeners of every event, and of the switches
of all of them. A removal never brings anything back.

Results:
* `Router.listeners_add`, `Router.listeners_foldl_removeAll`: the listeners of every event after
  a listener was added, and after those of some events were removed.
* `Router.Within.foldl`: what any number of removals leaves was there before.
-/

namespace MqttRelay

/-- Taking a key away that is not there changes nothing. -/
theorem Assoc.erase_of_get?_eq_none {α : Type} {key : String} {m : Assoc α}
    (h : m.get? key = none) : m.erase key = m := by
  simp only [Assoc.get?, Option.map_eq_none_iff, List.find?_eq_none] at h
  rw [Assoc.erase, List.filter_eq_self]
  intro p hp
  simpa using h p hp

namespace Router

variable {H : Type}

/-! ## Listeners of a name -/

theorem listeners_add (r : Router H) (event other : String) (kind : Option Event.Kind)
    (handler : H) :
    (r.add event kind handler).1.listeners other =
      if event = other then r.listeners event ++ [⟨r.nextId, kind, handler⟩]
      else r.listeners other := by
  simp only [add, listeners, Assoc.get?_insert]
  split <;> rfl

theorem listeners_removeAll (r : Router H) (event other : String) :
    (r.removeAll event).listeners other = if event = other then [] else r.listeners other := by
  simp only [removeAll, listeners, Assoc.get?_erase]
  split <;> rfl

/-- Removing the listeners of some events leaves those of all others. -/
theorem listeners_foldl_removeAll {α : Type} (event : α → String) (ks : List α) (r : Router H)
    (other : String) :
    (ks.foldl (fun r k => r.removeAll (event k)) r).listeners other =
      if ∃ k ∈ ks, event k = other then [] else r.listeners other := by
  induction ks generalizing r with
  | nil => simp
  | cons k ks ih =>
    rw [List.foldl_cons, ih, listeners_removeAll]
    by_cases hk : event k = other <;> by_cases hks : ∃ k ∈ ks, event k = other <;>
      simp [hk, hks]

/-- The listeners of an event stand in the table under its name. -/
theorem mem_table_of_mem_listeners {r : Router H} {event : String} {l : Listener H}
    (h : l ∈ r.listeners event) : ∃ ls, (event, ls) ∈ r.table ∧ l ∈ ls := by
  unfold listeners at h
  cases hg : r.table.get? event with
  | none => simp [hg] at h
  | some ls =>
    obtain ⟨p, hp, rfl⟩ := Option.map_eq_some_iff.1 hg
    have hname : p.1 = event := by simpa using List.find?_some hp
    refine ⟨p.2, hname ▸ List.mem_of_find?_eq_some hp, ?_⟩
    simpa [hg] using h

/-- A listener of an event was there before or is the new one. -/
theorem mem_listeners_addKey {r : Router H} {key : Event.Key} {handler : H} {event : String}
    {l : Listener H} (h : l ∈ (r.addKey key handler).1.listeners event) :
    l ∈ r.listeners event ∨ l.handler = handler := by
  rw [addKey, listeners_add] at h
  split at h
  · next he =>
    subst he
    rcases List.mem_append.1 h with h | h
    · exact .inl h
    · rw [List.mem_singleton.1 h]
      exact .inr rfl
  · exact .inl h

theorem mem_of_mem_listeners_removeAll {r : Router H} {event other : String} {l : Listener H}
    (h : l ∈ (r.removeAll event).listeners other) : l ∈ r.listeners other := by
  rw [listeners_removeAll] at h
  split at h
  · cases h
  · exact h

theorem mem_of_mem_listeners_remove {r : Router H} {handle : Handle} {event : String}
    {l : Listener H} (h : l ∈ (r.remove handle).listeners event) : l ∈ r.listeners event := by
  unfold remove at h
  split at h
  · have hleft : l ∈ if handle.event = event then
        (r.listeners handle.event).filter fun l => l.id != handle.id else r.listeners event := by
      dsimp only [listeners] at h ⊢
      split at h
      · next hempty =>
        rw [Assoc.get?_erase] at h
        split at h <;> simp_all
      · rw [Assoc.get?_insert] at h
        split at h <;> simp_all
    split at hleft
    · next he =>
      subst he
      exact (List.mem_filter.1 hleft).1
    · exact hleft
  · exact h

theorem mem_of_mem_listeners_removeEach {handles : List Handle} {r : Router H} {event : String}
    {l : Listener H} (h : l ∈ (r.removeEach handles).listeners event) : l ∈ r.listeners event := by
  induction handles generalizing r with
  | nil => exact h
  | cons handle handles ih => exact mem_of_mem_listeners_remove (ih h)

theorem mem_of_mem_listeners_foldl_removeAll {α : Type} {event : α → String} {ks : List α}
    {r : Router H} {other : String} {l : Listener H}
    (h : l ∈ (ks.foldl (fun r k => r.removeAll (event k)) r).listeners other) :
    l ∈ r.listeners other := by
  rw [listeners_foldl_removeAll] at h
  split at h
  · cases h
  · exact h

/-! ## Removals -/

/-- What is left of a router: no listener is switched on that was off, and no event has
listeners that had none. -/
structure Within (left r : Router H) : Prop where
  isActive : ∀ id, left.isActive id = true → r.isActive id = true
  absent : ∀ event, r.table.get? event = none → left.table.get? event = none

namespace Within

theorem refl (r : Router H) : Within r r := ⟨fun _ h => h, fun _ h => h⟩

theorem trans {r₁ r₂ r₃ : Router H} (h₁ : Within r₁ r₂) (h₂ : Within r₂ r₃) : Within r₁ r₃ :=
  ⟨fun id h => h₂.isActive id (h₁.isActive id h), fun e h => h₁.absent e (h₂.absent e h)⟩

/-- A listener that is switched off stays so. -/
theorem isActive_eq_false {left r : Router H} (h : Within left r) {id : Nat}
    (hr : r.isActive id = false) : left.isActive id = false := by
  rw [Bool.eq_false_iff] at hr ⊢
  exact fun hl => hr (h.isActive id hl)

/-- What any number of removals leaves was there before. -/
theorem foldl {α : Type} {f : Router H → α → Router H} (hf : ∀ r a, Within (f r a) r)
    (as : List α) (r : Router H) : Within (as.foldl f r) r := by
  induction as generalizing r with
  | nil => exact refl r
  | cons a as ih => exact (ih (f r a)).trans (hf r a)

theorem remove (r : Router H) (handle : Handle) : Within (r.remove handle) r := by
  refine ⟨fun id h => isActive_of_isActive_remove r handle id h, fun event h => ?_⟩
  unfold Router.remove
  split
  · dsimp only
    split
    · rw [Assoc.get?_erase]
      split
      · rfl
      · exact h
    · next hleft =>
      -- Listeners are left under the name of the handle, so it is another name.
      rw [Assoc.get?_insert]
      split
      · next he =>
        subst he
        simp [listeners, h] at hleft
      · exact h
  · exact h

theorem removeEach (r : Router H) (handles : List Handle) : Within (r.removeEach handles) r :=
  foldl remove handles r

theorem removeAll (r : Router H) (event : String) : Within (r.removeAll event) r := by
  refine ⟨fun id h => isActive_of_isActive_removeAll r event id h, fun other h => ?_⟩
  rw [Router.removeAll, Assoc.get?_erase]
  split
  · rfl
  · exact h

end Within

/-- Listeners whose handles were used are switched off. -/
theorem isActive_removeEach_of_mem {r : Router H} {handles : List Handle} {handle : Handle}
    (h : handle ∈ handles) : (r.removeEach handles).isActive handle.id = false := by
  induction handles generalizing r with
  | nil => cases h
  | cons first handles ih =>
    rcases List.mem_cons.1 h with rfl | h
    · exact (Within.removeEach _ handles).isActive_eq_false (not_isActive_remove r handle)
    · exact ih h

/-- Handles that were used are of no more use. -/
theorem removeEach_of_inactive {r : Router H} {handles : List Handle}
    (h : ∀ handle ∈ handles, r.isActive handle.id = false) : r.removeEach handles = r := by
  induction handles with
  | nil => rfl
  | cons first handles ih =>
    obtain ⟨hfirst, hrest⟩ := List.forall_mem_cons.1 h
    rw [removeEach, List.foldl_cons, remove, if_neg (by simp [hfirst])]
    exact ih hrest

theorem removeAll_of_absent {r : Router H} {event : String} (h : r.table.get? event = none) :
    r.removeAll event = r := by
  simp only [removeAll, listeners, h, Assoc.erase_of_get?_eq_none h]
  rfl

/-- Events whose listeners were removed have none. -/
theorem get?_foldl_removeAll_of_mem {α : Type} {event : α → String} {ks : List α} {k : α}
    (h : k ∈ ks) (r : Router H) :
    (ks.foldl (fun r k => r.removeAll (event k)) r).table.get? (event k) = none := by
  induction ks generalizing r with
  | nil => cases h
  | cons first ks ih =>
    rcases List.mem_cons.1 h with rfl | h
    · refine (Within.foldl (fun r k => Within.removeAll r (event k)) ks _).absent _ ?_
      show (r.table.erase (event k)).get? (event k) = none
      rw [Assoc.get?_erase, if_pos rfl]
    · exact ih h _

theorem foldl_removeAll_of_absent {α : Type} {event : α → String} {ks : List α} {r : Router H}
    (h : ∀ k ∈ ks, r.table.get? (event k) = none) :
    ks.foldl (fun r k => r.removeAll (event k)) r = r := by
  induction ks with
  | nil => rfl
  | cons first ks ih =>
    obtain ⟨hfirst, hrest⟩ := List.forall_mem_cons.1 h
    rw [List.foldl_cons, removeAll_of_absent hfirst]
    exact ih hrest

end Router

end MqttRelay
