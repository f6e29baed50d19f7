import MqttRelay.Proofs.Router.Listeners

/-!
# Routers over time

A router changes by listeners that are added and removed. However many of these changes there
are, a number is given out once, a listener keeps its place until it is removed, and one that
was switched off is never switched on again.

Results:
* `Router.numbered_after`: in a router that began without listeners every listener has a number
  of its own, below those that are still to be given out.
* `Router.stands_or_retired`: a listener stands where it stood, or it was switched off.
* `Router.retired_subset_after`: what was switched off stays so.
-/

namespace MqttRelay.Router

variable {H : Type}

/-- What happens to a router. -/
inductive Change (H : Type) where
  | add (event : String) (kind : Option Event.Kind) (handler : H)
  | remove (handle : Handle)
  | removeAll (event : String)
  deriving Inhabited

/-- The router after a change. -/
def change (r : Router H) : Change H → Router H
  | .add event kind handler => (r.add event kind handler).1
  | .remove handle => r.remove handle
  | .removeAll event => r.removeAll event

/-- The router after a list of changes. -/
def after (r : Router H) (changes : List (Change H)) : Router H := changes.foldl change r

@[simp] theorem after_nil (r : Router H) : r.after [] = r := rfl

theorem after_append (r : Router H) (cs ds : List (Change H)) :
    r.after (cs ++ ds) = (r.after cs).after ds := List.foldl_append

theorem removeEach_eq_after (r : Router H) (handles : List Handle) :
    r.removeEach handles = r.after (handles.map .remove) := by
  rw [removeEach, after, List.foldl_map]
  rfl

theorem foldl_removeAll_eq_after {α : Type} (event : α → String) (ks : List α) (r : Router H) :
    ks.foldl (fun r k => r.removeAll (event k)) r =
      r.after (ks.map fun k => .removeAll (event k)) := by
  rw [after, List.foldl_map]
  rfl

/-! ## What one change leaves -/

theorem listeners_remove (r : Router H) (handle : Handle) (event : String) :
    (r.remove handle).listeners event =
      if r.isActive handle.id = true ∧ handle.event = event then
        (r.listeners event).filter fun l => l.id != handle.id
      else r.listeners event := by
  unfold remove
  by_cases ha : r.isActive handle.id = true
  · rw [if_pos ha]
    by_cases he : handle.event = event
    · subst he
      rw [if_pos ⟨ha, rfl⟩]
      dsimp only
      split
      · next hleft =>
        rw [List.isEmpty_iff] at hleft
        rw [listeners, Assoc.get?_erase, if_pos rfl, hleft]
        rfl
      · rw [listeners, Assoc.get?_insert, if_pos rfl]
        rfl
    · rw [if_neg (fun h => he h.2)]
      dsimp only [listeners]
      split
      · rw [Assoc.get?_erase, if_neg he]
      · rw [Assoc.get?_insert, if_neg he]
  · rw [if_neg ha, if_neg (fun h => ha h.1)]

theorem isActive_of_retired {r : Router H} {id : Nat} (h : id ∈ r.retired) :
    r.isActive id = false := by
  rw [Bool.eq_false_iff, ne_eq, isActive_iff]
  exact fun ha => ha.2 h

theorem retired_remove_subset (r : Router H) (handle : Handle) :
    r.retired ⊆ (r.remove handle).retired := by
  unfold remove
  split
  · exact List.subset_cons_self _ _
  · exact List.Subset.refl _

/-- A number that was given out is switched off once its handle was used. -/
theorem retired_remove_self {r : Router H} {handle : Handle} (h : handle.id < r.nextId) :
    handle.id ∈ (r.remove handle).retired := by
  unfold remove
  split
  · exact List.mem_cons_self
  · next ha => exact Decidable.byContradiction fun hn => ha ((r.isActive_iff _).2 ⟨h, hn⟩)

@[simp] theorem nextId_remove (r : Router H) (handle : Handle) :
    (r.remove handle).nextId = r.nextId := by
  unfold remove
  split <;> rfl

theorem nextId_le_change (r : Router H) (c : Change H) : r.nextId ≤ (r.change c).nextId := by
  cases c with
  | add event kind handler => exact Nat.le_succ _
  | remove handle => exact Nat.le_of_eq (r.nextId_remove handle).symm
  | removeAll event => exact Nat.le_refl _

theorem retired_subset_change (r : Router H) (c : Change H) :
    r.retired ⊆ (r.change c).retired := by
  cases c with
  | add event kind handler => exact List.Subset.refl _
  | remove handle => exact r.retired_remove_subset handle
  | removeAll event => exact List.subset_append_right _ _

/-- A listener stands where it stood before a change, or it was switched off. -/
theorem stands_or_retired_change {r : Router H} {event : String} {l : Listener H}
    (h : l ∈ r.listeners event) (c : Change H) :
    l ∈ (r.change c).listeners event ∨ l.id ∈ (r.change c).retired := by
  cases c with
  | add other kind handler =>
    left
    rw [change, listeners_add]
    split
    · next he =>
      subst he
      exact List.mem_append_left _ h
    · exact h
  | remove handle =>
    rw [change, listeners_remove]
    split
    · next hc =>
      by_cases hid : l.id = handle.id
      · right
        rw [hid]
        exact retired_remove_self ((r.isActive_iff handle.id).1 hc.1).1
      · left
        exact List.mem_filter.2 ⟨h, by simpa using hid⟩
    · exact .inl h
  | removeAll other =>
    rw [change, listeners_removeAll]
    split
    · next he =>
      subst he
      exact .inr (List.mem_append_left _ (List.mem_map_of_mem h))
    · exact .inl h

/-! ## Numbers -/

/-- Every listener has a number of its own, below those that are still to be given out. -/
structure Numbered (r : Router H) : Prop where
  lt : ∀ event, ∀ l ∈ r.listeners event, l.id < r.nextId
  nodup : ∀ event, ((r.listeners event).map (·.id)).Nodup

theorem numbered_empty : (empty : Router H).Numbered := ⟨nofun, fun _ => List.nodup_nil⟩

theorem Numbered.change {r : Router H} (h : r.Numbered) (c : Change H) :
    (r.change c).Numbered := by
  cases c with
  | add event kind handler =>
    refine ⟨fun other l hl => ?_, fun other => ?_⟩
    · rw [Router.change, listeners_add] at hl
      split at hl
      · rcases List.mem_append.1 hl with hl | hl
        · exact Nat.lt_succ_of_lt (h.lt event l hl)
        · rw [List.mem_singleton.1 hl]
          exact Nat.lt_succ_self _
      · exact Nat.lt_succ_of_lt (h.lt other l hl)
    · rw [Router.change, listeners_add]
      split
      · rw [List.map_append, List.nodup_append]
        refine ⟨h.nodup event, by simp, fun a ha b hb hab => ?_⟩
        obtain ⟨l, hl, rfl⟩ := List.mem_map.1 ha
        have hlt := h.lt event l hl
        rw [hab, List.mem_singleton.1 hb] at hlt
        exact Nat.lt_irrefl _ hlt
      · exact h.nodup other
  | remove handle =>
    refine ⟨fun other l hl => ?_, fun other => ?_⟩
    · rw [Router.change, nextId_remove]
      exact h.lt other l (mem_of_mem_listeners_remove hl)
    · rw [Router.change, listeners_remove]
      split
      · exact (h.nodup other).sublist (List.filter_sublist.map _)
      · exact h.nodup other
  | removeAll event =>
    refine ⟨fun other l hl => h.lt other l (mem_of_mem_listeners_removeAll hl), fun other => ?_⟩
    rw [Router.change, listeners_removeAll]
    split
    · exact List.nodup_nil
    · exact h.nodup other

/-! ## What any changes leave -/

theorem nextId_le_after (r : Router H) (changes : List (Change H)) :
    r.nextId ≤ (r.after changes).nextId := by
  induction changes generalizing r with
  | nil => exact Nat.le_refl _
  | cons c changes ih => exact Nat.le_trans (r.nextId_le_change c) (ih (r.change c))

/-- What was switched off stays so. -/
theorem retired_subset_after (r : Router H) (changes : List (Change H)) :
    r.retired ⊆ (r.after changes).retired := by
  induction changes generalizing r with
  | nil => exact List.Subset.refl _
  | cons c changes ih => exact List.Subset.trans (r.retired_subset_change c) (ih (r.change c))

/-- A listener stands where it stood, or it was switched off. -/
theorem stands_or_retired {r : Router H} {event : String} {l : Listener H}
    (h : l ∈ r.listeners event) (changes : List (Change H)) :
    l ∈ (r.after changes).listeners event ∨ l.id ∈ (r.after changes).retired := by
  induction changes generalizing r with
  | nil => exact .inl h
  | cons c changes ih =>
    rcases stands_or_retired_change h c with hl | hl
    · exact ih hl
    · exact .inr ((r.change c).retired_subset_after changes hl)

theorem stands_of_isActive {r : Router H} {event : String} {l : Listener H}
    (h : l ∈ r.listeners event) {changes : List (Change H)}
    (hon : (r.after changes).isActive l.id = true) : l ∈ (r.after changes).listeners event := by
  refine (stands_or_retired h changes).resolve_right fun hoff => ?_
  rw [isActive_of_retired hoff] at hon
  cases hon

theorem Numbered.after {r : Router H} (h : r.Numbered) (changes : List (Change H)) :
    (r.after changes).Numbered := by
  induction changes generalizing r with
  | nil => exact h
  | cons c changes ih => exact ih (h.change c)

/-- In a router that began without listeners every listener has a number of its own. -/
theorem numbered_after (changes : List (Change H)) : (empty.after changes : Router H).Numbered :=
  numbered_empty.after changes

/-- What was given out is switched off once its handle was used, among others. -/
theorem retired_removeEach_of_mem {r : Router H} {handles : List Handle} {handle : Handle}
    (h : handle ∈ handles) (hlt : handle.id < r.nextId) :
    handle.id ∈ (r.removeEach handles).retired := by
  have hinactive := isActive_removeEach_of_mem (r := r) h
  have hle : r.nextId ≤ (r.removeEach handles).nextId := by
    rw [removeEach_eq_after]
    exact r.nextId_le_after _
  apply Decidable.byContradiction
  intro hn
  rw [Bool.eq_false_iff] at hinactive
  exact hinactive ((isActive_iff _ _).2 ⟨Nat.lt_of_lt_of_le hlt hle, hn⟩)

end MqttRelay.Router
