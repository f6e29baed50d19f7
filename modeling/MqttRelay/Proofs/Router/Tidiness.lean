import Mathlib.Data.List.Nodup
import Mathlib.Data.Set.Card
import MqttRelay.Proofs.Assoc
import MqttRelay.Proofs.Router.Listening

/-!
# A tidy table

A name stands in the table of a router as long as it has a listener. It comes with its first
listener and goes with its last one, whichever way that one goes, and its listeners stand in the
order in which their numbers were given out.

Results:
* `table_change`: a change sets a name to some listeners, takes one away or leaves the table.
* `Tidy.after`: the table stays tidy, whatever changes.
* `Tidy.eventCount_eq`: the names in the table are those that have a listener.
* `Tidy.nodup_ids`: no number stands twice in the whole table.
* `Tidy.table_removeEach_added`: what is added and taken away again leaves the table as it was.
* `Live.add`, `Live.remove`, `Live.removeAll`: who stands in the table is switched on, if handles
  are used for the names that they were given out for.
-/

namespace MqttRelay.Router

variable {H : Type} {r : Router H}

/-- A table without empty lists, in which every list and all its numbers ascend. -/
structure Tidy (r : Router H) : Prop extends Regular r where
  ordered : r.table.Ordered
  ne_nil : ∀ p ∈ r.table, p.2 ≠ []
  ascending : ∀ event, (r.listeners event).Pairwise fun l k => l.id < k.id

theorem tidy_empty : (empty : Router H).Tidy :=
  ⟨regular_empty, List.Pairwise.nil, nofun, fun _ => List.Pairwise.nil⟩

/-! ## One change -/

theorem table_change (r : Router H) (c : Change H) :
    (r.change c).table = r.table ∨ (∃ event, (r.change c).table = r.table.erase event) ∨
      ∃ event ls, ls ≠ [] ∧ (r.change c).table = r.table.insert event ls := by
  cases c with
  | add event kind handler =>
    exact .inr (.inr ⟨event, r.listeners event ++ [⟨r.nextId, kind, handler⟩], by simp, rfl⟩)
  | remove handle =>
    rw [change, remove]
    split
    · dsimp only
      split
      · exact .inr (.inl ⟨handle.event, rfl⟩)
      · next hleft =>
        rw [List.isEmpty_iff] at hleft
        exact .inr (.inr ⟨handle.event, _, hleft, rfl⟩)
    · exact .inl rfl
  | removeAll event => exact .inr (.inl ⟨event, rfl⟩)

namespace Tidy

theorem ascending_change (h : r.Tidy) (c : Change H) (event : String) :
    ((r.change c).listeners event).Pairwise fun l k => l.id < k.id := by
  cases c with
  | add other kind handler =>
    rw [Router.change, listeners_add]
    split
    · refine List.pairwise_append.2 ⟨h.ascending other, List.pairwise_singleton .., ?_⟩
      intro l hl k hk
      rw [List.mem_singleton.1 hk]
      exact h.lt other l hl
    · exact h.ascending event
  | remove handle =>
    rw [Router.change, listeners_remove]
    split
    · exact (h.ascending event).sublist List.filter_sublist
    · exact h.ascending event
  | removeAll other =>
    rw [Router.change, listeners_removeAll]
    split
    · exact List.Pairwise.nil
    · exact h.ascending event

theorem change (h : r.Tidy) (c : Change H) : (r.change c).Tidy := by
  refine ⟨h.toRegular.change c, ?_, ?_, h.ascending_change c⟩
  · rcases table_change r c with ht | ⟨event, ht⟩ | ⟨event, ls, -, ht⟩ <;> rw [ht]
    · exact h.ordered
    · exact h.ordered.erase event
    · exact h.ordered.insert event ls
  · intro p hp
    rcases table_change r c with ht | ⟨event, ht⟩ | ⟨event, ls, hls, ht⟩ <;> rw [ht] at hp
    · exact h.ne_nil p hp
    · exact h.ne_nil p (List.mem_of_mem_filter hp)
    · rcases Assoc.mem_insert hp with rfl | hp
      · exact hls
      · exact h.ne_nil p hp

theorem after (h : r.Tidy) (changes : List (Change H)) : (r.after changes).Tidy := by
  induction changes generalizing r with
  | nil => exact h
  | cons c changes ih => exact ih (h.change c)

/-! ## What a tidy table holds -/

/-- What stands in the table under a name are its listeners. -/
theorem listeners_of_mem (h : r.Tidy) {p : String × List (Listener H)} (hp : p ∈ r.table) :
    r.listeners p.1 = p.2 := by
  rw [listeners, h.ordered.get?_of_mem hp]
  rfl

theorem count_pos_iff (h : r.Tidy) (event : String) :
    0 < r.count event ↔ event ∈ r.table.map (·.1) := by
  rw [count, List.length_pos_iff_exists_mem, List.mem_map]
  constructor
  · rintro ⟨l, hl⟩
    obtain ⟨ls, hls, -⟩ := mem_table_of_mem_listeners hl
    exact ⟨_, hls, rfl⟩
  · rintro ⟨p, hp, rfl⟩
    rw [h.listeners_of_mem hp]
    exact List.exists_mem_of_ne_nil _ (h.ne_nil p hp)

/-- The names in the table are those that have a listener. -/
theorem eventCount_eq (h : r.Tidy) : r.eventCount = {event | 0 < r.count event}.ncard := by
  have hnames : {event | 0 < r.count event} = ↑(r.table.map (·.1)).toFinset := by
    ext event
    rw [Set.mem_ofPred_eq, h.count_pos_iff, List.coe_toFinset, Set.mem_ofPred_eq]
  rw [hnames, Set.ncard_coe_finset, List.toFinset_card_of_nodup h.ordered.nodup_keys,
    List.length_map, eventCount]

/-- No number stands twice in the whole table. -/
theorem nodup_ids (h : r.Tidy) : ((r.table.flatMap (·.2)).map (·.id)).Nodup := by
  rw [List.map_flatMap, List.nodup_flatMap]
  refine ⟨fun p hp => ?_, h.ordered.imp_of_mem fun {p q} hp hq hlt => ?_⟩
  · rw [← h.listeners_of_mem hp]
    exact h.nodup p.1
  · intro id hidp hidq
    obtain ⟨l, hl, rfl⟩ := List.mem_map.1 hidp
    obtain ⟨k, hk, hid⟩ := List.mem_map.1 hidq
    rw [← h.listeners_of_mem hp] at hl
    rw [← h.listeners_of_mem hq] at hk
    exact ne_of_lt hlt (h.name_eq hl hk hid.symm)

theorem lt_nextId (h : r.Tidy) {l : Listener H} (hl : l ∈ r.table.flatMap (·.2)) :
    l.id < r.nextId := by
  obtain ⟨p, hp, hl⟩ := List.mem_flatMap.1 hl
  rw [← h.listeners_of_mem hp] at hl
  exact h.lt p.1 l hl

/-- The value of a name are its listeners, if it has any. -/
theorem get?_table (h : r.Tidy) (event : String) :
    r.table.get? event = if r.listeners event = [] then none else some (r.listeners event) := by
  unfold listeners
  cases hg : r.table.get? event with
  | none => rfl
  | some ls => exact (if_neg (h.ne_nil _ (Assoc.mem_of_get? hg))).symm

/-- Tidy tables are equal if the same listeners stand under every name. -/
theorem table_eq {after : Router H} (h : r.Tidy) (ha : after.Tidy)
    (hmem : ∀ event l, l ∈ after.listeners event ↔ l ∈ r.listeners event) :
    after.table = r.table := by
  refine ha.ordered.ext h.ordered fun event => ?_
  have hnodup {q : Router H} (hq : q.Tidy) : (q.listeners event).Nodup :=
    (hq.ascending event).imp fun {l k} (hlt : l.id < k.id) (he : l = k) =>
      absurd (congrArg Listener.id he) (Nat.ne_of_lt hlt)
  have hperm : (after.listeners event).Perm (r.listeners event) :=
    (List.perm_ext_iff_of_nodup (hnodup ha) (hnodup h)).2 (hmem event)
  have hlisteners : after.listeners event = r.listeners event :=
    hperm.eq_of_pairwise (fun _ _ _ _ hlt hgt => absurd hgt (Nat.lt_asymm hlt))
      (ha.ascending event) (h.ascending event)
  rw [ha.get?_table, h.get?_table, hlisteners]

/-- Listeners that are added and taken away again by their handles leave the table as it was. -/
theorem table_removeEach_added (h : r.Tidy) {changes : List (Change H)} {handles : List Handle}
    (hadds : ∀ c ∈ changes, ∃ event kind handler, c = .add event kind handler)
    (hnew : ∀ event, ∀ l ∈ (r.after changes).listeners event,
      l ∈ r.listeners event ∨ ⟨l.id, event⟩ ∈ handles)
    (hissued : ∀ handle ∈ handles, r.nextId ≤ handle.id)
    (hactive : ∀ handle ∈ handles, (r.after changes).isActive handle.id = true)
    (hname : ∀ a ∈ handles, ∀ b ∈ handles, a.id = b.id → a.event = b.event) :
    ((r.after changes).removeEach handles).table = r.table := by
  have ha : ((r.after changes).removeEach handles).Tidy := by
    rw [removeEach_eq_after]
    exact (h.after changes).after _
  refine h.table_eq ha fun event l => ⟨fun hl => ?_, fun hl => ?_⟩
  · refine (hnew event l (mem_of_mem_listeners_removeEach hl)).resolve_right fun hhandle => ?_
    exact id_ne_of_mem_listeners_removeEach hhandle (hactive _ hhandle)
      (fun other ho hid => hname other ho _ hhandle hid) hl rfl
  · have hne : ∀ handle ∈ handles, l.id ≠ handle.id := fun handle hh =>
      Nat.ne_of_lt (Nat.lt_of_lt_of_le (h.lt event l hl) (hissued handle hh))
    exact mem_listeners_removeEach_of_ne (mem_listeners_adds hl hadds) hne

end Tidy

/-! ## Switches -/

/-- Whoever stands in the table is switched on. -/
def Live (r : Router H) : Prop := ∀ event, ∀ l ∈ r.listeners event, r.isActive l.id = true

namespace Live

theorem listening_eq (h : r.Live) (event : String) : r.listening event = r.listeners event :=
  List.filter_eq_self.2 (h event)

theorem add (h : r.Live) (hr : r.Regular) (event : String) (kind : Option Event.Kind)
    (handler : H) : (r.add event kind handler).1.Live := by
  intro name l hl
  rcases mem_listeners_change (c := .add event kind handler) hl with hl | ⟨_, _, -, rfl⟩
  · rw [isActive_add (hr.lt name l hl)]
    exact h name l hl
  · exact (hr.stands_add event kind handler).2

/-- A handle takes its listener away as it switches it off, if its number stands nowhere else. -/
theorem remove (h : r.Live) {handle : Handle}
    (hname : ∀ name, ∀ k ∈ r.listeners name, k.id = handle.id → name = handle.event) :
    (r.remove handle).Live := by
  intro name l hl
  have hold := mem_of_mem_listeners_remove hl
  by_cases hid : l.id = handle.id
  · -- It would have been taken away.
    have hactive : r.isActive handle.id = true := hid ▸ h name l hold
    rw [listeners_remove, if_pos ⟨hactive, (hname name l hold hid).symm⟩] at hl
    exact absurd hid (by simpa using (List.mem_filter.1 hl).2)
  · rw [isActive_remove_of_ne hid]
    exact h name l hold

theorem removeAll (h : r.Live) (hr : r.Regular) (event : String) : (r.removeAll event).Live := by
  intro name l hl
  rw [listeners_removeAll] at hl
  split at hl
  · cases hl
  · next he =>
    rw [hr.isActive_removeAll he hl]
    exact h name l hl

end Live

end MqttRelay.Router
