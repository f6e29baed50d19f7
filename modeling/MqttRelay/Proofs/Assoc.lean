import Mathlib.Data.List.Nodup
import Mathlib.Data.String.Basic
import MqttRelay.Assoc

/-!
# Keys and entries of ordered associations

Results:
* `contains_insert`, `contains_erase`, `contains_modify`: which keys an operation leaves.
* `get?_map`: what a change of all values does to every key.
* `mem_insert`: an insertion brings in no entry but its own.
* `mem_of_get?`, `Ordered.get?_of_mem`: the value of a key is the entry that stands under it.
* `get?_ofList`: pairs with different keys are looked up as they stand.
* `Ordered.ext`: ordered associations are equal if every key has the same value in both.
* `Ordered.insert`, `Ordered.erase`, `Ordered.modify`, `Ordered.ofList`: every operation keeps the
  keys in ascending order.
-/

namespace MqttRelay

namespace Assoc

variable {α : Type}

theorem contains_insert (key other : String) (value : α) (m : Assoc α) :
    contains (insert key value m) other = (key == other || contains m other) := by
  unfold contains
  rw [get?_insert]
  by_cases h : key = other <;> simp [h]

theorem contains_erase (key other : String) (m : Assoc α) :
    contains (erase key m) other = (contains m other && key != other) := by
  unfold contains
  rw [get?_erase]
  by_cases h : key = other <;> simp [h]

theorem contains_modify (key other : String) (f : α → α) (m : Assoc α) :
    contains (modify key f m) other = contains m other := by
  unfold contains
  rw [get?_modify]
  by_cases h : key = other <;> simp [h]

/-- Setting a key that has a value takes no other key in. -/
theorem contains_insert_of_contains {key : String} {m : Assoc α} (h : contains m key = true)
    (other : String) (value : α) : contains (insert key value m) other = contains m other := by
  rw [contains_insert]
  by_cases ho : key = other
  · rw [← ho, h]
    simp
  · simp [ho]

/-- An insertion brings in no entry but its own. -/
theorem mem_insert {key : String} {value : α} {m : Assoc α} {p : String × α}
    (h : p ∈ insert key value m) : p = (key, value) ∨ p ∈ m := by
  induction m with
  | nil => exact Or.inl (List.mem_singleton.1 h)
  | cons f fs ih =>
    unfold insert at h
    split at h
    · exact List.mem_cons.1 h
    · split at h
      · exact (List.mem_cons.1 h).imp_right (List.mem_cons_of_mem f)
      · rcases List.mem_cons.1 h with rfl | h
        · exact Or.inr List.mem_cons_self
        · exact (ih h).imp_right (List.mem_cons_of_mem f)

theorem get?_map {β : Type} (f : α → β) (m : Assoc α) (key : String) :
    get? (m.map fun p => (p.1, f p.2)) key = (get? m key).map f := by
  induction m with
  | nil => rfl
  | cons p m ih =>
    rw [List.map_cons, get?_cons, get?_cons, ih]
    split <;> rfl

theorem contains_of_mem {m : Assoc α} {p : String × α} (h : p ∈ m) : contains m p.1 = true := by
  rw [contains, get?, Option.isSome_map, List.find?_isSome]
  exact ⟨p, h, beq_self_eq_true p.1⟩

theorem mem_of_get? {m : Assoc α} {key : String} {value : α} (h : get? m key = some value) :
    (key, value) ∈ m := by
  obtain ⟨p, hp, rfl⟩ := Option.map_eq_some_iff.1 h
  obtain rfl : p.1 = key := by simpa using List.find?_some hp
  exact List.mem_of_find?_eq_some hp

theorem erase_of_not_contains {m : Assoc α} {key : String} (h : contains m key = false) :
    erase key m = m := by
  refine List.filter_eq_self.2 fun p hp => bne_iff_ne.2 ?_
  rintro rfl
  exact absurd (contains_of_mem hp) (by simp [h])

theorem get?_eq_none_of_notMem {m : Assoc α} {key : String} (h : key ∉ m.map (·.1)) :
    get? m key = none := by
  by_contra hne
  obtain ⟨value, hv⟩ := Option.ne_none_iff_exists'.1 hne
  exact h (List.mem_map.2 ⟨_, mem_of_get? hv, rfl⟩)

theorem get?_foldl_insert {pairs : List (String × α)} (h : (pairs.map (·.1)).Nodup)
    (m : Assoc α) (key : String) :
    get? (pairs.foldl (fun m p => insert p.1 p.2 m) m) key = (get? pairs key).or (get? m key) := by
  induction pairs generalizing m with
  | nil => rfl
  | cons p pairs ih =>
    obtain ⟨hp, hpairs⟩ := List.nodup_cons.1 h
    rw [List.foldl_cons, ih hpairs, get?_insert, get?_cons]
    by_cases hkey : p.1 = key
    · rw [if_pos hkey, if_pos hkey, get?_eq_none_of_notMem (hkey ▸ hp)]
      rfl
    · rw [if_neg hkey, if_neg hkey]

/-- Pairs with different keys are looked up as they stand. -/
theorem get?_ofList {pairs : List (String × α)} (h : (pairs.map (·.1)).Nodup) (key : String) :
    get? (ofList pairs) key = get? pairs key := by
  rw [ofList, get?_foldl_insert h, get?_nil, Option.or_none]

/-! ## Order -/

/-- The keys ascend, so that none stands twice. -/
def Ordered (m : Assoc α) : Prop := m.Pairwise fun p q => p.1 < q.1

namespace Ordered

variable {m : Assoc α}

theorem insert (h : Ordered m) (key : String) (value : α) : Ordered (insert key value m) := by
  induction m with
  | nil => exact List.pairwise_singleton ..
  | cons f fs ih =>
    obtain ⟨hf, hfs⟩ := List.pairwise_cons.1 h
    unfold Assoc.insert
    split
    · next hlt =>
      refine List.pairwise_cons.2 ⟨fun p hp => ?_, h⟩
      rcases List.mem_cons.1 hp with rfl | hp
      · exact hlt
      · exact lt_trans hlt (hf p hp)
    · next hge =>
      split
      · next heq => exact List.pairwise_cons.2 ⟨fun p hp => heq ▸ hf p hp, hfs⟩
      · next hne =>
        refine List.pairwise_cons.2 ⟨fun p hp => ?_, ih hfs⟩
        rcases mem_insert hp with rfl | hp
        · exact lt_of_le_of_ne (not_lt.1 hge) (Ne.symm hne)
        · exact hf p hp

theorem erase (h : Ordered m) (key : String) : Ordered (erase key m) :=
  List.Pairwise.sublist List.filter_sublist h

theorem modify (h : Ordered m) (key : String) (f : α → α) : Ordered (modify key f m) := by
  refine List.pairwise_map.2 (h.imp fun {p q} hpq => ?_)
  split <;> split <;> exact hpq

theorem ofList (pairs : List (String × α)) : Ordered (ofList pairs) := by
  have hfold (m : Assoc α) (hm : Ordered m) :
      Ordered (pairs.foldl (fun m p => Assoc.insert p.1 p.2 m) m) := by
    induction pairs generalizing m with
    | nil => exact hm
    | cons p pairs ih => exact ih _ (hm.insert p.1 p.2)
  exact hfold [] List.Pairwise.nil

theorem nodup_keys (h : Ordered m) : (m.map (·.1)).Nodup :=
  List.pairwise_map.2 (h.imp fun hpq => ne_of_lt hpq)

theorem get?_of_mem (h : Ordered m) {p : String × α} (hp : p ∈ m) : get? m p.1 = some p.2 := by
  induction m with
  | nil => cases hp
  | cons f fs ih =>
    obtain ⟨hf, hfs⟩ := List.pairwise_cons.1 h
    rw [get?_cons]
    rcases List.mem_cons.1 hp with rfl | hp
    · exact if_pos rfl
    · rw [if_neg (ne_of_lt (hf p hp)), ih hfs hp]

/-- Ordered associations are equal if every key has the same value in both. -/
theorem ext {n : Assoc α} (hm : Ordered m) (hn : Ordered n)
    (h : ∀ key, get? m key = get? n key) : m = n := by
  have hmem (p : String × α) : p ∈ m ↔ p ∈ n :=
    ⟨fun hp => mem_of_get? ((h p.1).symm.trans (hm.get?_of_mem hp)),
      fun hp => mem_of_get? ((h p.1).trans (hn.get?_of_mem hp))⟩
  have hperm : m.Perm n :=
    (List.perm_ext_iff_of_nodup (List.Nodup.of_map _ hm.nodup_keys)
      (List.Nodup.of_map _ hn.nodup_keys)).2 hmem
  exact hperm.eq_of_pairwise (fun p q _ _ hpq hqp => absurd (lt_trans hpq hqp) (lt_irrefl _)) hm hn

end Ordered

end Assoc

end MqttRelay
