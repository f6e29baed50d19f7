import MqttRelay.Proofs.Router.Changes

/-!
# Where listeners stand

In a router that began without listeners a number stands under one name at most, and the name
under which a listener was added is the only one under which its number is ever found. So a
handle that is used removes and switches off nothing under any other name.

Results:
* `Regular.after`: numbers stand under one name each, whatever changes.
* `Confined.after`: where a number may be found does not grow.
* `Numbered.confined_add`: a new listener is found under its own name only.
* `Same.adds`, `Same.removeEach`, `Same.removeAll`: what stands under other names stays as it is.
* `Regular.stands_add`, `isActive_of_after`: who listens is switched on once, when it is added.
-/

namespace MqttRelay.Router

variable {H : Type} {r : Router H}

/-- A listener after a change was there before, or it is the new one. -/
theorem mem_listeners_change {c : Change H} {name : String} {l : Listener H}
    (h : l ∈ (r.change c).listeners name) :
    l ∈ r.listeners name ∨
      ∃ kind handler, c = .add name kind handler ∧ l = ⟨r.nextId, kind, handler⟩ := by
  cases c with
  | add event kind handler =>
    rw [change, listeners_add] at h
    split at h
    · next he =>
      subst he
      rcases List.mem_append.1 h with h | h
      · exact .inl h
      · exact .inr ⟨kind, handler, rfl, List.mem_singleton.1 h⟩
    · exact .inl h
  | remove handle => exact .inl (mem_of_mem_listeners_remove h)
  | removeAll event => exact .inl (mem_of_mem_listeners_removeAll h)

/-! ## One name for each number -/

/-- Every listener has a number of its own, which stands under one name only, and nothing was
switched off that was not given out. -/
structure Regular (r : Router H) : Prop extends Numbered r where
  name_eq : ∀ {a b : String} {l k : Listener H}, l ∈ r.listeners a → k ∈ r.listeners b →
    l.id = k.id → a = b
  retired_lt : ∀ id ∈ r.retired, id < r.nextId

theorem regular_empty : (empty : Router H).Regular := ⟨numbered_empty, nofun, nofun⟩

namespace Regular

theorem retired_lt_change (h : r.Regular) (c : Change H) :
    ∀ id ∈ (r.change c).retired, id < (r.change c).nextId := by
  intro id hid
  refine Nat.lt_of_lt_of_le ?_ (r.nextId_le_change c)
  cases c with
  | add => exact h.retired_lt id hid
  | remove handle =>
    rw [Router.change, remove] at hid
    split at hid
    · next ha =>
      rcases List.mem_cons.1 hid with rfl | hid
      · exact ((r.isActive_iff _).1 ha).1
      · exact h.retired_lt id hid
    · exact h.retired_lt id hid
  | removeAll event =>
    rcases List.mem_append.1 hid with hid | hid
    · obtain ⟨l, hl, rfl⟩ := List.mem_map.1 hid
      exact h.lt event l hl
    · exact h.retired_lt id hid

theorem change (h : r.Regular) (c : Change H) : (r.change c).Regular := by
  refine ⟨h.toNumbered.change c, fun {a b l k} hl hk hid => ?_, h.retired_lt_change c⟩
  rcases mem_listeners_change hl with hl | ⟨_, _, hc, rfl⟩ <;>
    rcases mem_listeners_change hk with hk | ⟨_, _, hc', rfl⟩
  · exact h.name_eq hl hk hid
  · exact absurd hid (Nat.ne_of_lt (h.lt a l hl))
  · exact absurd hid (Nat.ne_of_gt (h.lt b k hk))
  · rw [hc] at hc'
    exact (Change.add.inj hc').1

theorem after (h : r.Regular) (changes : List (Change H)) : (r.after changes).Regular := by
  induction changes generalizing r with
  | nil => exact h
  | cons c changes ih => exact ih (h.change c)

end Regular

/-! ## Where a number may be found -/

/-- A number was given out, and is found under no names but these. -/
structure Confined (r : Router H) (id : Nat) (P : String → Prop) : Prop where
  lt : id < r.nextId
  names : ∀ name, ∀ l ∈ r.listeners name, l.id = id → P name

namespace Confined

variable {id : Nat} {P Q : String → Prop}

theorem mono (h : r.Confined id P) (hPQ : ∀ name, P name → Q name) : r.Confined id Q :=
  ⟨h.lt, fun name l hl hid => hPQ name (h.names name l hl hid)⟩

theorem change (h : r.Confined id P) (c : Change H) : (r.change c).Confined id P := by
  refine ⟨Nat.lt_of_lt_of_le h.lt (r.nextId_le_change c), fun name l hl hid => ?_⟩
  rcases mem_listeners_change hl with hl | ⟨_, _, -, rfl⟩
  · exact h.names name l hl hid
  · exact absurd hid (Nat.ne_of_gt h.lt)

theorem after (h : r.Confined id P) (changes : List (Change H)) :
    (r.after changes).Confined id P := by
  induction changes generalizing r with
  | nil => exact h
  | cons c changes ih => exact ih (h.change c)

end Confined

/-- A new listener is found under its own name only. -/
theorem Numbered.confined_add (h : r.Numbered) (event : String) (kind : Option Event.Kind)
    (handler : H) : (r.add event kind handler).1.Confined r.nextId (· = event) := by
  refine ⟨Nat.lt_succ_self _, fun name l hl hid => ?_⟩
  rcases mem_listeners_change (c := .add event kind handler) hl with hl | ⟨_, _, hc, -⟩
  · exact absurd hid (Nat.ne_of_lt (h.lt name l hl))
  · exact (Change.add.inj hc).1.symm

/-! ## What other names keep -/

theorem listeners_add_of_ne {event name : String} (h : event ≠ name) (kind : Option Event.Kind)
    (handler : H) : (r.add event kind handler).1.listeners name = r.listeners name := by
  rw [listeners_add, if_neg h]

theorem isActive_add {id : Nat} (h : id < r.nextId) (event : String)
    (kind : Option Event.Kind) (handler : H) :
    (r.add event kind handler).1.isActive id = r.isActive id := by
  simp [isActive, add, h, Nat.lt_succ_of_lt h]

/-- A handle leaves the listeners that do not have its number. -/
theorem listeners_remove_of_ne {handle : Handle} {name : String}
    (h : ∀ l ∈ r.listeners name, l.id ≠ handle.id) :
    (r.remove handle).listeners name = r.listeners name := by
  rw [listeners_remove]
  split
  · exact List.filter_eq_self.2 fun l hl => by simpa using h l hl
  · rfl

/-- Handles leave a listener that has none of their numbers. -/
theorem mem_listeners_removeEach_of_ne {handles : List Handle} {name : String} {l : Listener H}
    (hl : l ∈ r.listeners name) (h : ∀ handle ∈ handles, l.id ≠ handle.id) :
    l ∈ (r.removeEach handles).listeners name := by
  induction handles generalizing r with
  | nil => exact hl
  | cons handle handles ih =>
    obtain ⟨hfirst, hrest⟩ := List.forall_mem_cons.1 h
    refine ih (r := r.remove handle) ?_ hrest
    rw [listeners_remove]
    split
    · exact List.mem_filter.2 ⟨hl, by simpa using hfirst⟩
    · exact hl

/-- Whatever is added, a listener keeps its place. -/
theorem mem_listeners_adds {changes : List (Change H)} {name : String} {l : Listener H}
    (hl : l ∈ r.listeners name)
    (hc : ∀ c ∈ changes, ∃ event kind handler, c = .add event kind handler) :
    l ∈ (r.after changes).listeners name := by
  induction changes generalizing r with
  | nil => exact hl
  | cons c changes ih =>
    obtain ⟨⟨event, kind, handler, rfl⟩, hrest⟩ := List.forall_mem_cons.1 hc
    refine ih (r := (r.add event kind handler).1) ?_ hrest
    rw [listeners_add]
    split
    · next he => exact List.mem_append_left _ (he ▸ hl)
    · exact hl

theorem isActive_remove_of_ne {handle : Handle} {id : Nat} (h : id ≠ handle.id) :
    (r.remove handle).isActive id = r.isActive id := by
  unfold remove
  split
  · simp [isActive, h]
  · rfl

theorem listeners_removeAll_of_ne {event name : String} (h : event ≠ name) :
    (r.removeAll event).listeners name = r.listeners name := by
  rw [listeners_removeAll, if_neg h]

/-- Removing the listeners of an event switches nothing off under another name. -/
theorem Regular.isActive_removeAll (h : r.Regular) {event name : String} (he : event ≠ name)
    {l : Listener H} (hl : l ∈ r.listeners name) :
    (r.removeAll event).isActive l.id = r.isActive l.id := by
  have hnot : l.id ∉ (r.listeners event).map (·.id) := fun hm => by
    obtain ⟨k, hk, hid⟩ := List.mem_map.1 hm
    exact he (h.name_eq hk hl hid)
  rw [Bool.eq_iff_iff, isActive_iff, isActive_iff, removeAll]
  simp only [List.mem_append, hnot, false_or]

/-- A new listener stands under its name and is switched on. -/
theorem Regular.stands_add (h : r.Regular) (event : String) (kind : Option Event.Kind)
    (handler : H) :
    (⟨r.nextId, kind, handler⟩ : Listener H) ∈ (r.add event kind handler).1.listeners event ∧
      (r.add event kind handler).1.isActive r.nextId = true := by
  refine ⟨?_, isActive_add_self r event kind handler h.retired_lt⟩
  rw [listeners_add, if_pos rfl]
  exact List.mem_append_right _ (List.mem_singleton_self _)

theorem isActive_adds {id : Nat} (h : id < r.nextId) {changes : List (Change H)}
    (hc : ∀ c ∈ changes, ∃ event kind handler, c = .add event kind handler) :
    (r.after changes).isActive id = r.isActive id := by
  induction changes generalizing r with
  | nil => rfl
  | cons c changes ih =>
    obtain ⟨⟨event, kind, handler, rfl⟩, hrest⟩ := List.forall_mem_cons.1 hc
    exact (ih (Nat.lt_succ_of_lt h) hrest).trans (isActive_add h event kind handler)

theorem isActive_removeEach_of_ne {handles : List Handle} {id : Nat}
    (h : ∀ handle ∈ handles, id ≠ handle.id) :
    (r.removeEach handles).isActive id = r.isActive id := by
  induction handles generalizing r with
  | nil => rfl
  | cons handle handles ih =>
    obtain ⟨hfirst, hrest⟩ := List.forall_mem_cons.1 h
    exact (ih (r := r.remove handle) hrest).trans (isActive_remove_of_ne hfirst)

/-- A listener that was added under a name stands there, switched on, whatever else is added. -/
theorem Regular.stands_among (h : r.Regular) (before : List (Change H)) (event : String)
    (kind : Option Event.Kind) (handler : H) (rest : List (Change H))
    (hrest : ∀ c ∈ rest, ∃ event kind handler, c = .add event kind handler) :
    let after := r.after (before ++ .add event kind handler :: rest)
    (⟨(r.after before).nextId, kind, handler⟩ : Listener H) ∈ after.listeners event ∧
      after.isActive (r.after before).nextId = true := by
  intro after
  have hafter : after = ((r.after before).add event kind handler).1.after rest := by
    rw [show after = _ from r.after_append before _]
    rfl
  obtain ⟨hmem, hon⟩ := (h.after before).stands_add event kind handler
  have hstill : after.isActive (r.after before).nextId = true := by
    rw [hafter, isActive_adds (Nat.lt_succ_self _) hrest, hon]
  rw [hafter] at hstill ⊢
  exact ⟨stands_of_isActive hmem hstill, hstill⟩

/-- Handles take away what they switch off, if they name where it stands. -/
theorem id_ne_of_mem_listeners_removeEach {handles : List Handle} {handle : Handle}
    (h : handle ∈ handles) (hactive : r.isActive handle.id = true)
    (hname : ∀ other ∈ handles, other.id = handle.id → other.event = handle.event) {l : Listener H}
    (hl : l ∈ (r.removeEach handles).listeners handle.event) : l.id ≠ handle.id := by
  induction handles generalizing r with
  | nil => cases h
  | cons first handles ih =>
    obtain ⟨hfirst, hrest⟩ := List.forall_mem_cons.1 hname
    by_cases hid : first.id = handle.id
    · have hl : l ∈ (r.remove first).listeners handle.event := mem_of_mem_listeners_removeEach hl
      rw [listeners_remove, if_pos ⟨hid ▸ hactive, hfirst hid⟩, hid] at hl
      simpa using (List.mem_filter.1 hl).2
    · have hmem : handle ∈ handles :=
        (List.mem_cons.1 h).resolve_left fun he => hid (congrArg Handle.id he).symm
      exact ih hmem ((isActive_remove_of_ne (Ne.symm hid)).trans hactive) hrest hl

/-- Nothing that was given out is ever switched on. -/
theorem isActive_of_after {id : Nat} (h : id < r.nextId) {changes : List (Change H)}
    (ha : (r.after changes).isActive id = true) : r.isActive id = true := by
  rw [isActive_iff] at ha ⊢
  exact ⟨h, fun hm => ha.2 (r.retired_subset_after changes hm)⟩

/-- Under names of a sort the listeners are those from before, switched on or off as they were. -/
structure Same (P : String → Prop) (r after : Router H) : Prop where
  listeners : ∀ name, P name → after.listeners name = r.listeners name
  isActive : ∀ name, P name → ∀ l ∈ r.listeners name, after.isActive l.id = r.isActive l.id

namespace Same

variable {P : String → Prop}

theorem refl (r : Router H) : Same P r r := ⟨fun _ _ => rfl, fun _ _ _ _ => rfl⟩

theorem trans {a b c : Router H} (h₁ : Same P a b) (h₂ : Same P b c) : Same P a c := by
  refine ⟨fun name hname => ?_, fun name hname l hl => ?_⟩
  · rw [h₂.listeners name hname, h₁.listeners name hname]
  · have hb : l ∈ b.listeners name := by rwa [h₁.listeners name hname]
    rw [h₂.isActive name hname l hb, h₁.isActive name hname l hl]

theorem add (h : r.Numbered) {event : String} (he : ¬ P event) (kind : Option Event.Kind)
    (handler : H) : Same P r (r.add event kind handler).1 where
  listeners name hname := listeners_add_of_ne (by rintro rfl; exact he hname) kind handler
  isActive name _ l hl := isActive_add (h.lt name l hl) event kind handler

theorem adds (h : r.Numbered) {changes : List (Change H)}
    (hc : ∀ c ∈ changes, ∃ event kind handler, c = .add event kind handler ∧ ¬ P event) :
    Same P r (r.after changes) := by
  induction changes generalizing r with
  | nil => exact refl r
  | cons c changes ih =>
    obtain ⟨⟨event, kind, handler, rfl, he⟩, hrest⟩ := List.forall_mem_cons.1 hc
    exact (add h he kind handler).trans (ih (h.change (.add event kind handler)) hrest)

theorem remove {handle : Handle}
    (h : ∀ name, P name → ∀ l ∈ r.listeners name, l.id ≠ handle.id) :
    Same P r (r.remove handle) where
  listeners name hname := listeners_remove_of_ne (h name hname)
  isActive name hname l hl := isActive_remove_of_ne (h name hname l hl)

theorem removeEach {handles : List Handle}
    (h : ∀ handle ∈ handles, ∀ name, P name → ∀ l ∈ r.listeners name, l.id ≠ handle.id) :
    Same P r (r.removeEach handles) := by
  induction handles generalizing r with
  | nil => exact refl r
  | cons handle handles ih =>
    obtain ⟨hfirst, hrest⟩ := List.forall_mem_cons.1 h
    refine (remove hfirst).trans (ih fun k hk name hname l hl => ?_)
    exact hrest k hk name hname l (mem_of_mem_listeners_remove hl)

theorem removeAll (h : r.Regular) {event : String} (he : ¬ P event) :
    Same P r (r.removeAll event) := by
  have hne {name : String} (hname : P name) : event ≠ name := by
    rintro rfl
    exact he hname
  exact ⟨fun name hname => listeners_removeAll_of_ne (hne hname),
    fun name hname l hl => h.isActive_removeAll (hne hname) hl⟩

end Same

end MqttRelay.Router
