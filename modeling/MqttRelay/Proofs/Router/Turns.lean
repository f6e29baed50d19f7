import MqttRelay.Router.Dispatch

/-!
# The turns of a dispatch

A dispatch gives each of its listeners at most one turn, and what a listener finds at its turn
is what those before it left. What every call leaves alone is as it was at every later turn.

Results:
* `Hub.dispatch_calls_eq_turns`: the listeners called are those that have a turn, each once.
* `Hub.turns_append`: the turns of the later listeners are those of a dispatch from where the
  earlier ones left the hub.
* `Hub.dispatch_rel`, `Hub.turn_rel`: a relation that every call keeps to holds from the
  beginning of a dispatch to its end, and to each of its turns.
-/

namespace MqttRelay.Hub

variable {S H : Type}

/-- The listeners that have a turn in a dispatch, each with the hub that it finds. -/
def turns (act : Act S H) (payload : Event.Payload) :
    List (Listener H) → Hub S H → List (Listener H × Hub S H)
  | [], _ => []
  | l :: ls, h =>
    if h.router.isActive l.id then (l, h) :: turns act payload ls (call act l payload h).1
    else turns act payload ls h

variable {act : Act S H} {payload : Event.Payload} {l : Listener H}

theorem turns_cons_of_active {h : Hub S H} (ha : h.router.isActive l.id = true)
    (ls : List (Listener H)) :
    turns act payload (l :: ls) h =
      (l, h) :: turns act payload ls (call act l payload h).1 := by
  rw [turns, if_pos ha]

/-- Listeners that are switched off have no turn, and nothing comes of them. -/
theorem dispatch_of_inactive {ls : List (Listener H)} {h : Hub S H}
    (hoff : ∀ l ∈ ls, h.router.isActive l.id = false) :
    turns act payload ls h = [] ∧ dispatch act payload ls h = (h, []) := by
  induction ls with
  | nil => exact ⟨rfl, rfl⟩
  | cons l ls ih =>
    obtain ⟨hfirst, hrest⟩ := List.forall_mem_cons.1 hoff
    rw [turns, dispatch, if_neg (by simp [hfirst]), if_neg (by simp [hfirst])]
    exact ih hrest

/-- Every listener that is switched on at its turn is called, once, and no other is. -/
theorem dispatch_calls_eq_turns (act : Act S H) (payload : Event.Payload)
    (ls : List (Listener H)) (h : Hub S H) :
    (dispatch act payload ls h).2.map (·.listener) = (turns act payload ls h).map (·.1) := by
  induction ls generalizing h with
  | nil => rfl
  | cons l ls ih =>
    unfold dispatch turns
    split
    · exact congrArg (l :: ·) (ih _)
    · exact ih h

/-- Whoever has a turn is switched on at it. -/
theorem isActive_of_mem_turns {ls : List (Listener H)} {h : Hub S H} {t : Listener H × Hub S H}
    (ht : t ∈ turns act payload ls h) : t.2.router.isActive t.1.id = true := by
  induction ls generalizing h with
  | nil => cases ht
  | cons l ls ih =>
    unfold turns at ht
    split at ht
    · next ha =>
      rcases List.mem_cons.1 ht with rfl | ht
      · exact ha
      · exact ih ht
    · exact ih ht

/-- The later listeners of a list have their turns where the earlier ones left the hub. -/
theorem turns_append (act : Act S H) (payload : Event.Payload) (xs ys : List (Listener H))
    (h : Hub S H) :
    turns act payload (xs ++ ys) h =
      turns act payload xs h ++ turns act payload ys (dispatch act payload xs h).1 := by
  induction xs generalizing h with
  | nil => rfl
  | cons l xs ih =>
    rw [List.cons_append, turns, turns, dispatch]
    split
    · rw [ih]
      rfl
    · exact ih h

/-! ## What every call keeps to -/

section Keeping

variable {R : Hub S H → Hub S H → Prop}

/-- A relation that every call keeps to holds between the beginning and the end. -/
theorem dispatch_rel (hrefl : ∀ h, R h h) (htrans : ∀ {a b c}, R a b → R b c → R a c)
    (ls : List (Listener H)) (hcall : ∀ l ∈ ls, ∀ h, R h (call act l payload h).1)
    (h : Hub S H) : R h (dispatch act payload ls h).1 := by
  induction ls generalizing h with
  | nil => exact hrefl h
  | cons l ls ih =>
    have hrest := ih fun k hk => hcall k (List.mem_cons_of_mem l hk)
    unfold dispatch
    split
    · exact htrans (hcall l List.mem_cons_self h) (hrest _)
    · exact hrest h

/-- A relation that every call keeps to holds between the beginning and every turn. -/
theorem turn_rel (hrefl : ∀ h, R h h) (htrans : ∀ {a b c}, R a b → R b c → R a c)
    (ls : List (Listener H)) (hcall : ∀ l ∈ ls, ∀ h, R h (call act l payload h).1)
    (h : Hub S H) : ∀ t ∈ turns act payload ls h, R h t.2 := by
  induction ls generalizing h with
  | nil =>
    intro t ht
    cases ht
  | cons l ls ih =>
    have hrest := ih fun k hk => hcall k (List.mem_cons_of_mem l hk)
    unfold turns
    split
    · intro t ht
      rcases List.mem_cons.1 ht with rfl | ht
      · exact hrefl h
      · exact htrans (hcall l List.mem_cons_self h) (hrest _ t ht)
    · exact hrest h

end Keeping

end MqttRelay.Hub
