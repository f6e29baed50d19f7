import MqttRelay.Proofs.Router.Places
import MqttRelay.Proofs.Router.Turns

/-!
# What an emit calls

A handler may add listeners and remove any of them, its own among these, deliver events in turn
and panic. Through all of this the listeners that an emit began with keep their numbers, and what
was switched off stays so, so that the emit calls each of them at most once, those that are
switched on at their turn and no other.

Results:
* `Hub.ChangesTo.nested`: whatever handlers do, however deep they deliver events in turn, the
  router changes by listeners that are added and removed.
* `Hub.mem_calls_iff`: a listener is called exactly if it is switched on at its turn.
* `Hub.turns_eq_singleton`: if one listener alone is switched on, it alone has a turn.
* `Hub.emit_calls`: the listeners that an emit calls, and the number that it answers.
-/

namespace MqttRelay.Hub

variable {S H : Type}

/-! ## What handlers do -/

/-- What a handler does: it adds and removes listeners, delivers events, and changes whatever it
acts on beside the router, each chosen by what it sees. At its end it returns or panics. -/
inductive Program (S H : Type) where
  | finish (returned : Bool)
  | look (next : Hub S H → Program S H)
  | keep (f : S → S) (rest : Program S H)
  | change (c : Router.Change H) (rest : Program S H)
  | emit (event : String) (payload : Event.Payload) (next : Nat → Program S H)

/-- Runs a program, given what handlers do. -/
def execute (act : Act S H) : Program S H → Hub S H → Hub S H × Bool
  | .finish returned, h => (h, returned)
  | .look next, h => execute act (next h) h
  | .keep f rest, h => execute act rest { h with store := f h.store }
  | .change c rest, h => execute act rest { h with router := h.router.change c }
  | .emit event payload next, h =>
    execute act (next (emit act event payload h).2) (emit act event payload h).1

/-- Handlers that run programs. Those that run inside others nest at most this deep; at the
bottom they do nothing. -/
def nested (program : H → Event.Payload → Program S H) : Nat → Act S H
  | 0 => fun _ _ h => (h, true)
  | depth + 1 => fun handler payload => execute (nested program depth) (program handler payload)

/-- The router of a hub changes to that of another. -/
def ChangesTo (h after : Hub S H) : Prop := ∃ changes, after.router = h.router.after changes

namespace ChangesTo

theorem of_router_eq {h after : Hub S H} (hr : after.router = h.router) : ChangesTo h after :=
  ⟨[], hr⟩

theorem refl (h : Hub S H) : ChangesTo h h := of_router_eq rfl

theorem trans {a b c : Hub S H} (h₁ : ChangesTo a b) (h₂ : ChangesTo b c) : ChangesTo a c := by
  obtain ⟨cs, hcs⟩ := h₁
  obtain ⟨ds, hds⟩ := h₂
  exact ⟨cs ++ ds, by rw [hds, hcs, Router.after_append]⟩

section

variable {act : Act S H} (hact : ∀ handler payload h, ChangesTo h (act handler payload h).1)

include hact

theorem call (l : Listener H) (payload : Event.Payload) (h : Hub S H) :
    ChangesTo h (Hub.call act l payload h).1 := by
  have hl := hact l.handler payload h
  unfold Hub.call
  dsimp only
  split
  · exact hl
  · exact hl.trans (of_router_eq rfl)

theorem dispatch (payload : Event.Payload) (ls : List (Listener H)) (h : Hub S H) :
    ChangesTo h (Hub.dispatch act payload ls h).1 :=
  dispatch_rel refl trans ls (fun l _ => call hact l payload) h

theorem emit (event : String) (payload : Event.Payload) (h : Hub S H) :
    ChangesTo h (Hub.emit act event payload h).1 := by
  have hd := dispatch hact payload (h.router.listeners event) h
  unfold Hub.emit
  dsimp only
  split
  · exact hd
  · exact hd.trans (of_router_eq rfl)

theorem execute (program : Program S H) (h : Hub S H) :
    ChangesTo h (Hub.execute act program h).1 := by
  induction program generalizing h with
  | finish returned => exact refl h
  | look next ih => exact ih h h
  | keep f rest ih => exact trans (of_router_eq rfl) (ih _)
  | change c rest ih => exact trans ⟨[c], rfl⟩ (ih _)
  | emit event payload next ih => exact (emit hact event payload h).trans (ih _ _)

end

/-- Whatever handlers do, the router changes by listeners that are added and removed. -/
theorem nested (program : H → Event.Payload → Program S H) (depth : Nat) :
    ∀ handler payload h, ChangesTo h (Hub.nested program depth handler payload h).1 := by
  induction depth with
  | zero => exact fun _ _ h => refl h
  | succ depth ih => exact fun handler payload h => execute ih (program handler payload) h

end ChangesTo

/-! ## Calls and turns -/

variable {act : Act S H} {payload : Event.Payload}

/-- Whoever has a turn is called, and whether it panics shows at its turn. -/
theorem dispatch_calls_eq (ls : List (Listener H)) (h : Hub S H) :
    (dispatch act payload ls h).2 =
      (turns act payload ls h).map fun t => ⟨t.1, (act t.1.handler payload t.2).2⟩ := by
  induction ls generalizing h with
  | nil => rfl
  | cons l ls ih =>
    unfold dispatch turns
    split
    · rw [List.map_cons, ← ih]
      rfl
    · exact ih h

theorem mem_of_mem_turns {ls : List (Listener H)} {h : Hub S H} {t : Listener H × Hub S H}
    (ht : t ∈ turns act payload ls h) : t.1 ∈ ls := by
  have hs := dispatch_calls_sublist act payload ls h
  rw [dispatch_calls_eq_turns] at hs
  exact hs.subset (List.mem_map_of_mem ht)

/-- A listener that stands once is called exactly if it is switched on at its turn, which comes
after those of the listeners before it. -/
theorem mem_calls_iff {before after : List (Listener H)} {l : Listener H}
    (hn : (before ++ l :: after).Nodup) (h : Hub S H) (returned : Bool) :
    ⟨l, returned⟩ ∈ (dispatch act payload (before ++ l :: after) h).2 ↔
      (dispatch act payload before h).1.router.isActive l.id = true ∧
        (act l.handler payload (dispatch act payload before h).1).2 = returned := by
  obtain ⟨-, hafter, hdisjoint⟩ := List.nodup_append.1 hn
  have hbefore : ∀ t ∈ turns act payload before h, t.1 ≠ l := fun t ht he =>
    hdisjoint t.1 (mem_of_mem_turns ht) l List.mem_cons_self he
  have hlater (v : Hub S H) : ∀ t ∈ turns act payload after v, t.1 ≠ l := fun t ht he =>
    (List.nodup_cons.1 hafter).1 (he ▸ mem_of_mem_turns ht)
  rw [dispatch_calls_eq, turns_append, List.map_append, List.mem_append]
  have hleft : ¬ (⟨l, returned⟩ : Call H) ∈ (turns act payload before h).map fun t =>
      ⟨t.1, (act t.1.handler payload t.2).2⟩ := fun hm => by
    obtain ⟨t, ht, he⟩ := List.mem_map.1 hm
    exact hbefore t ht (congrArg Call.listener he)
  have hright (v : Hub S H) : ¬ (⟨l, returned⟩ : Call H) ∈ (turns act payload after v).map fun t =>
      ⟨t.1, (act t.1.handler payload t.2).2⟩ := fun hm => by
    obtain ⟨t, ht, he⟩ := List.mem_map.1 hm
    exact hlater v t ht (congrArg Call.listener he)
  cases ha : (dispatch act payload before h).1.router.isActive l.id with
  | true =>
    rw [turns_cons_of_active ha, List.map_cons, List.mem_cons]
    simp [hleft, hright, eq_comm]
  | false =>
    rw [turns, if_neg (by simp [ha])]
    simp [hleft, hright]

/-- If one listener alone is switched on, it alone has a turn, whatever it does. -/
theorem turns_eq_singleton {ls : List (Listener H)} {h : Hub S H} {l : Listener H}
    (hlt : ∀ k ∈ ls, k.id < h.router.nextId) (hnodup : (ls.map (·.id)).Nodup) (hl : l ∈ ls)
    (hon : h.router.isActive l.id = true)
    (halone : ∀ k ∈ ls, h.router.isActive k.id = true → k.id = l.id)
    (hcall : ChangesTo h (Hub.call act l payload h).1) :
    turns act payload ls h = [(l, h)] := by
  obtain ⟨before, after, rfl⟩ := List.append_of_mem hl
  rw [List.map_append, List.map_cons, List.nodup_append, List.nodup_cons] at hnodup
  obtain ⟨-, ⟨hafter, -⟩, hbefore⟩ := hnodup
  have hoff {k : Listener H} (hk : k ∈ before ++ l :: after) (hne : k.id ≠ l.id) :
      h.router.isActive k.id = false := Bool.eq_false_iff.2 fun ha => hne (halone k hk ha)
  have hfirst : turns act payload before h = [] ∧ dispatch act payload before h = (h, []) :=
    dispatch_of_inactive fun k hk => hoff (List.mem_append_left _ hk)
      (hbefore _ (List.mem_map_of_mem hk) _ List.mem_cons_self)
  -- What was switched off before the listener's turn is so afterwards.
  have hlast : turns act payload after (Hub.call act l payload h).1 = [] := by
    refine (dispatch_of_inactive fun k hk => ?_).1
    have hmem : k ∈ before ++ l :: after :=
      List.mem_append_right _ (List.mem_cons_of_mem _ hk)
    obtain ⟨changes, hr⟩ := hcall
    rw [hr]
    refine Bool.eq_false_iff.2 fun ha => Bool.eq_false_iff.1 (hoff hmem fun he => ?_)
      (Router.isActive_of_after (hlt k hmem) ha)
    exact hafter (he ▸ List.mem_map_of_mem hk)
  rw [turns_append, hfirst.1, hfirst.2, turns_cons_of_active hon, hlast]
  rfl

/-! ## An emit -/

/-- An emit calls the listeners that stood under its name when it began, in order of
registration, each at most once and exactly those that are switched on at their turn: whether
handlers before it returned or panicked does not count. None that was added since is called.
Every turn finds a router that only changed by listeners that were added and removed, so that
this goes for the events that handlers deliver in turn as well. The number that is answered is
that of the called handlers that did not panic. -/
theorem emit_calls (program : H → Event.Payload → Program S H) (depth : Nat)
    (changes : List (Router.Change H)) (metrics : Metrics) (store : S) (event : String)
    (payload : Event.Payload) :
    let h : Hub S H := ⟨Router.empty.after changes, metrics, store⟩
    let act := nested program depth
    let registered := h.router.listeners event
    let calls := (dispatch act payload registered h).2
    (calls.map (·.listener)).Sublist registered ∧ (calls.map (·.listener.id)).Nodup ∧
    (∀ before l after, registered = before ++ l :: after →
      let turn := (dispatch act payload before h).1
      (∀ returned, ⟨l, returned⟩ ∈ calls ↔
        turn.router.isActive l.id = true ∧ (act l.handler payload turn).2 = returned) ∧
      ∃ since, turn.router = h.router.after since) ∧
    (∀ since name kind handler,
      ((h.router.after since).add name kind handler).2.id ∉ calls.map (·.listener.id)) ∧
    (∃ counted, (h.emit act event payload).1 =
      { (dispatch act payload registered h).1 with metrics := counted }) ∧
    (h.emit act event payload).2 = calls.countP (·.returned) := by
  intro h act registered calls
  have hact : ∀ handler payload h, ChangesTo h (act handler payload h).1 :=
    ChangesTo.nested program depth
  have hnumbered : h.router.Numbered := Router.numbered_after changes
  have hsublist : (calls.map (·.listener)).Sublist registered :=
    dispatch_calls_sublist act payload registered h
  have hids : calls.map (·.listener.id) = (calls.map (·.listener)).map (·.id) := by
    rw [List.map_map]
    rfl
  refine ⟨hsublist, ?_, ?_, ?_, ?_, rfl⟩
  · rw [hids]
    exact (hnumbered.nodup event).sublist (hsublist.map _)
  · intro before l after heq turn
    have hregistered : registered.Nodup :=
      List.Pairwise.of_map (·.id) (fun _ _ hne he => hne (congrArg _ he)) (hnumbered.nodup event)
    have hnodup : (before ++ l :: after).Nodup := heq ▸ hregistered
    refine ⟨fun returned => ?_, ChangesTo.dispatch hact payload before h⟩
    rw [show calls = (dispatch act payload (before ++ l :: after) h).2 by rw [← heq]]
    exact mem_calls_iff hnodup h returned
  · -- A number that is given out later is above those of all that stood when the emit began.
    intro since name kind handler hm
    rw [hids] at hm
    obtain ⟨l, hl, hid⟩ := List.mem_map.1 hm
    have hlt := hnumbered.lt event l (hsublist.subset hl)
    have hle := h.router.nextId_le_after since
    have hnew : ((h.router.after since).add name kind handler).2.id =
        (h.router.after since).nextId := rfl
    omega
  · unfold emit
    dsimp only
    split
    · exact ⟨_, rfl⟩
    · exact ⟨_, rfl⟩

end MqttRelay.Hub
