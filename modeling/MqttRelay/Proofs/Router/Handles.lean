import MqttRelay.Proofs.Router.Listening
import MqttRelay.Proofs.Router.Tidiness
import MqttRelay.Proofs.Router.Turns

/-!
# Handles

Whoever adds a listener gets a handle for it, and nobody has a handle that was not given out. Here
the handles are kept beside the router in the order in which they were given out, and are used by
their place in that order, so that none can be made up. What is proved holds at every moment: after
each step, also of a handler that is called in the middle of an emit, however deep.

Results:
* `Kept.move`: one step keeps the table tidy, and each handle's listener where it was added.
* `Errand.Meets.keeps`: what every step keeps holds at every moment.
* `Errand.meets_run`: the end is one of the moments.
* `Errand.handles_agree`: what the table, the numbers and the handles are like at every moment.
-/

namespace MqttRelay.Hub

variable {S H : Type}

/-- A handle that was given out, and the listener that it was given out for. -/
structure Issue (H : Type) where
  handle : Router.Handle
  listener : Listener H

/-- What is kept beside a router: anything, and the handles that were given out. -/
structure Holdings (S H : Type) where
  own : S
  issued : List (Issue H) := []

/-! ## Steps -/

/-- One step of those who have a router. -/
inductive Move (S H : Type) where
  | keep (f : S → S)
  | add (event : String) (kind : Option Event.Kind) (handler : H)
  /-- Uses a handle, by its place among those that were given out. -/
  | remove (place : Nat)
  | removeAll (event : String)

/-- The hub after a step. -/
def move (h : Hub (Holdings S H) H) : Move S H → Hub (Holdings S H) H
  | .keep f => { h with store := { h.store with own := f h.store.own } }
  | .add event kind handler =>
    let (router, handle) := h.router.add event kind handler
    let issue : Issue H := ⟨handle, ⟨handle.id, kind, handler⟩⟩
    { h with router := router, store := { h.store with issued := h.store.issued ++ [issue] } }
  | .remove place =>
    match h.store.issued[place]? with
    | some issue => { h with router := h.router.remove issue.handle }
    | none => h
  | .removeAll event => { h with router := h.router.removeAll event }

/-- The table is tidy, whoever stands in it is switched on, and each handle belongs to the listener
that was added with it. -/
structure Kept (h : Hub (Holdings S H) H) : Prop where
  tidy : h.router.Tidy
  live : h.router.Live
  attends : ∀ issue ∈ h.store.issued, issue.listener.id = issue.handle.id ∧
    h.router.Attends issue.handle.event issue.listener

namespace Kept

variable {h : Hub (Holdings S H) H}

theorem count (hk : Kept h) (o : Metrics.Occurrence) : Kept (h.count o) :=
  ⟨hk.tidy, hk.live, hk.attends⟩

/-- A change of the router leaves what is known of the handles. -/
theorem change (hk : Kept h) (c : Router.Change H) (hlive : (h.router.change c).Live) :
    Kept { h with router := h.router.change c } where
  tidy := hk.tidy.change c
  live := hlive
  attends issue hi := ⟨(hk.attends issue hi).1, (hk.attends issue hi).2.change c⟩

theorem live_remove (hk : Kept h) {issue : Issue H} (hi : issue ∈ h.store.issued) :
    (h.router.remove issue.handle).Live := by
  obtain ⟨hid, hattends⟩ := hk.attends issue hi
  exact hk.live.remove fun name k hmem hk => (hattends.own name k hmem (hk.trans hid.symm)).1

theorem move (hk : Kept h) (m : Move S H) : Kept (h.move m) := by
  cases m with
  | keep f => exact ⟨hk.tidy, hk.live, hk.attends⟩
  | add event kind handler =>
    have hnew := hk.change (.add event kind handler)
      (hk.live.add hk.tidy.toRegular event kind handler)
    refine ⟨hnew.tidy, hnew.live, fun issue hi => ?_⟩
    rcases List.mem_append.1 hi with hi | hi
    · exact hnew.attends issue hi
    · rw [List.mem_singleton.1 hi]
      exact ⟨rfl, hk.tidy.toRegular.attends_add event kind handler⟩
  | remove place =>
    rw [Hub.move]
    split
    · next issue hissue =>
      exact hk.change (.remove issue.handle) (hk.live_remove (List.mem_of_getElem? hissue))
    · exact hk
  | removeAll event =>
    exact hk.change (.removeAll event) (hk.live.removeAll hk.tidy.toRegular event)

/-- A handle is active if and only if its listener stands among those of its event, and then it
stands there once. -/
theorem filter_listeners (hk : Kept h) {issue : Issue H} (hi : issue ∈ h.store.issued) :
    (h.router.listeners issue.handle.event).filter (·.id == issue.handle.id) =
      if h.router.isActive issue.handle.id then [issue.listener] else [] := by
  obtain ⟨hid, hattends⟩ := hk.attends issue hi
  have hlistening := hattends.filter_listening hk.tidy.toNumbered issue.handle.event
  rw [hk.live.listening_eq, hid] at hlistening
  simpa using hlistening

end Kept

/-! ## Errands -/

/-- What is done with a router, by a handler or at the outside: steps and emits, each chosen by
what was seen before. At its end a handler returns or panics. -/
inductive Errand (S H : Type) where
  | finish (returned : Bool)
  | look (next : Hub (Holdings S H) H → Errand S H)
  | move (m : Move S H) (rest : Errand S H)
  | emit (event : String) (payload : Event.Payload) (next : Nat → Errand S H)

namespace Errand

/-- Runs an errand, given what handlers do. -/
def run (act : Act (Holdings S H) H) :
    Errand S H → Hub (Holdings S H) H → Hub (Holdings S H) H × Bool
  | .finish returned, h => (h, returned)
  | .look next, h => run act (next h) h
  | .move m rest, h => run act rest (h.move m)
  | .emit event payload next, h =>
    run act (next (Hub.emit act event payload h).2) (Hub.emit act event payload h).1

/-- Handlers that run errands, inside one another at most so deep. At the bottom they do nothing. -/
def handlers (errand : H → Event.Payload → Errand S H) : Nat → Act (Holdings S H) H
  | 0 => fun _ _ h => (h, true)
  | depth + 1 => fun handler payload => run (handlers errand depth) (errand handler payload)

/-- The moments of an errand: what it finds before and after each of its steps, and the moments of
the handlers that are called during its emits, each from where it has its turn. -/
inductive Meets (errand : H → Event.Payload → Errand S H) :
    Nat → Errand S H → Hub (Holdings S H) H → Hub (Holdings S H) H → Prop where
  | here {depth e h} : Meets errand depth e h h
  | look {depth next h v} : Meets errand depth (next h) h v → Meets errand depth (.look next) h v
  | move {depth m rest h v} :
    Meets errand depth rest (h.move m) v → Meets errand depth (.move m rest) h v
  | inside {depth event payload next h v t} :
    t ∈ turns (handlers errand (depth + 1)) payload (h.router.listeners event) h →
    Meets errand depth (errand t.1.handler payload) t.2 v →
    Meets errand (depth + 1) (.emit event payload next) h v
  | emit {depth event payload next h v} :
    Meets errand depth (next (Hub.emit (handlers errand depth) event payload h).2)
      (Hub.emit (handlers errand depth) event payload h).1 v →
    Meets errand depth (.emit event payload next) h v

variable {errand : H → Event.Payload → Errand S H} {depth : Nat} {e : Errand S H}
  {h v : Hub (Holdings S H) H}

/-- The end is one of the moments. -/
theorem meets_run (e : Errand S H) (h : Hub (Holdings S H) H) :
    Meets errand depth e h (run (handlers errand depth) e h).1 := by
  induction e generalizing h with
  | finish returned => exact .here
  | look next ih => exact .look (ih h h)
  | move m rest ih => exact .move (ih (h.move m))
  | emit event payload next ih => exact .emit (ih _ _)

/-! ## What every step keeps -/

section Keeping

variable {P : Hub (Holdings S H) H → Prop}
  (hmove : ∀ {h : Hub (Holdings S H) H} (m : Move S H), P h → P (h.move m))
  (hcount : ∀ {h : Hub (Holdings S H) H} (o : Metrics.Occurrence), P h → P (h.count o))

include hcount in
theorem keeps_call {act : Act (Holdings S H) H}
    (hact : ∀ handler payload h, P h → P (act handler payload h).1)
    (l : Listener H) (payload : Event.Payload) (hp : P h) : P (call act l payload h).1 := by
  unfold call
  dsimp only
  split
  · exact hact l.handler payload h hp
  · exact hcount .panicked (hact l.handler payload h hp)

include hcount in
theorem keeps_emit {act : Act (Holdings S H) H}
    (hact : ∀ handler payload h, P h → P (act handler payload h).1)
    (event : String) (payload : Event.Payload) (hp : P h) : P (Hub.emit act event payload h).1 := by
  have hlast : P (dispatch act payload (h.router.listeners event) h).1 :=
    dispatch_rel (R := fun a b => P a → P b) (fun _ => id) (fun hab hbc => hbc ∘ hab) _
      (fun l _ _ => keeps_call hcount hact l payload) h hp
  unfold Hub.emit
  dsimp only
  split
  · exact hlast
  · exact hcount _ hlast

include hmove hcount

theorem keeps_run {act : Act (Holdings S H) H}
    (hact : ∀ handler payload h, P h → P (act handler payload h).1) (e : Errand S H)
    (hp : P h) : P (run act e h).1 := by
  induction e generalizing h with
  | finish returned => exact hp
  | look next ih => exact ih h hp
  | move m rest ih => exact ih (hmove m hp)
  | emit event payload next ih => exact ih _ (keeps_emit hcount hact event payload hp)

theorem keeps_handlers (depth : Nat) :
    ∀ handler payload h, P h → P (handlers errand depth handler payload h).1 := by
  induction depth with
  | zero => exact fun _ _ _ hp => hp
  | succ depth ih =>
    exact fun handler payload h hp => keeps_run hmove hcount ih (errand handler payload) hp

/-- What every step keeps holds at every moment. -/
theorem Meets.keeps (hv : Meets errand depth e h v) (hp : P h) : P v := by
  have hact (depth : Nat) : ∀ handler payload h, P h →
      P (handlers errand depth handler payload h).1 := keeps_handlers hmove hcount depth
  induction hv with
  | here => exact hp
  | look _ ih => exact ih hp
  | move _ ih => exact ih (hmove _ hp)
  | inside ht _ ih =>
    exact ih (turn_rel (R := fun a b => P a → P b) (fun _ => id) (fun hab hbc => hbc ∘ hab) _
      (fun l _ _ => keeps_call hcount (hact _) l _) _ _ ht hp)
  | emit _ ih => exact ih (keeps_emit hcount (hact _) _ _ hp)

end Keeping

/-- A router that began without listeners, at any moment of whatever is done with it, also inside
handlers: no name is stored without a listener, so that the names are counted that have one; each
number stands once in the table, below the next one, and in ascending order under each name; and a
handle is active if and only if its listener stands among those of its event, once. -/
theorem handles_agree {own : S} {metrics : Metrics} :
    Meets errand depth e ⟨Router.empty, metrics, ⟨own, []⟩⟩ v →
      (∀ p ∈ v.router.table, p.2 ≠ []) ∧
      v.router.eventCount = {event | 0 < v.router.count event}.ncard ∧
      ((v.router.table.flatMap (·.2)).map (·.id)).Nodup ∧
      (∀ l ∈ v.router.table.flatMap (·.2), l.id < v.router.nextId) ∧
      (∀ p ∈ v.router.table, p.2.Pairwise fun l k => l.id < k.id) ∧
      ∀ issue ∈ v.store.issued,
        (v.router.listeners issue.handle.event).filter (·.id == issue.handle.id) =
          if v.router.isActive issue.handle.id then [issue.listener] else [] := by
  intro hv
  have hstart : Kept (⟨Router.empty, metrics, ⟨own, []⟩⟩ : Hub (Holdings S H) H) :=
    ⟨Router.tidy_empty, nofun, nofun⟩
  have hkept : Kept v := hv.keeps (fun m hk => hk.move m) (fun o hk => hk.count o) hstart
  refine ⟨hkept.tidy.ne_nil, hkept.tidy.eventCount_eq, hkept.tidy.nodup_ids,
    fun l hl => hkept.tidy.lt_nextId hl, fun p hp => ?_, fun issue hi => hkept.filter_listeners hi⟩
  rw [← hkept.tidy.listeners_of_mem hp]
  exact hkept.tidy.ascending p.1

/-- A handler that removes the listener after it, and one that does nothing. -/
def unseat : Bool → Event.Payload → Errand Unit Bool
  | true, _ => .move (.remove 1) (.finish true)
  | false, _ => .finish true

/-- The handles agree inside a handler that has just removed the listener after it. -/
theorem handles_agree_unseat :
    let start : Hub (Holdings Unit Bool) Bool := ⟨Router.empty, {}, ⟨(), []⟩⟩
    let both := (start.move (.add "a" none true)).move (.add "a" none false)
    let v := both.move (.remove 1)
    Meets unseat 1 (.move (.add "a" none true) (.move (.add "a" none false)
      (.emit "a" default fun _ => .finish true))) start v ∧
    v.router.isActive 1 = true ∧ v.router.isActive 2 = false ∧
    v.router.eventCount = {event | 0 < v.router.count event}.ncard ∧
    ∀ issue ∈ v.store.issued,
      (v.router.listeners issue.handle.event).filter (·.id == issue.handle.id) =
        if v.router.isActive issue.handle.id then [issue.listener] else [] := by
  intro start both v
  have hturn : ((⟨1, none, true⟩, both) : Listener Bool × _) ∈
      turns (handlers unseat 1) default (both.router.listeners "a") both := by
    have hlisteners : both.router.listeners "a" = [⟨1, none, true⟩, ⟨2, none, false⟩] := by
      simp [both, start, Hub.move, Router.empty, Router.add, Router.listeners]
    rw [hlisteners, turns_cons_of_active (by decide +kernel)]
    exact List.mem_cons_self
  have hmeets : Meets unseat 1 (.move (.add "a" none true) (.move (.add "a" none false)
      (.emit "a" default fun _ => .finish true))) start v :=
    .move (.move (.inside hturn (.move .here)))
  obtain ⟨-, hcount, -, -, -, hissued⟩ := handles_agree hmeets
  exact ⟨hmeets, by decide +kernel, by decide +kernel, hcount, hissued⟩

end Errand

end MqttRelay.Hub
