import MqttRelay.Proofs.Client.ComposingTasks
import MqttRelay.Proofs.Client.Realm

/-!
# Constructions that go on

A client under construction notices two things while others act: the answers that are handed to its
listener, and what its task finds when it looks. The first sign that decides ends the construction:
an answer, or a look that finds the listener gone or the time up. Meanwhile the listeners that move
the client are let go of only where they are removed.

Results:
* `World.Hears.creation`: an answer is kept if it is the first.
* `World.works_hears`, `World.works_retains`: both are noticed across whatever happens.
* `World.Making.creation`: the answer of a construction that goes on is the first one heard.
* `World.Making.happen`: whatever happens, a construction goes on or comes to its end.
-/

namespace MqttRelay.Client

open Native

variable {N A : Type}

/-- What a client under construction notices. -/
inductive Sign where
  /-- An answer is handed to its listener at a time. -/
  | heard (time : Nat) (payload : Event.Payload)
  /-- Its task looks at a time, and finds the listener switched on or not. -/
  | looked (time : Nat) (listening : Bool)

namespace Sign

/-- Whether it is a look. -/
def isLook : Sign → Bool
  | heard .. => false
  | looked .. => true

/-- A look that leaves things as they are: somebody listens, and the time is not up. -/
def waits (due : Option Nat) : Sign → Bool
  | heard .. => false
  | looked time listening => listening && !due.any (· ≤ time)

/-- Whether there is a client if a sign decides: as the answer says, and not after a look. -/
def verdict (due : Option Nat) : Sign → Option Bool
  | heard _ payload => some (ready payload)
  | looked time listening => if (looked time listening).waits due then none else some false

theorem verdict_eq_none_iff {due : Option Nat} {s : Sign} :
    s.verdict due = none ↔ s.waits due = true := by
  cases s with
  | heard time payload => simp [verdict, waits]
  | looked time listening => simp [verdict]

end Sign

namespace World

/-! ## Answers -/

/-- Answers are handed to a construction in order, and nothing else happens to it. -/
inductive Hears (creation : Nat) : World N A → List Sign → World N A → Prop
  | beside {w after}
      (same : ∀ c, w.store.creations[creation]? = some c →
        after.store.creations[creation]? = some c) : Hears creation w [] after
  | answer (payload : Event.Payload) (w) :
      Hears creation w [.heard w.store.now payload] (w.deliverAnswer creation (ready payload))
  | trans {a b c early late} (first : Hears creation a early b)
      (second : Hears creation b late c) : Hears creation a (early ++ late) c

theorem creations_deliverAnswer {creation : Nat} {c : Creation} {w : World N A}
    (hc : w.store.creations[creation]? = some c) (answer : Bool) :
    (w.deliverAnswer creation answer).store.creations[creation]? =
      some { c with answer := c.answer.or (some answer) } := by
  obtain ⟨requester, client, listener, first, due, ended⟩ := c
  cases first with
  | none => simp [deliverAnswer, hc, update, System.modifyCreation, System.enqueue]
  | some a => simp [deliverAnswer, hc]

theorem creations_deliverAnswer_of_ne {creation other : Nat} (h : other ≠ creation)
    (w : World N A) (answer : Bool) :
    (w.deliverAnswer other answer).store.creations[creation]? = w.store.creations[creation]? := by
  unfold deliverAnswer
  split
  · simp [update, System.modifyCreation, System.enqueue, h]
  · rfl

/-- An answer is kept if it is the first, whenever the time is up. -/
theorem Hears.creation {creation : Nat} {signs : List Sign} {w after : World N A}
    (h : Hears creation w signs after) (due : Option Nat) {c : Creation}
    (hc : w.store.creations[creation]? = some c) :
    after.store.creations[creation]? =
      some { c with answer := c.answer.or (signs.findSome? (Sign.verdict due)) } := by
  induction h generalizing c with
  | beside same => rw [same c hc, List.findSome?_nil, Option.or_none]
  | answer payload w => exact creations_deliverAnswer hc (ready payload)
  | trans first second ihfirst ihsecond =>
    rw [ihsecond (ihfirst hc), List.findSome?_append, Option.or_assoc]

theorem Hears.isLook_eq_false {creation : Nat} {signs : List Sign} {w after : World N A}
    (h : Hears creation w signs after) : ∀ s ∈ signs, s.isLook = false := by
  induction h with
  | beside => nofun
  | answer payload w => exact List.forall_mem_singleton.2 rfl
  | trans _ _ ihfirst ihsecond => exact List.forall_mem_append.2 ⟨ihfirst, ihsecond⟩

/-- Answers are noticed across whatever happens, until the construction has its turn. -/
theorem works_hears (creation : Nat) :
    Works (· ≠ creation) (fun w after : World N A => ∃ signs, Hears creation w signs after) where
  trans := fun ⟨_, h⟩ ⟨_, h'⟩ => ⟨_, h.trans h'⟩
  aside := fun _ _ hcreations => ⟨_, .beside fun c hc => by rw [hcreations, hc]⟩
  listen := fun _ _ => ⟨_, .beside fun _ hc => hc⟩
  answer := fun other payload w => by
    by_cases h : other = creation
    · subst h
      exact ⟨_, .answer payload w⟩
    · exact ⟨_, .beside fun c hc => (creations_deliverAnswer_of_ne h w _).trans hc⟩
  gone := fun {client _ w _} _ ⟨_, h⟩ => by
    have hlet : Hears creation w [] (w.letGo client) := .beside fun _ hc => hc
    exact ⟨_, (hlet.trans h).trans (.beside fun _ hc => hc)⟩
  make := fun requester config w => ⟨_, .beside fun c hc => by
    obtain ⟨listener, hcreations⟩ := w.creations_addClient requester config
    rw [hcreations, List.getElem?_append_left (List.getElem?_eq_some_iff.1 hc).1, hc]⟩
  alter := fun {other} h f w => ⟨_, .beside fun c hc => by
    simp [update, System.modifyCreation, h, hc]⟩

/-! ## Listeners that move clients -/

/-- Listeners come and go, and no client lets go of one that moves it, unless it is switched off. -/
structure Retains (w after : World N A) : Prop where
  router : ∃ changes, after.router = w.router.after changes
  lifecycles : ∀ (client : Nat) (handles : List Router.Handle),
    w.lifecycles[client]? = some handles →
      ∃ left : List Router.Handle, after.lifecycles[client]? = some left ∧ left ⊆ handles ∧
        ∀ handle ∈ handles, handle.id < w.router.nextId →
          handle ∈ left ∨ handle.id ∈ after.router.retired

namespace Retains

theorem of_same {w after : World N A} (hrouter : ∃ changes, after.router = w.router.after changes)
    (hlifecycles : ∀ (client : Nat) handles, w.lifecycles[client]? = some handles →
      after.lifecycles[client]? = some handles) : Retains w after :=
  ⟨hrouter, fun client handles h => ⟨handles, hlifecycles client handles h, List.Subset.refl _,
    fun _ hm _ => .inl hm⟩⟩

theorem trans {a b c : World N A} (h₁ : Retains a b) (h₂ : Retains b c) : Retains a c := by
  obtain ⟨early, hearly⟩ := h₁.router
  obtain ⟨late, hlate⟩ := h₂.router
  refine ⟨⟨early ++ late, by rw [Router.after_append, ← hearly, hlate]⟩,
    fun client handles h => ?_⟩
  obtain ⟨middle, hmiddle, hsub, hleft⟩ := h₁.lifecycles client handles h
  obtain ⟨last, hlast, hsub', hleft'⟩ := h₂.lifecycles client middle hmiddle
  refine ⟨last, hlast, List.Subset.trans hsub' hsub, fun handle hm hlt => ?_⟩
  rcases hleft handle hm hlt with hm | hoff
  · have hle : a.router.nextId ≤ b.router.nextId := hearly ▸ a.router.nextId_le_after early
    exact hleft' handle hm (Nat.lt_of_lt_of_le hlt hle)
  · exact .inr (hlate ▸ b.router.retired_subset_after late hoff)

/-- A client lets go of its listeners, and they are removed. -/
theorem gone {client : Nat} {m : Member} {w v : World N A} (hm : w.client? client = some m)
    (h : Retains (w.letGo client) v) :
    Retains w (v.setRouter (v.router.removeEach m.lifecycle)) := by
  obtain ⟨changes, hchanges⟩ := h.router
  have hlet : (w.letGo client).lifecycles = w.lifecycles.modify client fun _ => [] :=
    lifecycles_modifyClient client w fun _ => rfl
  refine ⟨⟨changes ++ m.lifecycle.map .remove, ?_⟩, fun other handles ho => ?_⟩
  · show v.router.removeEach m.lifecycle = _
    rw [Router.removeEach_eq_after, Router.after_append, hchanges]
    rfl
  · by_cases hother : client = other
    · subst hother
      obtain ⟨left, hleft, hsub, -⟩ := h.lifecycles client [] (by simp [hlet, ho])
      obtain rfl := Option.some.inj ((lifecycles_of_client hm).symm.trans ho)
      refine ⟨left, hleft, List.Subset.trans hsub (List.nil_subset _), fun handle hh hlt => ?_⟩
      have hle : w.router.nextId ≤ v.router.nextId :=
        hchanges ▸ (w.letGo client).router.nextId_le_after changes
      exact .inr (Router.retired_removeEach_of_mem hh (Nat.lt_of_lt_of_le hlt hle))
    · obtain ⟨left, hleft, hsub, hstay⟩ := h.lifecycles other handles (by simp [hlet, hother, ho])
      refine ⟨left, hleft, hsub, fun handle hh hlt =>
        (hstay handle hh hlt).imp_right fun hoff => ?_⟩
      show handle.id ∈ (v.router.removeEach m.lifecycle).retired
      rw [Router.removeEach_eq_after]
      exact v.router.retired_subset_after _ hoff

end Retains

theorem works_retains : Works (fun _ => True) (Retains : World N A → World N A → Prop) where
  trans := Retains.trans
  aside := fun hrouter hlifecycles _ => .of_same ⟨[], hrouter⟩ fun _ _ h => by rw [hlifecycles, h]
  listen := fun changes _ => .of_same ⟨changes, rfl⟩ fun _ _ h => h
  answer := fun creation payload w => by
    unfold deliverAnswer
    split <;> exact .of_same ⟨[], rfl⟩ fun _ _ h => h
  gone := Retains.gone
  make := fun requester config w => by
    refine .of_same ⟨_, w.router_addClient requester config⟩ fun client handles h => ?_
    obtain ⟨lifecycle, hclients⟩ := w.clients_addClient requester config
    have hlt : client < w.lifecycles.length := (List.getElem?_eq_some_iff.1 h).1
    rw [lifecycles, hclients, List.map_append]
    exact (List.getElem?_append_left hlt).trans h
  alter := fun _ _ _ => .of_same ⟨[], rfl⟩ fun _ _ h => h

/-! ## Looking -/

/-- What the task of a construction sees when it looks. -/
def sight (creation : Nat) (w : World N A) : Sign :=
  .looked w.store.now (w.store.creations[creation]?.any fun c => w.router.isActive c.listener.id)

/-- A construction that goes on ends by the first answer, or by the look itself. -/
theorem look_of_open {creation : Nat} {c : Creation} {w : World N A}
    (hc : w.store.creations[creation]? = some c) (hopen : c.ended = false) :
    w.look creation = match c.answer.or ((w.sight creation).verdict c.due) with
      | some true => (World.close creation ((w.off c.listener).count .clientCreated), some true)
      | some false => (w.fail creation, some false)
      | none => (w, none) := by
  obtain ⟨requester, client, listener, answer, due, ended⟩ := c
  obtain rfl : ended = false := hopen
  have hsight : (w.sight creation).verdict due =
      if w.router.isActive listener.id && !due.any (· ≤ w.store.now) then none
      else some false := by
    simp only [sight, hc, Option.any_some]
    rfl
  unfold look
  simp only [hc, hsight]
  cases answer with
  | some answer => cases answer <;> rfl
  | none => cases w.router.isActive listener.id <;> cases due.any (· ≤ w.store.now) <;> rfl

/-- A look that ends a construction ends it as the first answer says, or as the look itself does. -/
theorem look_ends {creation : Nat} {c : Creation} {made : Bool} {w after : World N A}
    (hc : w.store.creations[creation]? = some c) (hopen : c.ended = false)
    (h : w.look creation = (after, some made)) :
    c.answer.or ((w.sight creation).verdict c.due) = some made ∧
      after = if made then World.close creation ((w.off c.listener).count .clientCreated)
        else w.fail creation := by
  rw [look_of_open hc hopen] at h
  split at h
  · next hv =>
    obtain ⟨rfl, hmade⟩ := Prod.mk.inj h
    obtain rfl := Option.some.inj hmade
    exact ⟨hv, rfl⟩
  · next hv =>
    obtain ⟨rfl, hmade⟩ := Prod.mk.inj h
    obtain rfl := Option.some.inj hmade
    exact ⟨hv, rfl⟩
  · cases h

/-- A look that leaves a construction as it is finds somebody that listens, and the time not up. -/
theorem sight_waits {creation : Nat} {c : Creation} {w : World N A}
    (hc : w.store.creations[creation]? = some c) (hopen : c.ended = false)
    (pending : (w.look creation).2 = none) : (w.sight creation).waits c.due = true := by
  rw [look_of_open hc hopen] at pending
  split at pending
  · cases pending
  · cases pending
  · next h => exact Sign.verdict_eq_none_iff.1 (Option.or_eq_none_iff.1 h).2

theorem fst_look_of_pending {creation : Nat} {w : World N A} (h : (w.look creation).2 = none) :
    (w.look creation).1 = w := by
  cases hc : w.store.creations[creation]? with
  | none => simp [look, hc]
  | some c =>
    cases hended : c.ended with
    | true => rw [look_of_ended creation w c hc hended]
    | false =>
      rw [look_of_open hc hended] at h ⊢
      split at h
      · cases h
      · cases h
      · rfl

theorem await_of_pending {creation : Nat} {w : World N A} (h : (w.look creation).2 = none) :
    w.await creation = w := by
  have hlook : w.look creation = (w, none) := Prod.ext (fst_look_of_pending h) h
  unfold await
  split
  · rfl
  · rw [hlook]

/-! ## Constructions that go on -/

/-- A construction goes on from a world, with what it notices: its task looks and leaves it as it
is, and anything else happens. -/
inductive Making (x : Surroundings N A) (creation : Nat) (start : World N A) :
    List Sign → World N A → Prop
  | begun : Making x creation start [] start
  | looks {signs w} (before : Making x creation start signs w)
      (pending : (w.look creation).2 = none) :
      Making x creation start (signs ++ [w.sight creation]) w
  | happens {signs heard w} (before : Making x creation start signs w) (h : Happening N A)
      (pending : h = .turn (.await creation) → (w.look creation).2 = none)
      (hears : Hears creation w heard (x.happen h w)) :
      Making x creation start (signs ++ heard) (x.happen h w)

namespace Making

variable {x : Surroundings N A} {creation : Nat} {start w : World N A} {signs : List Sign}

/-- The answer of a construction that goes on is the first one heard: no look decided. -/
theorem creation_eq (h : Making x creation start signs w) {c : Creation}
    (hc : start.store.creations[creation]? = some c) (hopen : c.ended = false) :
    w.store.creations[creation]? =
      some { c with answer := c.answer.or (signs.findSome? (Sign.verdict c.due)) } := by
  induction h with
  | begun => rw [hc, List.findSome?_nil, Option.or_none]
  | looks before pending ih =>
    have hsight := Sign.verdict_eq_none_iff.2 (sight_waits ih hopen pending)
    rw [ih, List.findSome?_append, List.findSome?_singleton, hsight, Option.or_none]
  | happens before h pending hears ih =>
    rw [hears.creation c.due ih, List.findSome?_append, Option.or_assoc]

theorem waits (h : Making x creation start signs w) {c : Creation}
    (hc : start.store.creations[creation]? = some c) (hopen : c.ended = false) :
    ∀ s ∈ signs, s.isLook = true → s.waits c.due = true := by
  induction h with
  | begun => nofun
  | looks before pending ih =>
    have hwaits := sight_waits (before.creation_eq hc hopen) hopen pending
    exact List.forall_mem_append.2 ⟨ih, List.forall_mem_singleton.2 fun _ => hwaits⟩
  | happens before h pending hears ih =>
    refine List.forall_mem_append.2 ⟨ih, fun s hs hlook => ?_⟩
    exact absurd ((hears.isLook_eq_false s hs).symm.trans hlook) Bool.false_ne_true

theorem retains (hx : x.KeepsTo Retains) (h : Making x creation start signs w) :
    Retains start w := by
  induction h with
  | begun => exact works_retains.refl start
  | looks before pending ih => exact ih
  | happens before h pending hears ih =>
    exact ih.trans (works_retains.happen hx (fun _ _ => trivial) fun _ _ => trivial)

/-- Whatever happens, a construction goes on, unless its task has its turn and ends it. -/
theorem happen
    (hx : x.KeepsTo fun w after => ∃ signs, Hears creation w signs after)
    (hm : Making x creation start signs w) {c : Creation}
    (hc : w.store.creations[creation]? = some c) (h : Happening N A) :
    (h = .turn (.await creation) ∧ (w.look creation).2 ≠ none) ∨
      ∃ heard, Making x creation start (signs ++ heard) (x.happen h w) := by
  have hworks := works_hears (N := N) (A := A) creation
  -- A construction that begins meanwhile has another number.
  have hnew (v : World N A) (hv : ∃ signs, Hears creation w signs v) :
      v.store.creations.length ≠ creation := by
    obtain ⟨signs, hv⟩ := hv
    exact Nat.ne_of_gt (List.getElem?_eq_some_iff.1 (hv.creation none hc)).1
  by_cases hturn : h = .turn (.await creation)
  · subst hturn
    by_cases hpending : (w.look creation).2 = none
    · have hrun : ∃ signs, Hears creation w signs (x.run (.await creation) w) := by
        rw [show x.run (.await creation) w = w from await_of_pending hpending]
        exact hworks.refl w
      obtain ⟨heard, hheard⟩ := hworks.turn_of_run hx hrun
      exact .inr ⟨_, hm.happens _ (fun _ => hpending) hheard⟩
    · exact .inl ⟨rfl, hpending⟩
  · obtain ⟨heard, hheard⟩ := hworks.happen hx
      (fun _ ho he => hturn (he ▸ ho)) hnew
    exact .inr ⟨heard, hm.happens h (fun ht => absurd ht hturn) hheard⟩

end Making

end World

end MqttRelay.Client
