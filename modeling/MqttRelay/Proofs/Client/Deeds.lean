import MqttRelay.Proofs.Client.Roster

/-!
# Deeds

Three things are ever done to the callbacks that were registered with a shared client: one more is
registered, one is removed by its handle, and those that wait are attached to a client that an
initialization obtained. Their listeners are switched off by others in three ways: a client is
removed and all listeners under the names of its events go, all listeners of an event are removed by
hand, or a handle is used by hand. So whatever happens is a course of such deeds, with all else
between them.

* `Deed` — one of these, with what it says about the callback and the client.
* `Hush` — how listeners are taken away that others may have added.
* `Course` — from one world to another by some deeds, one after the other.

Results:
* `register_of_none`, `register_of_some`, `deregister_spec`, `finish_spec`: what is done to the
  registrations.
* `Course.trans`, `Course.split`: courses are joined and taken apart.
* `Course.separate`: nobody else comes to hold a handle of a registration's listener.
-/

namespace MqttRelay.Client

open Native

variable {N A : Type}

/-- A callback that was registered with a shared client: the number of the registration, what the
callback is told, and the client it was attached to, unless it waits for one. -/
structure Enrolment where
  id : Nat
  interest : Interest
  callback : Nat
  home : Option Home
  deriving DecidableEq, Repr

/-- How listeners are taken away that others may have added. -/
inductive Hush where
  /-- A client is removed, and with it all listeners under the names of its events. -/
  | removal (home : Home)
  /-- All listeners of an event are removed. -/
  | clearing (event : String)
  /-- A handle is used. -/
  | release (handle : Router.Handle)
  deriving DecidableEq, Repr

/-- What is done to the router. -/
def Hush.changes : Hush → List (Router.Change Handler)
  | removal home =>
    Event.Kind.ofClient.map fun k => .removeAll (Event.Key.client home.clientId k).name
  | clearing event => [.removeAll event]
  | release handle => [.remove handle]

/-- What is done to the registrations with a shared client and to their listeners. -/
inductive Deed where
  /-- A callback is registered. -/
  | enrols (e : Enrolment)
  /-- A registration is removed by its handle. -/
  | strikes (id : Nat)
  /-- An initialization obtains a client, which those that wait are attached to. -/
  | attaches (home : Home)
  /-- Listeners are taken away. -/
  | hushes (h : Hush)
  deriving DecidableEq, Repr

/-- The client that is obtained. -/
def Deed.obtained? : Deed → Option Nat
  | attaches home => some home.client
  | _ => none

/-- The clients that are obtained, in order. -/
def Deed.obtained (deeds : List Deed) : List Nat := deeds.filterMap obtained?

@[simp] theorem Deed.obtained_nil : obtained [] = [] := rfl

theorem Deed.obtained_append (ds es : List Deed) :
    obtained (ds ++ es) = obtained ds ++ obtained es := List.filterMap_append

namespace World

/-! ## What each deed does -/

/-- What is entered when a callback is registered. -/
def enrolment (shared : Nat) (interest : Interest) (callback : Nat) (w : World N A) :
    Enrolment where
  id := (w.register shared interest callback).2
  interest := interest
  callback := callback
  home := (w.sharedClient? shared).map w.home

theorem enrolment_id {shared : Nat} {w : World N A} (hthere : (w.shared? shared).isSome = true)
    (interest : Interest) (callback : Nat) :
    (w.enrolment shared interest callback).id = w.nextRegistration shared := by
  obtain ⟨s, hs⟩ := Option.isSome_iff_exists.1 hthere
  simp [enrolment, World.register, nextRegistration, hs]

/-- Whoever has the turn next, a shared client keeps its client. -/
theorem sharedClient?_unlock (shared : Nat) (w : World N A) :
    (w.unlock shared).sharedClient? shared = w.sharedClient? shared := by
  have hmodify (f : Shared → Shared) (hf : ∀ h, (f h).client = h.client) :
      (w.update (·.modifyShared shared f)).sharedClient? shared = w.sharedClient? shared := by
    simp only [sharedClient?, shared?_modifyShared]
    cases w.shared? shared <;> simp [hf]
  unfold World.unlock
  split
  · rfl
  · split
    · exact hmodify _ fun _ => rfl
    · exact hmodify _ fun _ => rfl

theorem router_unlock (shared : Nat) (w : World N A) : (w.unlock shared).router = w.router := by
  unfold World.unlock
  split
  · rfl
  · split <;> rfl

/-- An initialization ends with a client: those that wait are attached to it. -/
theorem finish_spec (shared : Nat) (label : String) (client : Nat) (w : World N A) :
    let after := w.finish (.shared shared label) (some client)
    after.router = (attachTo (w.home client) w.router (w.registrations shared)).1 ∧
      after.registrations shared =
        (attachTo (w.home client) w.router (w.registrations shared)).2 ∧
      after.nextRegistration shared = w.nextRegistration shared ∧
      after.sharedClient? shared = (w.shared? shared).map fun _ => client := by
  intro after
  let v := (w.attachQueued shared client).update
    (·.modifyShared shared fun h => { h with client := some client })
  have hsame : SameRoster shared v after :=
    ((SameRoster.unlock shared v).trans (.note _ _)).trans (.hold label client _)
  have hrouter : after.router = v.router := router_unlock shared v
  have hclient : after.sharedClient? shared = v.sharedClient? shared :=
    sharedClient?_unlock shared v
  rw [hrouter, hsame.registrations, hsame.next, hclient]
  cases hs : w.shared? shared with
  | none =>
    have hattach : w.attachQueued shared client = w := by simp only [attachQueued, hs]
    have hv : v.shared? shared = none := by
      rw [shared?_modifyShared, hattach, hs]
      rfl
    refine ⟨?_, ?_, ?_, by rw [sharedClient?, hv]; rfl⟩
    · rw [registrations, hs]
      exact congrArg (·.router) hattach
    · rw [registrations, registrations, hv, hs]
      rfl
    · rw [nextRegistration, nextRegistration, hv, hs]
  | some h =>
    have hattach : w.attachQueued shared client = _ := attachQueued_eq hs
    rw [registrations_of hs]
    generalize attachTo (w.home client) w.router h.registrations = p at hattach ⊢
    have hv : v.shared? shared =
        some { h with registrations := p.2, client := some client } := by
      have hset : (w.setRouter p.1).shared? shared = some h := hs
      rw [shared?_modifyShared, hattach, shared?_modifyShared, hset]
      simp
    refine ⟨congrArg (·.router) hattach, registrations_of hv, ?_, ?_⟩
    · rw [nextRegistration_of hv, nextRegistration_of hs]
    · rw [sharedClient?, hv]
      rfl

/-- A callback is registered while no client is held. -/
theorem register_of_none {shared : Nat} {w : World N A} (hthere : (w.shared? shared).isSome = true)
    (hnone : w.sharedClient? shared = none) (interest : Interest) (callback : Nat) :
    let after := (w.register shared interest callback).1
    after.router = w.router ∧
      after.registrations shared =
        w.registrations shared ++ [(w.nextRegistration shared, .queued interest callback)] ∧
      after.nextRegistration shared = w.nextRegistration shared + 1 ∧
      after.sharedClient? shared = none := by
  intro after
  obtain ⟨h, hs⟩ := Option.isSome_iff_exists.1 hthere
  have hclient : h.client = none := by simpa [sharedClient?, hs] using hnone
  have hafter : after.shared? shared = some { h with
      registrations := h.registrations ++ [(h.nextId, .queued interest callback)]
      nextId := h.nextId + 1 } := by
    simp only [after, World.register, hnone]
    rw [shared?_modifyShared, hs]
    simp
  refine ⟨by simp only [after, World.register, hnone]; rfl, ?_, ?_, ?_⟩
  · rw [registrations_of hafter, registrations_of hs, nextRegistration_of hs]
  · rw [nextRegistration_of hafter, nextRegistration_of hs]
  · rw [sharedClient?, hafter]
    exact hclient

/-- A callback is registered while a client is held. -/
theorem register_of_some {shared client : Nat} {w : World N A}
    (hclient : w.sharedClient? shared = some client) (interest : Interest) (callback : Nat) :
    let after := (w.register shared interest callback).1
    let added := w.router.addKey (.client (w.home client).clientId interest.event)
      (.tell interest client callback)
    after.router = added.1 ∧
      after.registrations shared =
        w.registrations shared ++ [(w.nextRegistration shared, .attached added.2)] ∧
      after.nextRegistration shared = w.nextRegistration shared + 1 ∧
      after.sharedClient? shared = some client := by
  intro after added
  obtain ⟨h, hs, hc⟩ := Option.bind_eq_some_iff.1 hclient
  have hafter : after.shared? shared = some { h with
      registrations := h.registrations ++ [(h.nextId, .attached added.2)]
      nextId := h.nextId + 1 } := by
    have hon : (w.on client interest callback).1.shared? shared = some h := hs
    simp only [after, World.register, hclient]
    rw [shared?_modifyShared, hon, hs]
    simp only [Option.map_some, if_true]
    rfl
  refine ⟨by simp only [after, World.register, hclient]; rfl, ?_, ?_, ?_⟩
  · rw [registrations_of hafter, registrations_of hs, nextRegistration_of hs]
  · rw [nextRegistration_of hafter, nextRegistration_of hs]
  · rw [sharedClient?, hafter]
    exact hc

/-- A registration is removed by its handle, with its listener. -/
theorem deregister_spec {shared : Nat} {w : World N A} (hheld : w.store.sharedIsHeld shared = true)
    (id : Nat) :
    let after := w.deregister shared id
    after.router = (match (w.registrations shared).find? (·.1 == id) with
      | some (_, .attached handle) => w.router.remove handle
      | _ => w.router) ∧
      after.registrations shared = (w.registrations shared).filter (·.1 != id) ∧
      after.nextRegistration shared = w.nextRegistration shared ∧
      after.sharedClient? shared = w.sharedClient? shared := by
  intro after
  let v := w.update (·.modifyShared shared fun h =>
    { h with registrations := h.registrations.filter (·.1 != id) })
  have hv : v.shared? shared = (w.shared? shared).map fun h =>
      { h with registrations := h.registrations.filter (·.1 != id) } := by
    simp [v, shared?_modifyShared]
  have hfound : ((w.shared? shared).bind fun h => h.registrations.find? (·.1 == id)) =
      (w.registrations shared).find? (·.1 == id) := by
    rw [registrations]
    cases w.shared? shared <;> rfl
  have hshared : after.shared? shared = v.shared? shared := by
    simp only [after, World.deregister, hheld, if_true]
    split <;> rfl
  refine ⟨?_, ?_, ?_, ?_⟩
  · simp only [after, World.deregister, hheld, if_true, hfound]
    generalize (w.registrations shared).find? (·.1 == id) = found
    obtain _ | ⟨_, _ | _⟩ := found <;> rfl
  · rw [registrations, hshared, hv, registrations]
    cases w.shared? shared <;> rfl
  · rw [nextRegistration, hshared, hv, nextRegistration]
    cases w.shared? shared <;> rfl
  · rw [sharedClient?, hshared, hv, sharedClient?]
    cases w.shared? shared <;> rfl

end World

/-- What a deed does. A client that was obtained is handed over at the end of an initialization, and
a handle works while the shared client is there. -/
def Deed.Does (shared : Nat) (w after : World N A) : Deed → Prop
  | enrols e => (w.shared? shared).isSome = true ∧ ∃ interest callback,
      e = w.enrolment shared interest callback ∧ after = (w.register shared interest callback).1
  | strikes id => w.store.sharedIsHeld shared = true ∧ after = w.deregister shared id
  | attaches home => ∃ label, home = w.home home.client ∧
      after = w.finish (.shared shared label) (some home.client)
  | hushes h => (∀ home, h = .removal home → w.isRemoved home.client = true ∧
      home = w.home home.client) ∧ after = w.setRouter (w.router.after h.changes)

namespace World

/-- Beside the registrations with a shared client everybody holds the handles that were held. -/
structure SameHolders (shared : Nat) (w after : World N A) : Prop where
  runtime : after.store.runtime = w.store.runtime
  handles : after.handles = w.handles
  others : ∀ number ≠ shared, after.registrations number = w.registrations number

namespace SameHolders

variable {shared : Nat}

theorem aside {w after : World N A} (hruntime : after.store.runtime = w.store.runtime)
    (hhandles : after.handles = w.handles) (hshareds : after.store.shareds = w.store.shareds) :
    SameHolders shared w after :=
  ⟨hruntime, hhandles, fun number _ => by rw [World.registrations, World.shared?, hshareds]; rfl⟩

theorem refl (w : World N A) : SameHolders shared w w := aside rfl rfl rfl

theorem trans {a b c : World N A} (h₁ : SameHolders shared a b) (h₂ : SameHolders shared b c) :
    SameHolders shared a c :=
  ⟨h₂.runtime.trans h₁.runtime, h₂.handles.trans h₁.handles,
    fun number hne => (h₂.others number hne).trans (h₁.others number hne)⟩

theorem modifyShared (f : Shared → Shared) (w : World N A) :
    SameHolders shared w (w.update (·.modifyShared shared f)) :=
  ⟨rfl, rfl, fun _ hne => registrations_modifyShared_of_ne hne.symm f w⟩

theorem composable : Composable (SameHolders shared : World N A → World N A → Prop) where
  refl := refl
  trans := trans
  panicked _ := aside rfl rfl rfl
  delivered _ _ _ := aside rfl rfl rfl
  held {client w after} h :=
    have hpinned : SameHolders shared w (w.pin client) := aside rfl rfl rfl
    have hunpinned : SameHolders shared after (after.unpin client) := aside rfl rfl rfl
    (hpinned.trans h).trans hunpinned

theorem register (interest : Interest) (callback : Nat) (w : World N A) :
    SameHolders shared w (w.register shared interest callback).1 := by
  refine register_rel (fun client _ _ => ?_) fun _ _ => modifyShared _ w
  have hon : SameHolders shared w (w.on client interest callback).1 := aside rfl rfl rfl
  exact hon.trans (modifyShared _ _)

theorem deregister (id : Nat) (w : World N A) : SameHolders shared w (w.deregister shared id) :=
  composable.deregister (modifyShared _ w) fun _ _ _ =>
    (modifyShared (Shared.strike id) w).trans (aside rfl rfl rfl)

theorem attachQueued (client : Nat) (w : World N A) :
    SameHolders shared w (w.attachQueued shared client) := by
  cases hs : w.shared? shared with
  | none =>
    rw [show w.attachQueued shared client = w by simp only [World.attachQueued, hs]]
    exact refl w
  | some h =>
    rw [attachQueued_eq hs]
    exact (aside rfl rfl rfl : SameHolders shared w
      (w.setRouter (attachTo (w.home client) w.router h.registrations).1)).trans (modifyShared _ _)

theorem unlock (w : World N A) : SameHolders shared w (w.unlock shared) :=
  composable.unlock (modifyShared _ w) (fun _ => modifyShared _ w) fun _ _ _ => aside rfl rfl rfl

theorem finish (label : String) (client : Nat) (w : World N A) :
    SameHolders shared w (w.finish (.shared shared label) (some client)) := by
  refine composable.finish (fun number _ c hnumber _ => ?_) (fun number _ hnumber v => ?_)
    (fun _ _ => aside rfl rfl rfl) fun _ _ _ => aside rfl rfl rfl
  · cases hnumber
    exact (attachQueued c w).trans (modifyShared _ _)
  · cases hnumber
    exact unlock v

end SameHolders

/-- Only the registrations with one shared client get handles, and only of new listeners. -/
structure Grows (shared : Nat) (w after : World N A) : Prop extends SameHolders shared w after where
  router : ∃ changes, after.router = w.router.after changes
  attached : ∀ id handle, (id, .attached handle) ∈ after.registrations shared →
    (id, .attached handle) ∈ w.registrations shared ∨
      w.router.nextId ≤ handle.id ∧ handle.id < after.router.nextId

namespace Grows

variable {shared : Nat} {w after : World N A}

theorem nextId_le (h : Grows shared w after) : w.router.nextId ≤ after.router.nextId := by
  obtain ⟨changes, hrouter⟩ := h.router
  rw [hrouter]
  exact w.router.nextId_le_after changes

theorem given (h : Grows shared w after) {listener : Nat}
    (hgiven : w.GivenElsewhere shared listener) : after.GivenElsewhere shared listener := by
  refine ⟨Nat.lt_of_lt_of_le hgiven.lt h.nextId_le, fun id handle hreg => ?_⟩
  rcases h.attached id handle hreg with hold | ⟨hnew, -⟩
  · exact hgiven.other id handle hold
  · exact Nat.ne_of_gt (Nat.lt_of_lt_of_le hgiven.lt hnew)

theorem separate (h : Grows shared w after) (hw : w.Separate shared) : after.Separate shared := by
  refine ⟨fun id handle hreg => ?_, fun handle hheld => h.given (hw.elsewhere handle ?_)⟩
  · rcases h.attached id handle hreg with hold | ⟨-, hlt⟩
    · exact Nat.lt_of_lt_of_le (hw.lt id handle hold) h.nextId_le
    · exact hlt
  · rcases hheld with hheld | ⟨number, hne, id, hreg⟩
    · exact .inl (h.handles ▸ hheld)
    · exact .inr ⟨number, hne, id, h.others number hne ▸ hreg⟩

theorem register (hthere : (w.shared? shared).isSome = true) (interest : Interest)
    (callback : Nat) : Grows shared w (w.register shared interest callback).1 := by
  cases hclient : w.sharedClient? shared with
  | none =>
    obtain ⟨hrouter, hregs, -⟩ := register_of_none hthere hclient interest callback
    refine ⟨.register interest callback w, ⟨[], hrouter⟩, fun id handle hreg => .inl ?_⟩
    rw [hregs] at hreg
    exact (List.mem_append.1 hreg).resolve_right (by simp)
  | some client =>
    obtain ⟨hrouter, hregs, -⟩ := register_of_some hclient interest callback
    have hnext : (w.register shared interest callback).1.router.nextId =
        w.router.nextId + 1 := by
      rw [hrouter]
      rfl
    refine ⟨.register interest callback w, ⟨[.add _ (some _) _], hrouter⟩, fun id handle hreg => ?_⟩
    rw [hregs] at hreg
    rw [hnext]
    refine (List.mem_append.1 hreg).imp_right fun hnew => ?_
    cases List.mem_singleton.1 hnew
    exact ⟨Nat.le_refl _, Nat.lt_succ_self _⟩

theorem deregister (hheld : w.store.sharedIsHeld shared = true) (id : Nat) :
    Grows shared w (w.deregister shared id) := by
  obtain ⟨hrouter, hregs, -⟩ := deregister_spec hheld id
  refine ⟨.deregister id w, ?_, fun other handle hreg => .inl ?_⟩
  · rw [hrouter]
    split
    · next handle _ => exact ⟨[.remove handle], rfl⟩
    · exact ⟨[], rfl⟩
  · rw [hregs] at hreg
    exact List.mem_of_mem_filter hreg

theorem finish (label : String) (client : Nat) :
    Grows shared w (w.finish (.shared shared label) (some client)) := by
  obtain ⟨hrouter, hregs, -⟩ := finish_spec shared label client w
  obtain ⟨changes, -, hadds⟩ :=
    attachTo_adds (w.home client) w.router (w.registrations shared)
  refine ⟨.finish label client w, ⟨changes, hrouter.trans hadds⟩, fun id handle hreg => ?_⟩
  · rw [hregs] at hreg
    rw [hrouter]
    exact attached_attachTo hreg rfl

/-- A deed gives handles of new listeners to the registrations, and to nobody else. -/
theorem does {d : Deed} (h : d.Does shared w after) : Grows shared w after := by
  cases d with
  | enrols e =>
    obtain ⟨hthere, interest, callback, -, rfl⟩ := h
    exact register hthere interest callback
  | strikes id =>
    obtain ⟨hheld, rfl⟩ := h
    exact deregister hheld id
  | attaches home =>
    obtain ⟨label, -, rfl⟩ := h
    exact finish label home.client
  | hushes h =>
    obtain ⟨-, rfl⟩ := h
    exact ⟨.aside rfl rfl rfl, ⟨h.changes, rfl⟩, fun _ _ => .inl⟩

end Grows

/-- Listeners that are taken away leave the registrations as they are. -/
theorem sameRegistrations_of_hushes {shared : Nat} {w after : World N A} {h : Hush}
    (hdoes : (Deed.hushes h).Does shared w after) : SameRegistrations shared w after := by
  obtain ⟨-, rfl⟩ := hdoes
  exact .of_shared? ⟨h.changes, rfl⟩ rfl rfl

/-! ## Courses -/

/-- Deeds lead from one world to another, one after the other, and between them all else happens. -/
inductive Course (shared : Nat) : World N A → List Deed → World N A → Prop
  | beside {w after} (same : SameRoster shared w after) : Course shared w [] after
  | deed {w v u after} {d : Deed} {deeds : List Deed} (same : SameRoster shared w v)
      (does : d.Does shared v u) (rest : Course shared u deeds after) :
      Course shared w (d :: deeds) after

namespace Course

variable {shared : Nat}

theorem refl (w : World N A) : Course shared w [] w := .beside (.refl w)

/-- A single deed. -/
theorem does {w after : World N A} {d : Deed} (h : d.Does shared w after) :
    Course shared w [d] after := .deed (.refl w) h (refl after)

theorem enrols (interest : Interest) (callback : Nat) {w : World N A}
    (h : (w.shared? shared).isSome = true) :
    Course shared w [.enrols (w.enrolment shared interest callback)]
      (w.register shared interest callback).1 := does ⟨h, interest, callback, rfl, rfl⟩

theorem strikes (id : Nat) {w : World N A} (h : w.store.sharedIsHeld shared = true) :
    Course shared w [.strikes id] (w.deregister shared id) := does ⟨h, rfl⟩

theorem attaches (label : String) (client : Nat) (w : World N A) :
    Course shared w [.attaches (w.home client)]
      (w.finish (.shared shared label) (some client)) := does ⟨label, rfl, rfl⟩

theorem trans {a b c : World N A} {ds es : List Deed} (h₁ : Course shared a ds b)
    (h₂ : Course shared b es c) : Course shared a (ds ++ es) c := by
  induction h₁ with
  | beside same =>
    cases h₂ with
    | beside same' => exact .beside (same.trans same')
    | deed same' does rest => exact .deed (same.trans same') does rest
  | deed same does _ ih => exact .deed same does (ih h₂)

/-- A course with a deed in it leads to this deed, and from there. -/
theorem split {w after : World N A} {ds es : List Deed} {d : Deed}
    (h : Course shared w (ds ++ d :: es) after) :
    ∃ v u, Course shared w ds v ∧ d.Does shared v u ∧ Course shared u es after := by
  induction ds generalizing w with
  | nil =>
    cases h with
    | deed same does rest => exact ⟨_, _, .beside same, does, rest⟩
  | cons e ds ih =>
    cases h with
    | deed same does rest =>
      obtain ⟨v, u, hfirst, hdoes, hrest⟩ := ih rest
      exact ⟨v, u, .deed same does hfirst, hdoes, hrest⟩

variable {w after : World N A} {deeds : List Deed}

theorem router (h : Course shared w deeds after) :
    ∃ changes, after.router = w.router.after changes := by
  induction h with
  | beside same => exact same.router
  | deed same does _ ih =>
    obtain ⟨cs, hcs⟩ := same.router
    obtain ⟨ds, hds⟩ := (Grows.does does).router
    obtain ⟨es, hes⟩ := ih
    exact ⟨cs ++ ds ++ es, by rw [hes, hds, hcs, Router.after_append, Router.after_append]⟩

theorem runtime (h : Course shared w deeds after) : after.store.runtime = w.store.runtime := by
  induction h with
  | beside same => exact same.runtime
  | deed same does _ ih => exact (ih.trans (Grows.does does).runtime).trans same.runtime

/-- What was given to somebody else stays so. -/
theorem given (h : Course shared w deeds after) {listener : Nat}
    (hgiven : w.GivenElsewhere shared listener) : after.GivenElsewhere shared listener := by
  induction h with
  | beside same => exact same.given hgiven
  | deed same does _ ih => exact ih ((Grows.does does).given (same.given hgiven))

/-- Nobody else comes to hold a handle of a registration's listener. -/
theorem separate (h : Course shared w deeds after) (hw : w.Separate shared) :
    after.Separate shared := by
  induction h with
  | beside same => exact same.separate hw
  | deed same does _ ih => exact ih ((Grows.does does).separate (same.separate hw))

end Course

end World

end MqttRelay.Client
