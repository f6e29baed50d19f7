import MqttRelay.Proofs.Client.ElsewhereTasks
import MqttRelay.Proofs.Client.Realm

/-!
# The registrations with a shared client

Most of what happens leaves the callbacks that were registered with a shared client alone. It may
add listeners and remove others, but a handle is used by whoever holds it: a client uses those of
its own listeners, a subscription and a construction use theirs, and another shared client uses
those of its own registrations. None of them holds one of a registration's.

* `HeldElsewhere` — somebody else holds a handle.
* `Separate` — nobody else holds a handle of a registration's listener.
* `SameRoster` — the registrations have not changed, and their listeners are switched on or off as
  they were; the client may have gone.

Results:
* `SameRoster.trans`: what leaves the registrations alone, one after the other, leaves them alone.
* `attachQueued_eq`: those that wait are attached one by one, in order of registration.
* `SameRoster.detach`, `closeRegistry`, `fail`, `look`, `deregister`: whoever uses the handles it
  holds leaves the registrations alone.
-/

namespace MqttRelay.Client

open Native

variable {N A : Type}

/-- A client that callbacks are attached to, and the id it has for the native layer. -/
structure Home where
  client : Nat
  clientId : String
  deriving DecidableEq, Repr

/-! ## Registrations that wait -/

/-- The listeners that are added for those that wait, and the registrations afterwards. -/
def attachTo (home : Home) :
    Router Handler → List (Nat × Registration) → Router Handler × List (Nat × Registration)
  | r, [] => (r, [])
  | r, (id, .queued interest callback) :: rs =>
    let (r, handle) :=
      r.addKey (.client home.clientId interest.event) (.tell interest home.client callback)
    let (r, rest) := attachTo home r rs
    (r, (id, .attached handle) :: rest)
  | r, (id, .attached handle) :: rs =>
    let (r, rest) := attachTo home r rs
    (r, (id, .attached handle) :: rest)

theorem attachTo_adds (home : Home) (r : Router Handler) (rs : List (Nat × Registration)) :
    ∃ changes : List (Router.Change Handler),
      (∀ c ∈ changes, ∃ event kind handler, c = .add event kind handler) ∧
        (attachTo home r rs).1 = r.after changes := by
  induction rs generalizing r with
  | nil => exact ⟨[], nofun, rfl⟩
  | cons reg rs ih =>
    obtain ⟨id, ⟨interest, callback⟩ | handle⟩ := reg
    · obtain ⟨changes, hadds, h⟩ := ih (r.addKey (.client home.clientId interest.event)
        (.tell interest home.client callback)).1
      exact ⟨.add _ (some _) _ :: changes, List.forall_mem_cons.2 ⟨⟨_, _, _, rfl⟩, hadds⟩, h⟩
    · exact ih r

/-- A listener was there, or it is new. -/
theorem attached_attachTo {home : Home} {r : Router Handler} {rs : List (Nat × Registration)}
    {reg : Nat × Registration} {handle : Router.Handle} (h : reg ∈ (attachTo home r rs).2)
    (hh : reg.2 = .attached handle) :
    reg ∈ rs ∨ r.nextId ≤ handle.id ∧ handle.id < (attachTo home r rs).1.nextId := by
  induction rs generalizing r with
  | nil => cases h
  | cons reg' rs ih =>
    obtain ⟨id, ⟨interest, callback⟩ | handle'⟩ := reg'
    · let added := r.addKey (.client home.clientId interest.event)
        (.tell interest home.client callback)
      rcases List.mem_cons.1 h with rfl | h
      · cases hh
        obtain ⟨changes, -, hrest⟩ := attachTo_adds home added.1 rs
        have hle := added.1.nextId_le_after changes
        rw [← hrest] at hle
        exact .inr ⟨Nat.le_refl _, hle⟩
      · exact (ih h).imp (List.mem_cons_of_mem _) fun hnew =>
          ⟨Nat.le_trans (Nat.le_succ _) hnew.1, hnew.2⟩
    · rcases List.mem_cons.1 h with rfl | h
      · exact .inl List.mem_cons_self
      · exact (ih h).imp_left (List.mem_cons_of_mem _)

namespace World

/-- A client as the home of callbacks. -/
def home (client : Nat) (w : World N A) : Home :=
  ⟨client, ((w.client? client).map (·.identity.clientId)).getD ""⟩

/-- The registrations with a shared client, of which there are none before it is made. -/
def registrations (shared : Nat) (w : World N A) : List (Nat × Registration) :=
  ((w.shared? shared).getD {}).registrations

/-- The number of the next registration with a shared client. -/
def nextRegistration (shared : Nat) (w : World N A) : Nat := ((w.shared? shared).getD {}).nextId

theorem registrations_of {shared : Nat} {w : World N A} {h : Shared}
    (hs : w.shared? shared = some h) : w.registrations shared = h.registrations := by
  rw [registrations, hs]
  rfl

theorem nextRegistration_of {shared : Nat} {w : World N A} {h : Shared}
    (hs : w.shared? shared = some h) : w.nextRegistration shared = h.nextId := by
  rw [nextRegistration, hs]
  rfl

/-- Registrations with one shared client are not those with another. -/
theorem registrations_modifyShared_of_ne {number shared : Nat} (hne : number ≠ shared)
    (f : Shared → Shared) (w : World N A) :
    (w.update (·.modifyShared number f)).registrations shared = w.registrations shared := by
  rw [registrations, shared?_modifyShared, registrations]
  cases w.shared? shared <;> simp [hne]

/-- A registration is attached to a client, if it waits. -/
def attachOne (client : Nat) (p : World N A × List (Nat × Registration))
    (r : Nat × Registration) : World N A × List (Nat × Registration) :=
  match p with
  | (w, done) =>
    match r.2 with
    | .queued interest callback =>
      let (w, handle) := w.on client interest callback
      (w, done ++ [(r.1, .attached handle)])
    | .attached _ => (w, done ++ [r])

/-- Those that wait are attached one by one, in order of registration. -/
theorem attachQueued_eq {shared client : Nat} {w : World N A} {h : Shared}
    (hs : w.shared? shared = some h) :
    w.attachQueued shared client =
      (w.setRouter (attachTo (w.home client) w.router h.registrations).1).update
        (·.modifyShared shared fun h' =>
          { h' with registrations := (attachTo (w.home client) w.router h.registrations).2 }) := by
  have hfold (rs : List (Nat × Registration)) (v : World N A) (done : List (Nat × Registration))
      (hv : v.home client = w.home client) :
      rs.foldl (attachOne client) (v, done) =
        (v.setRouter (attachTo (w.home client) v.router rs).1,
          done ++ (attachTo (w.home client) v.router rs).2) := by
    induction rs generalizing v done with
    | nil => simp [attachTo, setRouter]
    | cons r rs ih =>
      rw [List.foldl_cons]
      obtain ⟨id, registration⟩ := r
      cases registration with
      | queued interest callback =>
        have hon : v.on client interest callback =
            (v.setRouter (v.router.addKey (.client (w.home client).clientId interest.event)
              (.tell interest client callback)).1,
              (v.router.addKey (.client (w.home client).clientId interest.event)
                (.tell interest client callback)).2) := by
          rw [← hv]
          rfl
        simp only [attachOne, hon]
        refine Eq.trans (ih _ _ ?_) ?_
        · exact hv
        · rw [List.append_assoc]
          rfl
      | attached handle =>
        refine (ih v _ hv).trans ?_
        rw [List.append_assoc]
        rfl
  have hstep : w.attachQueued shared client =
      ((h.registrations.foldl (attachOne client) (w, [])).1.update
        (·.modifyShared shared fun h' =>
          { h' with registrations := (h.registrations.foldl (attachOne client) (w, [])).2 })) := by
    simp only [attachQueued, hs]
    rfl
  rw [hstep, hfold _ _ _ rfl, List.nil_append]

/-! ## Who holds a handle -/

/-- The handles that clients, subscriptions and constructions hold. -/
def handles (w : World N A) : List Router.Handle :=
  w.store.clients.flatMap (·.lifecycle) ++ w.store.subscriptions.flatMap (·.listeners) ++
    w.store.creations.map (·.listener)

/-- A handle is held by a client, a subscription, a construction or another shared client. -/
def HeldElsewhere (shared : Nat) (w : World N A) (handle : Router.Handle) : Prop :=
  handle ∈ w.handles ∨
    ∃ number ≠ shared, ∃ id, (id, .attached handle) ∈ w.registrations number

/-- A number was given out to a listener, but for no registration with the shared client. -/
structure GivenElsewhere (shared : Nat) (w : World N A) (listener : Nat) : Prop where
  lt : listener < w.router.nextId
  other : ∀ id handle, (id, .attached handle) ∈ w.registrations shared → handle.id ≠ listener

/-- Nobody else holds a handle of a registration's listener. -/
structure Separate (shared : Nat) (w : World N A) : Prop where
  lt : ∀ id handle, (id, .attached handle) ∈ w.registrations shared →
    handle.id < w.router.nextId
  elsewhere : ∀ handle, w.HeldElsewhere shared handle → w.GivenElsewhere shared handle.id

/-- The registrations with a shared client have not changed, and no client has come to it. -/
structure SameRegistrations (shared : Nat) (w after : World N A) : Prop where
  router : ∃ changes, after.router = w.router.after changes
  registrations : after.registrations shared = w.registrations shared
  next : after.nextRegistration shared = w.nextRegistration shared
  client : after.sharedClient? shared = w.sharedClient? shared ∨ after.sharedClient? shared = none
  runtime : after.store.runtime = w.store.runtime

/-- Nor were the listeners of the registrations switched off, as nobody else holds a handle of
them. -/
structure SameRoster (shared : Nat) (w after : World N A) : Prop
    extends SameRegistrations shared w after where
  separate : w.Separate shared → after.Separate shared
  active : w.Separate shared → ∀ id handle, (id, .attached handle) ∈ w.registrations shared →
    after.router.isActive handle.id = w.router.isActive handle.id

section

variable {shared : Nat} {w after : World N A}

theorem mem_handles_iff {handle : Router.Handle} : handle ∈ w.handles ↔
    (handle ∈ w.store.clients.flatMap (·.lifecycle) ∨
      handle ∈ w.store.subscriptions.flatMap (·.listeners)) ∨
        handle ∈ w.store.creations.map (·.listener) := by
  rw [handles, List.mem_append, List.mem_append]

theorem mem_handles_of_client {client : Nat} {m : Member} (hm : w.client? client = some m)
    {handle : Router.Handle} (h : handle ∈ m.lifecycle) : handle ∈ w.handles :=
  mem_handles_iff.2 (.inl (.inl (List.mem_flatMap.2 ⟨m, List.mem_of_getElem? hm, h⟩)))

theorem mem_handles_of_subscription {number : Nat} {s : Subscription}
    (hs : w.store.subscriptions[number]? = some s) {handle : Router.Handle}
    (h : handle ∈ s.listeners) : handle ∈ w.handles :=
  mem_handles_iff.2 (.inl (.inr (List.mem_flatMap.2 ⟨s, List.mem_of_getElem? hs, h⟩)))

theorem mem_handles_of_creation {creation : Nat} {c : Creation}
    (hc : w.store.creations[creation]? = some c) : c.listener ∈ w.handles :=
  mem_handles_iff.2 (.inr (List.mem_map_of_mem (List.mem_of_getElem? hc)))

theorem Separate.of_unused (h : Unused w) : w.Separate shared := by
  have hregistrations (number : Nat) : w.registrations number = [] := by
    simp [World.registrations, shared?, h.shareds]
  have hhandles : w.handles = [] := by
    simp [handles, h.clients, h.subscriptions, h.creations]
  refine ⟨fun id handle hreg => ?_, fun handle hheld => ?_⟩
  · rw [hregistrations] at hreg
    cases hreg
  · rcases hheld with hheld | ⟨number, -, id, hreg⟩
    · rw [hhandles] at hheld
      cases hheld
    · rw [hregistrations] at hreg
      cases hreg

theorem SameRegistrations.nextId_le (h : SameRegistrations shared w after) :
    w.router.nextId ≤ after.router.nextId := by
  obtain ⟨changes, hrouter⟩ := h.router
  rw [hrouter]
  exact w.router.nextId_le_after changes

theorem SameRegistrations.given (h : SameRegistrations shared w after) {listener : Nat}
    (hgiven : w.GivenElsewhere shared listener) : after.GivenElsewhere shared listener :=
  ⟨Nat.lt_of_lt_of_le hgiven.lt h.nextId_le, fun id handle hreg =>
    hgiven.other id handle (h.registrations ▸ hreg)⟩

/-- What leaves the shared client as it is. -/
theorem SameRegistrations.of_shared? (hrouter : ∃ changes, after.router = w.router.after changes)
    (hruntime : after.store.runtime = w.store.runtime)
    (h : after.shared? shared = w.shared? shared) : SameRegistrations shared w after := by
  refine ⟨hrouter, ?_, ?_, .inl ?_, hruntime⟩
  · rw [World.registrations, h]
    rfl
  · rw [nextRegistration, h]
    rfl
  · rw [sharedClient?, h]
    rfl

end

namespace SameRoster

variable {shared : Nat}

/-- Nobody comes to hold a handle, and the listeners of the registrations are not switched off. -/
theorem of_handles {w after : World N A} (h : SameRegistrations shared w after)
    (hhandles : after.handles ⊆ w.handles)
    (hothers : ∀ number ≠ shared, after.registrations number = w.registrations number)
    (hactive : w.Separate shared → ∀ id handle, (id, .attached handle) ∈ w.registrations shared →
      after.router.isActive handle.id = w.router.isActive handle.id) :
    SameRoster shared w after := by
  refine ⟨h, fun hw => ⟨fun id handle hreg => ?_, fun handle hheld => ?_⟩, hactive⟩
  · rw [h.registrations] at hreg
    exact Nat.lt_of_lt_of_le (hw.lt id handle hreg) h.nextId_le
  · refine h.given (hw.elsewhere handle ?_)
    rcases hheld with hheld | ⟨number, hne, id, hreg⟩
    · exact .inl (hhandles hheld)
    · exact .inr ⟨number, hne, id, hothers number hne ▸ hreg⟩

/-- Listeners are added, and others hold their handles. -/
theorem of_adds {w after : World N A} (hruntime : after.store.runtime = w.store.runtime)
    (h : after.shared? shared = w.shared? shared) {changes : List (Router.Change Handler)}
    (hadds : ∀ c ∈ changes, ∃ event kind handler, c = .add event kind handler)
    (hrouter : after.router = w.router.after changes)
    (hheld : ∀ handle, after.HeldElsewhere shared handle → w.HeldElsewhere shared handle ∨
      w.router.nextId ≤ handle.id ∧ handle.id < after.router.nextId) :
    SameRoster shared w after := by
  have hsame : SameRegistrations shared w after := .of_shared? ⟨changes, hrouter⟩ hruntime h
  refine ⟨hsame, fun hw => ⟨fun id handle hreg => ?_, fun handle ha => ?_⟩,
    fun hw id handle hreg => ?_⟩
  · rw [hsame.registrations] at hreg
    exact Nat.lt_of_lt_of_le (hw.lt id handle hreg) hsame.nextId_le
  · rcases hheld handle ha with hold | ⟨hnew, hlt⟩
    · exact hsame.given (hw.elsewhere handle hold)
    · refine ⟨hlt, fun id own hreg => ?_⟩
      rw [hsame.registrations] at hreg
      exact Nat.ne_of_lt (Nat.lt_of_lt_of_le (hw.lt id own hreg) hnew)
  · rw [hrouter]
    exact Router.isActive_adds (hw.lt id handle hreg) hadds

/-- What is done beside the listeners and whoever holds one. -/
theorem aside {w after : World N A} (hrouter : after.router = w.router)
    (hruntime : after.store.runtime = w.store.runtime) (hhandles : after.handles = w.handles)
    (hshareds : after.store.shareds = w.store.shareds) : SameRoster shared w after := by
  have hshared (number : Nat) : after.shared? number = w.shared? number := by
    rw [shared?, hshareds]
    rfl
  refine of_handles (.of_shared? ⟨[], hrouter⟩ hruntime (hshared shared))
    (hhandles ▸ List.Subset.refl _) (fun number _ => ?_) fun _ _ _ _ => by rw [hrouter]
  rw [World.registrations, hshared]
  rfl

theorem refl (w : World N A) : SameRoster shared w w := aside rfl rfl rfl rfl

theorem trans {a b c : World N A} (h₁ : SameRoster shared a b) (h₂ : SameRoster shared b c) :
    SameRoster shared a c := by
  obtain ⟨cs, hcs⟩ := h₁.router
  obtain ⟨ds, hds⟩ := h₂.router
  refine ⟨⟨⟨cs ++ ds, ?_⟩, h₂.registrations.trans h₁.registrations, h₂.next.trans h₁.next,
    h₂.client.elim (fun h => h₁.client.imp h.trans h.trans) .inr, h₂.runtime.trans h₁.runtime⟩,
    fun hw => h₂.separate (h₁.separate hw), fun hw id handle hreg => ?_⟩
  · rw [hds, hcs, Router.after_append]
  · have hreg' : (id, .attached handle) ∈ b.registrations shared := by rwa [h₁.registrations]
    exact (h₂.active (h₁.separate hw) id handle hreg').trans (h₁.active hw id handle hreg)

/-! ## Small changes -/

theorem count (o : Metrics.Occurrence) (w : World N A) : SameRoster shared w (w.count o) :=
  aside rfl rfl rfl rfl

theorem note (e : Entry) (w : World N A) : SameRoster shared w (w.note e) := aside rfl rfl rfl rfl

theorem pin (client : Nat) (w : World N A) : SameRoster shared w (w.pin client) :=
  aside rfl rfl rfl rfl

theorem unpin (client : Nat) (w : World N A) : SameRoster shared w (w.unpin client) :=
  aside rfl rfl rfl rfl

theorem enqueue (t : Task) (w : World N A) : SameRoster shared w (w.update (·.enqueue t)) :=
  aside rfl rfl rfl rfl

theorem hold (name : String) (client : Nat) (w : World N A) :
    SameRoster shared w (w.update (·.hold name client)) := aside rfl rfl rfl rfl

/-- Whoever changes holds no more handles than before. -/
theorem flatMap_modify_subset {α β : Type} {g : α → List β} {f : α → α}
    (hf : ∀ a, g (f a) ⊆ g a) (as : List α) (i : Nat) :
    (as.modify i f).flatMap g ⊆ as.flatMap g := by
  intro b hb
  obtain ⟨a, ha, hb⟩ := List.mem_flatMap.1 hb
  obtain ⟨k, hk⟩ := List.mem_iff_getElem?.1 ha
  rw [List.getElem?_modify] at hk
  obtain ⟨a', ha', rfl⟩ := Option.map_eq_some_iff.1 hk
  refine List.mem_flatMap.2 ⟨a', List.mem_of_getElem? ha', ?_⟩
  split at hb
  · exact hf a' hb
  · exact hb

/-- A client changes, and holds no listener that it did not hold. -/
theorem modifyClient (client : Nat) {f : Member → Member} (w : World N A)
    (hf : ∀ m, (f m).lifecycle ⊆ m.lifecycle) :
    SameRoster shared w (w.update (·.modifyClient client f)) := by
  refine of_handles (.of_shared? ⟨[], rfl⟩ rfl rfl) ?_ (fun _ _ => rfl) fun _ _ _ _ => rfl
  intro handle hh
  rw [mem_handles_iff] at hh ⊢
  exact hh.imp_left fun hh => hh.imp_left fun hh =>
    flatMap_modify_subset hf w.store.clients client hh

/-- A subscription changes, and holds no listener that it did not hold. -/
theorem modifySubscription (number : Nat) {f : Subscription → Subscription} (w : World N A)
    (hf : ∀ s, (f s).listeners ⊆ s.listeners) :
    SameRoster shared w (w.update (·.modifySubscription number f)) := by
  refine of_handles (.of_shared? ⟨[], rfl⟩ rfl rfl) ?_ (fun _ _ => rfl) fun _ _ _ _ => rfl
  intro handle hh
  rw [mem_handles_iff] at hh ⊢
  exact hh.imp_left fun hh => hh.imp_right fun hh =>
    flatMap_modify_subset hf w.store.subscriptions number hh

/-- A construction changes, and holds the listener that it held. -/
theorem modifyCreation (creation : Nat) {f : Creation → Creation} (w : World N A)
    (hf : ∀ c, (f c).listener = c.listener) :
    SameRoster shared w (w.update (·.modifyCreation creation f)) := by
  refine aside rfl rfl ?_ rfl
  have hcreations : (w.store.creations.modify creation f).map (·.listener) =
      w.store.creations.map (·.listener) := by
    refine List.ext_getElem? fun k => ?_
    simp only [List.getElem?_map, List.getElem?_modify]
    cases w.store.creations[k]? with
    | none => rfl
    | some c => by_cases hk : creation = k <;> simp [hk, hf]
  exact congrArg (_ ++ ·) hcreations

/-- A shared client changes beside its registrations, and obtains no client. -/
theorem modifyShared (number : Nat) {f : Shared → Shared} (w : World N A)
    (hf : ∀ h, (f h).registrations = h.registrations ∧ (f h).nextId = h.nextId ∧
      ((f h).client = h.client ∨ (f h).client = none)) :
    SameRoster shared w (w.update (·.modifyShared number f)) := by
  have hregistrations (other : Nat) :
      (w.update (·.modifyShared number f)).registrations other = w.registrations other := by
    rw [World.registrations, shared?_modifyShared, World.registrations]
    cases w.shared? other with
    | none => rfl
    | some h => by_cases hn : number = other <;> simp [hn, hf]
  refine of_handles ⟨⟨[], rfl⟩, hregistrations shared, ?_, ?_, rfl⟩ (List.Subset.refl _)
    (fun other _ => hregistrations other) fun _ _ _ _ => rfl
  · simp only [nextRegistration, shared?_modifyShared]
    cases w.shared? shared with
    | none => rfl
    | some h => by_cases hn : number = shared <;> simp [hn, hf]
  · simp only [sharedClient?, shared?_modifyShared]
    cases w.shared? shared with
    | none => exact .inl rfl
    | some h => by_cases hn : number = shared <;> simp [hn, hf]

/-- The registrations with another shared client change. Their listeners were held already, or they
were just added. -/
theorem modifyOther {number : Nat} (hne : number ≠ shared) {r : Router Handler}
    {f : Shared → Shared} {w : World N A} {changes : List (Router.Change Handler)}
    (hadds : ∀ c ∈ changes, ∃ event kind handler, c = .add event kind handler)
    (hrouter : r = w.router.after changes)
    (hf : ∀ h, w.shared? number = some h → ∀ id handle,
      (id, .attached handle) ∈ (f h).registrations →
        (id, .attached handle) ∈ h.registrations ∨
          w.router.nextId ≤ handle.id ∧ handle.id < r.nextId) :
    SameRoster shared w ((w.setRouter r).update (·.modifyShared number f)) := by
  have hshared (other : Nat) :
      ((w.setRouter r).update (·.modifyShared number f)).shared? other =
        (w.shared? other).map fun h => if number = other then f h else h :=
    shared?_modifyShared number f other (w.setRouter r)
  refine of_adds rfl ?_ hadds hrouter fun handle hheld => ?_
  · rw [hshared]
    cases w.shared? shared <;> simp [hne]
  · rcases hheld with hheld | ⟨other, hother, id, hreg⟩
    · exact .inl (.inl hheld)
    · rw [World.registrations, hshared] at hreg
      cases hs : w.shared? other with
      | none =>
        rw [hs] at hreg
        cases hreg
      | some h =>
        have hheld (hold : (id, .attached handle) ∈ h.registrations) :
            w.HeldElsewhere shared handle :=
          .inr ⟨other, hother, id, by rwa [registrations_of hs]⟩
        simp only [hs, Option.map_some, Option.getD_some] at hreg
        split at hreg
        · next hn => exact (hf h (hn ▸ hs) id handle hreg).imp_left hheld
        · exact .inl (hheld hreg)

/-- Another shared client changes, and its registrations hold no handle that they did not hold. -/
theorem modifyOther_of_held {number : Nat} (hne : number ≠ shared) {f : Shared → Shared}
    (w : World N A) (hf : ∀ h id handle, (id, .attached handle) ∈ (f h).registrations →
      (id, .attached handle) ∈ h.registrations) :
    SameRoster shared w (w.update (·.modifyShared number f)) := by
  have hadds : ∀ c ∈ ([] : List (Router.Change Handler)),
      ∃ event kind handler, c = .add event kind handler := nofun
  exact modifyOther hne hadds rfl fun h _ id handle hreg => .inl (hf h id handle hreg)

/-- A shared client that was just made is as if it had been there. -/
theorem newShared (w : World N A) : SameRoster shared w w.newShared := by
  have hregistrations (other : Nat) :
      w.newShared.registrations other = w.registrations other := by
    rcases w.shared?_newShared other with h | ⟨h, h'⟩ <;> simp [World.registrations, *]
  refine of_handles ⟨⟨[], rfl⟩, hregistrations shared, ?_, ?_, rfl⟩ (List.Subset.refl _)
    (fun other _ => hregistrations other) fun _ _ _ _ => rfl
  · rcases w.shared?_newShared shared with h | ⟨h, h'⟩ <;> simp [nextRegistration, *]
  · rcases w.shared?_newShared shared with h | ⟨h, h'⟩ <;> simp [sharedClient?, *]

/-- Handles are used that were given to somebody else. -/
theorem removeEach {handles : List Router.Handle} {w : World N A}
    (h : w.Separate shared → ∀ handle ∈ handles, w.GivenElsewhere shared handle.id) :
    SameRoster shared w (w.setRouter (w.router.removeEach handles)) :=
  of_handles (.of_shared? ⟨_, Router.removeEach_eq_after w.router handles⟩ rfl rfl)
    (List.Subset.refl _) (fun _ _ => rfl) fun hw id own hreg =>
      Router.isActive_removeEach_of_ne fun handle hh => (h hw handle hh).other id own hreg

theorem off {handle : Router.Handle} {w : World N A}
    (h : w.Separate shared → w.GivenElsewhere shared handle.id) :
    SameRoster shared w (w.off handle) :=
  have hgiven (hw : w.Separate shared) : ∀ used ∈ [handle], w.GivenElsewhere shared used.id :=
    List.forall_mem_singleton.2 (h hw)
  removeEach hgiven

/-- A listener is added whose handle nobody here holds. -/
theorem on (client : Nat) (interest : Interest) (callback : Nat) (w : World N A) :
    SameRoster shared w (w.on client interest callback).1 := by
  let key := Event.Key.client (w.home client).clientId interest.event
  have hadds : ∀ c ∈ [Router.Change.add key.name (some key.kind)
      (Handler.tell interest client callback)], ∃ event kind handler,
        c = .add event kind handler := List.forall_mem_singleton.2 ⟨_, _, _, rfl⟩
  exact of_adds rfl rfl hadds rfl fun _ => .inl

theorem enact (client : Nat) (effects : List Effect) (w : World N A) :
    SameRoster shared w (w.enact client effects) :=
  enact_rel refl trans (fun o _ => count o) (fun _ _ => enqueue _) w

theorem setState (client : Nat) (state : State Nat) (w : World N A) :
    SameRoster shared w (w.setState client state) :=
  modifyClient client w fun m => List.Subset.refl m.lifecycle

theorem move (client : Nat) (f : State Nat → State Nat × List Effect) (w : World N A) :
    SameRoster shared w (w.move client f) := by
  unfold World.move
  split
  · exact refl w
  · next m _ => exact (setState client (f m.state).1 w).trans (enact client (f m.state).2 _)

theorem wake (w : World N A) : SameRoster shared w w.wake := by
  obtain ⟨creations, h⟩ := w.wake_eq
  rw [h]
  exact aside rfl rfl rfl rfl

theorem unregister (client number : Nat) (w : World N A) :
    SameRoster shared w (w.unregister client number) :=
  modifyClient client w fun m => List.Subset.refl m.lifecycle

theorem markRemoved (client : Nat) (w : World N A) :
    SameRoster shared (w.pin client) (w.markRemoved client) :=
  modifyClient client _ fun m => List.nil_subset m.lifecycle

/-- A subscription ends, and uses the handles of its own listeners. -/
theorem detach (number : Nat) (w : World N A) : SameRoster shared w (w.detach number) := by
  unfold World.detach
  split
  · next s hs =>
    split
    · have hused : SameRoster shared w (w.setRouter (w.router.removeEach s.listeners)) :=
        removeEach fun hw handle hh =>
          hw.elsewhere handle (.inl (mem_handles_of_subscription hs hh))
      exact (hused.trans (modifySubscription number _ fun _ => List.nil_subset _)).trans
        (count .subscriptionReleased _)
    · exact refl w
  · exact refl w

theorem enroll (client number : Nat) (w : World N A) :
    SameRoster shared w (w.enroll client number) :=
  modifyClient client w fun m => List.Subset.refl m.lifecycle

/-- A subscription that never was active holds nothing. -/
theorem addSubscription {s : Subscription} (hs : s.listeners = []) (w : World N A) :
    SameRoster shared w (w.addSubscription s) := by
  refine aside rfl rfl ?_ rfl
  have hsubscriptions : (w.store.subscriptions ++ [s]).flatMap (·.listeners) =
      w.store.subscriptions.flatMap (·.listeners) := by simp [hs]
  exact congrArg (_ ++ · ++ _) hsubscriptions

/-- A subscription is entered, and holds its listeners. -/
theorem enter (s : Subscription) (wish : Outside.Wish) (w : World N A) :
    SameRoster shared w (w.enter s wish) := by
  obtain ⟨s', hsubscriptions, hlisteners⟩ :
      ∃ s', (w.enter s wish).store.subscriptions = w.store.subscriptions ++ [s'] ∧
        ∀ handle ∈ s'.listeners, w.router.nextId ≤ handle.id ∧
          handle.id < (w.enter s wish).router.nextId := by
    have hnext : (w.enter s wish).router.nextId = w.router.nextId + 3 := rfl
    refine ⟨_, rfl, List.forall_mem_cons.2 ⟨?_, List.forall_mem_cons.2
      ⟨?_, List.forall_mem_singleton.2 ?_⟩⟩⟩
    · exact ⟨Nat.le_refl w.router.nextId, Nat.lt_add_of_pos_right (by decide : 0 < 3)⟩
    · exact ⟨Nat.le_add_right w.router.nextId 1, Nat.add_lt_add_left (by decide : 1 < 3) _⟩
    · exact ⟨Nat.le_add_right w.router.nextId 2, Nat.add_lt_add_left (by decide : 2 < 3) _⟩
  refine of_adds rfl rfl (by simp) (router_enter s wish w) fun handle hheld => ?_
  rcases hheld with hheld | hheld
  · rw [mem_handles_iff, hsubscriptions, List.flatMap_append, List.mem_append,
      List.flatMap_singleton] at hheld
    rcases hheld with (hold | hold | hnew) | hold
    · exact .inl (.inl (mem_handles_iff.2 (.inl (.inl hold))))
    · exact .inl (.inl (mem_handles_iff.2 (.inl (.inr hold))))
    · exact .inr (hlisteners handle hnew)
    · exact .inl (.inl (mem_handles_iff.2 (.inr hold)))
  · exact .inl (.inr hheld)

theorem closeRegistry (client : Nat) (w : World N A) :
    SameRoster shared w (w.closeRegistry client) :=
  closeRegistry_rel refl trans (modifyClient client w fun m => List.Subset.refl m.lifecycle) detach

theorem deliverAnswer (creation : Nat) (ready : Bool) (w : World N A) :
    SameRoster shared w (w.deliverAnswer creation ready) := by
  unfold World.deliverAnswer
  split
  · have hanswered : SameRoster shared w (w.update (·.modifyCreation creation fun c =>
        { c with answer := some ready })) := modifyCreation creation w fun _ => rfl
    exact hanswered.trans (enqueue (.await creation) _)
  · exact refl w

/-! ## Constructions -/

/-- A client is made, and holds its listeners, as the construction does. -/
theorem addClient (requester : Requester) (config : Config) (w : World N A) :
    SameRoster shared w (w.addClient requester config).1 := by
  obtain ⟨m, c, hclients, hcreations, hlifecycle, hlistener⟩ :
      ∃ m c, (w.addClient requester config).1.store.clients = w.store.clients ++ [m] ∧
        (w.addClient requester config).1.store.creations = w.store.creations ++ [c] ∧
        (∀ handle ∈ m.lifecycle, w.router.nextId ≤ handle.id ∧
          handle.id < (w.addClient requester config).1.router.nextId) ∧
        w.router.nextId ≤ c.listener.id ∧
          c.listener.id < (w.addClient requester config).1.router.nextId := by
    have hnext : (w.addClient requester config).1.router.nextId = w.router.nextId + 3 := rfl
    refine ⟨_, _, rfl, rfl, List.forall_mem_cons.2 ⟨?_, List.forall_mem_singleton.2 ?_⟩, ?_⟩
    · exact ⟨Nat.le_add_right w.router.nextId 1, Nat.add_lt_add_left (by decide : 1 < 3) _⟩
    · exact ⟨Nat.le_add_right w.router.nextId 2, Nat.add_lt_add_left (by decide : 2 < 3) _⟩
    · exact ⟨Nat.le_refl w.router.nextId, Nat.lt_add_of_pos_right (by decide : 0 < 3)⟩
  refine of_adds rfl rfl (by simp) (w.router_addClient requester config) fun handle hheld => ?_
  rcases hheld with hheld | hheld
  · rw [mem_handles_iff, hclients, hcreations, List.flatMap_append, List.map_append,
      List.mem_append, List.mem_append, List.flatMap_singleton, List.map_singleton,
      List.mem_singleton] at hheld
    rcases hheld with ((hold | hnew) | hold) | hold | rfl
    · exact .inl (.inl (mem_handles_iff.2 (.inl (.inl hold))))
    · exact .inr (hlifecycle handle hnew)
    · exact .inl (.inl (mem_handles_iff.2 (.inl (.inr hold))))
    · exact .inl (.inl (mem_handles_iff.2 (.inr hold)))
    · exact .inr hlistener
  · exact .inl (.inr hheld)

theorem close (creation : Nat) (w : World N A) : SameRoster shared w (w.close creation) :=
  modifyCreation creation w fun _ => rfl

/-- Only listeners go that were added for the construction. -/
theorem strip {creation : Nat} {c : Creation} {w : World N A}
    (hc : w.store.creations[creation]? = some c) : SameRoster shared w (w.strip c) := by
  have hgiven (hw : w.Separate shared) :
      ∀ handle ∈ c.listener :: ((w.client? c.client).map (·.lifecycle)).getD [],
        w.GivenElsewhere shared handle.id := by
    intro handle hh
    refine hw.elsewhere handle (.inl ?_)
    rcases mem_stripped hh with rfl | ⟨m, hm, hh⟩
    · exact mem_handles_of_creation hc
    · exact mem_handles_of_client hm hh
  have hused : SameRoster shared w (w.setRouter ((w.router.remove c.listener).removeEach
      (((w.client? c.client).map (·.lifecycle)).getD []))) := removeEach hgiven
  exact hused.trans (modifyClient c.client _ fun _ => List.nil_subset _)

theorem composable : Composable (SameRoster shared : World N A → World N A → Prop) where
  refl := refl
  trans := trans
  panicked := count .panicked
  delivered _ _ := count _
  held h := ((pin _ _).trans h).trans (unpin _ _)

theorem fail (creation : Nat) (w : World N A) : SameRoster shared w (w.fail creation) :=
  composable.fail fun _ hc => ((strip hc).trans (count .initFailed _)).trans (close creation _)

theorem look (creation : Nat) (w : World N A) : SameRoster shared w (w.look creation).1 := by
  refine composable.look (fun c hc => ?_) (fail creation w)
  have hused : SameRoster shared w (w.off c.listener) :=
    off fun hw => hw.elsewhere _ (.inl (mem_handles_of_creation hc))
  exact (hused.trans (count .clientCreated _)).trans (close creation _)

theorem watch (p : World N A × Option Nat) : SameRoster shared p.1 (Surroundings.watch p) :=
  composable.watch (fun _ _ _ => aside rfl rfl rfl rfl) p

/-! ## Initializations -/

/-- Whoever has the turn next, no registration changes. -/
theorem unlock (number : Nat) (w : World N A) : SameRoster shared w (w.unlock number) :=
  composable.unlock (modifyShared number w fun _ => ⟨rfl, rfl, .inl rfl⟩)
    (fun _ => modifyShared number w fun _ => ⟨rfl, rfl, .inl rfl⟩) fun _ _ => enqueue _

/-- Callbacks that wait with another shared client are attached. -/
theorem attachQueued {number : Nat} (hne : number ≠ shared) (client : Nat) (w : World N A) :
    SameRoster shared w (w.attachQueued number client) := by
  cases hs : w.shared? number with
  | none =>
    rw [show w.attachQueued number client = w by simp only [World.attachQueued, hs]]
    exact refl w
  | some h =>
    rw [attachQueued_eq hs]
    obtain ⟨changes, hadds, hrouter⟩ :=
      attachTo_adds (w.home client) w.router h.registrations
    refine modifyOther hne hadds hrouter fun h' hs' id handle hreg => ?_
    obtain rfl : h = h' := Option.some.inj (hs.symm.trans hs')
    exact attached_attachTo hreg rfl

/-- An initialization ends without a client, or a construction for somebody else ends. -/
theorem finish {requester : Requester} {client : Option Nat}
    (h : requester.isOf shared = true → client = none) (w : World N A) :
    SameRoster shared w (w.finish requester client) := by
  refine composable.finish (fun number label c hrequester hc => ?_)
    (fun number _ _ => unlock number) (fun _ => note _) hold
  have hne : number ≠ shared := by
    rintro rfl
    exact absurd (hc.symm.trans (h (by simp [hrequester, Requester.isOf]))) nofun
  exact (attachQueued hne c w).trans (modifyOther_of_held hne _ fun _ _ _ hreg => hreg)

/-- A callback is registered with another shared client, or with one that is not there. -/
theorem register {number : Nat} {w : World N A}
    (h : ¬ (number = shared ∧ (w.shared? shared).isSome = true)) (interest : Interest)
    (callback : Nat) : SameRoster shared w (w.register number interest callback).1 := by
  cases hs : w.shared? number with
  | none =>
    have hclient : w.sharedClient? number = none := by simp [sharedClient?, hs]
    have hsame : (w.register number interest callback).1.store.shareds = w.store.shareds := by
      simp only [World.register, hclient]
      exact List.modify_eq_self (by simpa [shared?] using hs)
    refine aside ?_ ?_ ?_ hsame <;> simp only [World.register, hclient] <;> rfl
  | some s =>
    have hne : number ≠ shared := by
      rintro rfl
      exact h ⟨rfl, by rw [hs]; rfl⟩
    refine register_rel (fun client _ _ => ?_) fun _ _ => ?_
    · let key := Event.Key.client (w.home client).clientId interest.event
      have hadds : ∀ c ∈ [Router.Change.add key.name (some key.kind)
          (Handler.tell interest client callback)], ∃ event kind handler,
            c = .add event kind handler := List.forall_mem_singleton.2 ⟨_, _, _, rfl⟩
      refine modifyOther hne hadds rfl fun s _ id handle hreg => ?_
      refine (List.mem_append.1 hreg).imp_right fun hnew => ?_
      cases List.mem_singleton.1 hnew
      exact ⟨Nat.le_refl _, Nat.lt_succ_self _⟩
    · exact modifyOther_of_held hne w fun _ _ _ hreg =>
        (List.mem_append.1 hreg).resolve_right (by simp)

/-- A registration with another shared client is removed, and the handle of its listener is used. -/
theorem deregister {number : Nat} (hne : number ≠ shared) (id : Nat) (w : World N A) :
    SameRoster shared w (w.deregister number id) := by
  have hstrike (v : World N A) :
      SameRoster shared v (v.update (·.modifyShared number (Shared.strike id))) :=
    modifyOther_of_held hne v fun _ _ _ => List.mem_of_mem_filter
  refine composable.deregister (hstrike w) fun other handle hfound => ?_
  obtain ⟨s, hs, hfound⟩ := Option.bind_eq_some_iff.1 hfound
  have hreg := List.mem_of_find?_eq_some hfound
  rw [← registrations_of hs] at hreg
  exact (off fun hw => hw.elsewhere handle (.inr ⟨number, hne, _, hreg⟩)).trans (hstrike _)

end SameRoster

end World

end MqttRelay.Client
