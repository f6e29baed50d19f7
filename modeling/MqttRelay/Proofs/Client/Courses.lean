import MqttRelay.Proofs.Client.Deeds
import MqttRelay.Proofs.Client.Succession

/-!
# The courses that runs take

Whatever happens is a course of deeds for the registrations with a shared client: operations and
events, which callbacks interrupt, clients that are made, tasks that have their turns, and
initializations that wait for each other and for their clients. A client is obtained in the course
whenever an initialization obtains one. What callbacks do in the midst of it is a part of the
course: they may register callbacks, remove them, and take listeners away, too.

* `Obtains`, `Passes` — there is a course in which some clients are obtained, or none.
* `Abides` — what callbacks and interceptors may do: anything but the ending of an initialization.
* `Records` — the deeds of a run: those that the application does by itself are among them, and the
  clients are those that the shared client obtained.

Results:
* `Passes.request`, `Passes.emit`, `Passes.perform`: requests, events and operations obtain no
  client.
* `Abides.nested`: callbacks that run programs of operations abide.
* `Obtains.create`, `Obtains.proceed`: what a construction and the turn of an initialization obtain.
* `Surroundings.course_meet`, `Surroundings.exists_records`: occasions and runs have their deeds.
-/

namespace MqttRelay.Client

open Native World

variable {N A : Type}

namespace World

/-- There is a course in which some clients are obtained, if work can be scheduled at first, or
cannot, as it is said, and nobody else holds a handle of a registration's listener. -/
def Obtains (shared : Nat) (on : Bool) (w : World N A) (clients : List Nat) (after : World N A) :
    Prop :=
  w.store.runtime = on → w.Separate shared →
    ∃ deeds, Course shared w deeds after ∧ Deed.obtained deeds = clients

/-- The registrations with a shared client may change, but no client is obtained for them. -/
def Passes (shared : Nat) (on : Bool) (w after : World N A) : Prop := Obtains shared on w [] after

theorem Obtains.trans {shared : Nat} {on : Bool} {a b c : World N A} {first second : List Nat}
    (h₁ : Obtains shared on a first b) (h₂ : Obtains shared on b second c) :
    Obtains shared on a (first ++ second) c := by
  intro hon hseparate
  obtain ⟨ds, hds, hfirst⟩ := h₁ hon hseparate
  obtain ⟨es, hes, hsecond⟩ := h₂ (hds.runtime.trans hon) (hds.separate hseparate)
  exact ⟨ds ++ es, hds.trans hes, by rw [Deed.obtained_append, hfirst, hsecond]⟩

/-- What callbacks and interceptors may do: clients and constructions stay who they are, and no
initialization of the shared client comes to its end. -/
structure Abides (shared : Nat) (on : Bool) (w after : World N A) : Prop
    extends Lasting w after where
  passes : Passes shared on w after

namespace Passes

variable {shared : Nat} {on : Bool}

theorem course {w after : World N A} {deeds : List Deed} (h : Course shared w deeds after)
    (hnone : Deed.obtained deeds = []) : Passes shared on w after := fun _ _ => ⟨deeds, h, hnone⟩

theorem beside {w after : World N A} (h : SameRoster shared w after) : Passes shared on w after :=
  course (.beside h) rfl

theorem refl (w : World N A) : Passes shared on w w := beside (.refl w)

theorem trans {a b c : World N A} (h₁ : Passes shared on a b) (h₂ : Passes shared on b c) :
    Passes shared on a c := Obtains.trans h₁ h₂

/-- Listeners are taken away by hand. -/
theorem hushes {h : Hush} (hand : ∀ home, h ≠ .removal home) {w after : World N A}
    (hafter : after = w.setRouter (w.router.after h.changes)) : Passes shared on w after :=
  course (.does (d := .hushes h) ⟨fun home he => absurd he (hand home), hafter⟩) rfl

theorem register (number : Nat) (interest : Interest) (callback : Nat) (w : World N A) :
    Passes shared on w (w.register number interest callback).1 := by
  by_cases hn : number = shared ∧ (w.shared? shared).isSome = true
  · obtain ⟨rfl, hthere⟩ := hn
    exact course (.enrols interest callback hthere) rfl
  · exact beside (.register hn interest callback)

theorem deregister (number id : Nat) (w : World N A) :
    Passes shared on w (w.deregister number id) := by
  by_cases hn : number = shared
  · subst hn
    by_cases hheld : w.store.sharedIsHeld number = true
    · exact course (.strikes id hheld) rfl
    · -- The shared client is gone, and the handle does nothing.
      rw [show w.deregister number id = w from if_neg hheld]
      exact refl w
  · exact beside (.deregister hn id w)

/-- A client is given up: its own listeners go, and then all under the names of its events. -/
theorem unlisten {client : Nat} {m : Member} {v : World N A}
    (hgiven : ∀ handle ∈ m.lifecycle, v.GivenElsewhere shared handle.id)
    (hremoved : v.isRemoved client = true) (hid : (v.home client).clientId = m.identity.clientId) :
    Passes shared on v (v.setRouter (World.unlisten m v.router)) := by
  have hown : SameRoster shared v (v.setRouter (v.router.removeEach m.lifecycle)) :=
    .removeEach fun _ => hgiven
  have hall : (Deed.hushes (.removal (v.home client))).Does shared
      (v.setRouter (v.router.removeEach m.lifecycle))
      (v.setRouter (World.unlisten m v.router)) := by
    refine ⟨fun home he => ?_, ?_⟩
    · obtain rfl := Hush.removal.inj he
      exact ⟨hremoved, rfl⟩
    · rw [World.unlisten, Router.foldl_removeAll_eq_after, ← hid]
      rfl
  exact course (.deed hown hall (.refl _)) rfl

/-! ## Requests, events and operations -/

theorem composable : Composable (Passes shared on : World N A → World N A → Prop) where
  refl := refl
  trans := trans
  panicked _ := beside (.count .panicked _)
  delivered _ _ _ := beside (.aside rfl rfl rfl rfl)
  held h := ((beside (.pin _ _)).trans h).trans (beside (.unpin _ _))

section Operations

variable {outside : Outside N A}
  (htell : ∀ callback notice w, Abides shared on w (outside.tell callback notice w).1)

include htell

/-- What a listener does when its event is delivered. -/
theorem act (handler : Handler) (payload : Event.Payload) (w : World N A) :
    Passes shared on w (outside.act handler payload w).1 :=
  composable.act (fun creation _ => beside (.deliverAnswer creation _ w))
    (fun client _ => beside (.move client _ w)) (fun client _ _ => beside (.move client _ w))
    fun callback _ notice v => (htell callback notice v).passes

theorem emit (event : String) (payload : Event.Payload) (w : World N A) :
    Passes shared on w (Hub.emit outside.act event payload w).1 :=
  composable.emit fun l _ => act htell l.handler payload

theorem deliverAll (events : List Emission) (w : World N A) :
    Passes shared on w (outside.deliverAll events w).1 :=
  composable.deliverAll (fun e _ => emit htell e.key.name e.payload) w

/-- A request, with the events that the native layer delivers on the spot. -/
theorem request (r : Request) (w : World N A) : Passes shared on w (outside.request r w).1 := by
  have hasked : SameRoster shared w (outside.asked r w) := .aside rfl rfl rfl rfl
  exact composable.request (beside hasked) (fun e _ => emit htell e.key.name e.payload)
    fun f v => beside (.note (.fault f) v)

theorem lasting_request (r : Request) (w : World N A) : Lasting w (outside.request r w).1 :=
  (frame_lasting shared).request (fun _ _ _ => (htell ..).toLasting) r w

theorem comply (client : Nat) (ask : Ask Nat) (w : World N A) :
    Passes shared on w (outside.comply client ask w) :=
  composable.comply (fun _ => request htell _ w) (request htell _ w)
    (fun _ v => beside (.move client _ v)) fun _ _ _ _ => beside (.aside rfl rfl rfl rfl)

/-- A client has a turn with all that follows. -/
theorem drive (client : Nat) (input : Input) (w : World N A) :
    Passes shared on w (outside.drive client input w) :=
  composable.drive (fun _ _ => beside ((SameRoster.setState client _ _).trans (.enact client _ _)))
    fun _ ask _ _ => comply htell client ask _

omit htell in
/-- What a client had that was given up is taken away. Whatever happened meanwhile, its listeners
are nobody's registration. -/
theorem clear {client : Nat} {m : Member} {w told : World N A} (hm : w.client? client = some m)
    (hlasting : Lasting (w.markRemoved client) told)
    (hpasses : Passes shared on (w.markRemoved client) told) :
    Passes shared on (w.pin client) (told.clear client m) := by
  intro hon hseparate
  obtain ⟨deeds, hcourse, hnone⟩ := ((beside (.markRemoved client w)).trans hpasses) hon hseparate
  have hgiven : ∀ handle ∈ m.lifecycle, told.GivenElsewhere shared handle.id := fun handle hh =>
    hcourse.given (hseparate.elsewhere handle (.inl (mem_handles_of_client hm hh)))
  obtain ⟨m', hm', hsame⟩ := ((lasting_markRemoved client w).trans hlasting).clients client m hm
  have hremoved : (w.markRemoved client).isRemoved client = true := by
    simp [isRemoved, markRemoved, client?_modifyClient, show (w.pin client).client? client =
      some m from hm, State.remove]
  have hgone : Passes shared on told (told.setRouter (World.unlisten m told.router)) :=
    unlisten hgiven (hlasting.isRemoved hremoved) (by simp [World.home, hm', hsame.identity])
  exact (course hcourse hnone).trans (hgone.trans (beside (.closeRegistry client _))) hon
    hseparate

theorem remove (client : Nat) (w : World N A) :
    Passes shared on w (outside.remove client w) := by
  refine composable.remove (fun m hm told htold => ?_)
    (fun _ => beside (.count .clientRemoved _)) fun _ => beside (.wake _)
  rcases htold with rfl | rfl
  · exact clear hm (.refl _) (refl _)
  · exact clear hm (lasting_request htell _ _) (request htell _ _)

theorem subscribe (client : Nat) (wish : Outside.Wish) (w : World N A) :
    Passes shared on w (outside.subscribe client wish w).1 := by
  have htagged (m : Member) (v : World N A) : SameRoster shared v (v.tag client m) :=
    .modifyClient client v fun m => List.Subset.refl m.lifecycle
  refine composable.subscribe (fun m _ => beside ?_) (fun m _ _ => ⟨?_, ?_, ?_⟩)
    fun callback _ notice v => (htell callback notice v).passes
  · exact (htagged m w).trans (.addSubscription rfl _)
  · let s := wish.subscription client m
    exact beside ((((htagged m (w.pin client)).trans (.enter s wish _)).trans
      (.enroll client w.store.subscriptions.length _)).trans (.count .subscriptionAdded _))
  · exact request htell _ _
  · exact beside ((SameRoster.unregister client w.store.subscriptions.length _).trans
      (.detach _ _))

theorem unsubscribe (number : Nat) (w : World N A) :
    Passes shared on w (outside.unsubscribe number w) :=
  composable.unsubscribe fun s _ => ⟨beside ((SameRoster.detach number w).trans
    (.unregister s.client number _)), request htell _ _⟩

/-- An operation, with all that it makes happen. -/
theorem perform (o : Operation) (w : World N A) : Passes shared on w (outside.perform o w) := by
  cases o with
  | connect client overrides => exact drive htell client _ w
  | disconnect client => exact drive htell client _ w
  | remove client => exact remove htell client w
  | subscribe client wish => exact subscribe htell client wish w
  | unsubscribe number => exact unsubscribe htell number w
  | on client interest callback => exact beside (.on client interest callback w)
  | off handle => exact hushes (h := .release handle) nofun rfl
  | removeAll event => exact hushes (h := .clearing event) nofun rfl
  | install client interceptor =>
    exact beside (.modifyClient client w fun m => List.Subset.refl m.lifecycle)
  | uninstall client number =>
    exact beside (.modifyClient client w fun m => List.Subset.refl m.lifecycle)

end Operations

end Passes

namespace Abides

variable {shared : Nat} {on : Bool}

theorem refl (shared : Nat) (on : Bool) (w : World N A) : Abides shared on w w := ⟨.refl w, .refl w⟩

/-- What is done beside a shared client and its registrations. -/
theorem aside {w after : World N A} (hshared : Elsewhere shared w after)
    (hroster : SameRoster shared w after) : Abides shared on w after :=
  ⟨hshared.toLasting, .beside hroster⟩

theorem trans {a b c : World N A} (h₁ : Abides shared on a b) (h₂ : Abides shared on b c) :
    Abides shared on a c := ⟨h₁.toLasting.trans h₂.toLasting, h₁.passes.trans h₂.passes⟩

/-- An operation abides if callbacks do. -/
theorem operate {outside : Outside N A}
    (htell : ∀ callback notice w, Abides shared on w (outside.tell callback notice w).1)
    (o : Operation) (w : World N A) : Abides shared on w (outside.perform o w) :=
  ⟨(frame_lasting shared).perform (fun _ _ _ => (htell ..).toLasting) o (fun _ _ => trivial) w,
    .perform htell o w⟩

/-- A program of operations abides if callbacks do. -/
theorem execute {outside : Outside N A}
    (htell : ∀ callback notice w, Abides shared on w (outside.tell callback notice w).1)
    (program : Program N A) (w : World N A) : Abides shared on w (outside.execute program w).1 := by
  induction program generalizing w with
  | finish returned => exact refl shared on w
  | look next ih => exact ih w w
  | keep f rest ih =>
    have hkept : Abides shared on w (w.update fun s => { s with app := f s.app }) :=
      aside (.keepData f w) (.aside rfl rfl rfl rfl)
    exact hkept.trans (ih _)
  | perform o rest ih =>
    exact (operate htell o w).trans (ih _)

/-- So callbacks that run programs abide, however deep they nest. -/
theorem nested (layer : Layer N) (program : Nat → Notice → Program N A) (depth callback : Nat)
    (notice : Notice) (w : World N A) :
    Abides shared on w ((Outside.nested layer program depth).tell callback notice w).1 := by
  induction depth generalizing callback notice w with
  | zero => exact refl shared on w
  | succ depth ih => exact execute ih (program callback notice) w

end Abides

/-! ## Constructions and initializations -/

/-- A client that is obtained when a construction is looked at is obtained by a shared client if the
construction is for it. -/
def obtainsFrom? (shared creation : Nat) (w : World N A) : Option Nat :=
  if (w.constructs? shared creation).isSome then w.handsOver? creation else none

namespace Obtains

variable {shared : Nat} {on : Bool}

/-- A construction is looked at. -/
theorem await (creation : Nat) (w : World N A) :
    Obtains shared on w (w.obtainsFrom? shared creation).toList (w.await creation) := by
  intro _ _
  have hlook : SameRoster shared w (w.look creation).1 := .look creation w
  unfold World.await
  split
  · next hc => exact ⟨[], .refl w, by simp [obtainsFrom?, constructs?, hc]⟩
  · next c hc =>
    split
    · next v hl =>
      rw [hl] at hlook
      have hgoing : c.ended = false := ended_eq_false_of_look hc (congrArg Prod.snd hl)
      cases hof : c.requester.isOf shared with
      | true =>
        obtain ⟨label, hlabel⟩ : ∃ label, c.requester = .shared shared label := by
          cases hr : c.requester with
          | name label => simp [hr, Requester.isOf] at hof
          | shared number label => exact ⟨label, by simpa [hr, Requester.isOf] using hof⟩
        rw [hlabel]
        refine ⟨[.attaches (v.home c.client)],
          (Course.beside hlook).trans (.attaches label c.client v), ?_⟩
        simp [obtainsFrom?, constructs?, handsOver?, hc, hl, hof, hgoing, Deed.obtained,
          Deed.obtained?, World.home]
      | false =>
        refine ⟨[], .beside (hlook.trans (.finish (fun h => ?_) v)), ?_⟩
        · cases hof.symm.trans h
        · simp [obtainsFrom?, constructs?, hc, hof]
    · next v hl =>
      rw [hl] at hlook
      exact ⟨[], .beside (hlook.trans (.finish (fun _ => rfl) v)),
        by simp [obtainsFrom?, handsOver?, hl]⟩
    · next v hl =>
      rw [hl] at hlook
      exact ⟨[], .beside hlook, by simp [obtainsFrom?, handsOver?, hl]⟩

end Obtains

/-- An initialization that has its turn obtains what it obtains for its own shared client. -/
theorem obtainsIn?_proceed (outside : Outside N A) (shared number : Nat) (label : String)
    (config : Config) (w : World N A) :
    outside.obtainsIn? shared (.proceed number label config) w =
      if number = shared then outside.obtainsInTurn? shared label config w else none := by
  by_cases hn : number = shared
  · subst hn
    cases hs : w.shared? number <;>
      simp [Outside.obtainsIn?, turnOf?, Outside.obtainsInTurn?, hs]
  · simp [Outside.obtainsIn?, turnOf?, hn]

/-- An initialization that is called for has its turn at once if nobody holds the lock. -/
theorem obtainsIn?_setUp (outside : Outside N A) (shared number : Nat) (label : String)
    (config : Config) (w : World N A) :
    outside.obtainsIn? shared (.setUp number label config) w =
      if number = shared ∧ (w.shared? shared).isSome = true ∧ w.isLocked shared = false then
        outside.obtainsInTurn? shared label config (w.lock shared)
      else none := by
  unfold Outside.obtainsIn? turnOf?
  dsimp only
  by_cases hturn : number = shared ∧ (w.shared? shared).isSome = true ∧ w.isLocked shared = false
  · simp only [if_pos hturn]
  · simp only [if_neg hturn]

namespace Passes

variable {shared : Nat} {on : Bool} {outside : Outside N A}
  (htell : ∀ callback notice w, Abides shared on w (outside.tell callback notice w).1)

include htell

/-- What the native layer is asked about a client that is made. -/
theorem asks (requester : Requester) (config : Config) (w : World N A) :
    Passes shared on w (outside.asks requester config w).1 :=
  (beside (.addClient requester config w)).trans (request htell
    (.create config.clientId config.host config.port config.options.usesTls) _)

theorem start (requester : Requester) (config : Config) (w : World N A) :
    Passes shared on w (outside.start requester config w).1 :=
  composable.start (beside (.count .initFailed w)) (asks htell requester config w)
    (beside (.fail _ _)) (beside (.modifyCreation _ _ fun _ => rfl))

/-- The client of a shared client is dropped. -/
theorem drop (number : Nat) (config : Option Config) (w : World N A) :
    Passes shared on w (outside.drop number config w) :=
  composable.drop (beside (.modifyShared number w fun _ => ⟨rfl, rfl, .inr rfl⟩))
    fun client v _ => remove htell client v

/-- A construction that begins is for whoever wanted it, whatever happens meanwhile. -/
theorem requester_start {requester : Requester} {config : Config} {w v : World N A}
    {creation : Nat} (h : outside.start requester config w = (v, some creation)) :
    ∃ c, v.store.creations[creation]? = some c ∧ c.requester = requester := by
  obtain ⟨rfl, rfl⟩ := Outside.start_some h
  obtain ⟨listener, hcreations⟩ := w.creations_addClient requester config
  have hasked : Lasting (w.addClient requester config).1 (outside.asks requester config w).1 :=
    lasting_request htell _ _
  obtain ⟨c, hc, hrequester, -⟩ := hasked.creations w.store.creations.length _
    (by rw [hcreations]; exact List.getElem?_concat_length)
  generalize (outside.asks requester config w).1 = u at hc ⊢
  refine ⟨{ c with due := u.store.patience.map (u.store.now + ·) }, ?_, hrequester⟩
  simp [limit, update, System.modifyCreation, hc]

end Passes

namespace Obtains

variable {shared : Nat} {on : Bool} {outside : Outside N A}
  (htell : ∀ callback notice w, Abides shared on w (outside.tell callback notice w).1)

include htell

/-- A client is made, as far as it goes at once. -/
theorem create (requester : Requester) (config : Config) (w : World N A) :
    Obtains shared on w
      (if requester.isOf shared then outside.creates? requester config w else none).toList
      (outside.create requester config w).1 := by
  have hstart := Passes.start htell requester config w
  rcases hv : outside.start requester config w with ⟨v, _ | creation⟩
  · rw [hv] at hstart
    have hended : SameRoster shared v (v.finish requester none) := .finish (fun _ => rfl) v
    have hfailed := Obtains.trans hstart (Passes.beside hended)
    simpa [Outside.create, Outside.creates?, hv] using hfailed
  · rw [hv] at hstart
    obtain ⟨c, hc, hrequester⟩ := Passes.requester_start htell hv
    have hobtained : v.obtainsFrom? shared creation = if requester.isOf shared = true then
        v.handsOver? creation else none := by
      simp only [obtainsFrom?, constructs?, hc, hrequester, Option.bind_some]
      cases requester.isOf shared with
      | false => simp
      | true =>
        cases hended : c.ended with
        | false => simp
        | true => simp [handsOver?, look_of_ended creation v c hc hended]
    have hlooked := Obtains.trans hstart (await creation v)
    simpa [Outside.create, Outside.creates?, hobtained, hv] using hlooked

/-- An initialization has its turn. -/
theorem proceed (number : Nat) (label : String) (config : Config) (w : World N A) :
    Obtains shared on w (outside.obtainsIn? shared (.proceed number label config) w).toList
      (outside.proceed number label config w).1 := by
  rw [obtainsIn?_proceed]
  cases hs : w.shared? number with
  | none =>
    have hnone : (if number = shared then outside.obtainsInTurn? shared label config w else none) =
        none := by
      split
      · next hn => simp [← hn, Outside.obtainsInTurn?, hs]
      · rfl
    rw [hnone, show outside.proceed number label config w = (w, none) by
      simp only [Outside.proceed, hs]]
    exact Passes.refl w
  | some s =>
    cases ho : w.offers number config with
    | true =>
      obtain ⟨hsome, -⟩ := Bool.and_eq_true_iff.1 ho
      obtain ⟨client, hclient⟩ := Option.isSome_iff_exists.1 hsome
      have hnone : (if number = shared then outside.obtainsInTurn? shared label config w
          else none) = none := by
        split
        · next hn => simp [← hn, Outside.obtainsInTurn?, ho]
        · rfl
      rw [hnone, outside.proceed_of_offers ho hclient]
      exact Passes.beside
        (((SameRoster.unlock number w).trans (.note _ _)).trans (.hold label client _))
    | false =>
      have hobtained : (if number = shared then outside.obtainsInTurn? shared label config w
          else none) = if (Requester.shared number label).isOf shared then
            outside.creates? (.shared number label) config
              (outside.drop number (some config) w) else none := by
        simp only [Requester.isOf, beq_iff_eq]
        split
        · next hn => simp [← hn, Outside.obtainsInTurn?, hs, ho]
        · rfl
      rw [hobtained, outside.proceed_of_not_offers hs ho]
      exact Obtains.trans (Passes.drop htell number (some config) w)
        (create htell (.shared number label) config _)

/-- An initialization is called for, and has its turn or waits for it. -/
theorem setUp (number : Nat) (label : String) (config : Config) (w : World N A) :
    Obtains shared on w (outside.obtainsIn? shared (.setUp number label config) w).toList
      (outside.setUp number label config w).1 := by
  have hmodify {f : Shared → Shared} (hf : ∀ h, (f h).registrations = h.registrations ∧
      (f h).nextId = h.nextId ∧ (f h).client = h.client) :
      SameRoster shared w (w.update (·.modifyShared number f)) :=
    .modifyShared number w fun h => ⟨(hf h).1, (hf h).2.1, .inl (hf h).2.2⟩
  rw [obtainsIn?_setUp]
  cases hs : w.shared? number with
  | none =>
    rw [if_neg, show outside.setUp number label config w = (w, none) by
      simp only [Outside.setUp, hs]]
    · exact Passes.refl w
    · rintro ⟨rfl, hsome, -⟩
      simp [hs] at hsome
  | some s =>
    cases hlocked : s.locked with
    | true =>
      rw [if_neg]
      · simp only [Outside.setUp, hs, hlocked, if_true]
        exact Passes.beside (hmodify fun _ => ⟨rfl, rfl, rfl⟩)
      · rintro ⟨rfl, -, hfree⟩
        simp [isLocked, hs, hlocked] at hfree
    | false =>
      have hsetUp : outside.setUp number label config w =
          outside.proceed number label config (w.lock number) := by
        simp only [Outside.setUp, hs, hlocked, Bool.false_eq_true, if_false]
        rfl
      have hlock : SameRoster shared w (w.lock number) := hmodify fun _ => ⟨rfl, rfl, rfl⟩
      have hturn : (if number = shared ∧ (w.shared? shared).isSome = true ∧
          w.isLocked shared = false then
            outside.obtainsInTurn? shared label config (w.lock shared) else none) =
          outside.obtainsIn? shared (.proceed number label config) (w.lock number) := by
        rw [obtainsIn?_proceed]
        by_cases hn : number = shared
        · subst hn
          simp [isLocked, hs, hlocked]
        · simp [hn]
      rw [hturn, hsetUp]
      exact Obtains.trans (Passes.beside hlock) (proceed htell number label config _)

end Obtains

end World

namespace Surroundings

/-! ## Tasks -/

section Tasks

variable {x : Surroundings N A} {shared : Nat} {on : Bool} (hx : x.KeepsTo (Abides shared on))

include hx

end Tasks

end Surroundings

/-! ## Occasions and runs -/

/-- What the application does by itself to the registrations with a shared client. -/
def Occasion.deed? (shared : Nat) (o : Occasion N A) (w : World N A) : Option Deed :=
  match o with
  | .happening (.register number interest callback) _ =>
    if number = shared ∧ (w.shared? shared).isSome = true then
      some (.enrols (w.enrolment shared interest callback))
    else none
  | .happening (.deregister number id) _ =>
    if number = shared ∧ w.store.sharedIsHeld shared = true then some (.strikes id) else none
  | _ => none

namespace Surroundings

/-- The deeds of a run: those that the application does by itself are among them, and the clients
that are obtained are those that the shared client obtains. -/
structure Records (x : Surroundings N A) (shared : Nat) (run : List (Occasion N A))
    (w : World N A) (deeds : List Deed) : Prop where
  course : Course shared w deeds (x.meetAll run w)
  obtained : Deed.obtained deeds = x.obtained shared run w
  direct : (x.gather (Occasion.deed? shared) run w).Sublist deeds

section Runs

variable {x : Surroundings N A} {shared : Nat} {on : Bool} (hx : x.KeepsTo (Abides shared on))

include hx

end Runs

end Surroundings

end MqttRelay.Client
