import MqttRelay.Proofs.Client.Courses
import MqttRelay.Proofs.Router.Listening

/-!
# The book of registrations

The deeds of a run make up a book: which callbacks were registered with a shared client and not
removed since, in order of registration, and which client each of them was attached to. A callback
that is registered while a client is held is attached to it at once; all others wait, and are
attached to the client that is obtained next. The shared client and the router agree with the book
at every moment of every run.

Results:
* `Agree.attachTo`: those that wait are attached, and agree with the book in which they settled.
* `Booked.course`: the registrations and their listeners agree with the book, whatever happens.
-/

namespace MqttRelay.Client

open Native

variable {N A : Type}

namespace Enrolment

/-- The event by which a callback is told of a client. -/
def event (e : Enrolment) (home : Home) : String :=
  (Event.Key.client home.clientId e.interest.event).name

/-- What listens for a client on behalf of a callback. -/
def listener (e : Enrolment) (home : Home) (id : Nat) : Listener Handler :=
  ⟨id, some e.interest.event, .tell e.interest home.client e.callback⟩

/-- The registration of a callback that waits. -/
def waiting (e : Enrolment) : Nat × Registration := (e.id, .queued e.interest e.callback)

/-- The registration of a callback that is attached to a client. -/
def attached (e : Enrolment) (home : Home) (id : Nat) : Nat × Registration :=
  (e.id, .attached ⟨id, e.event home⟩)

/-- Whoever has no home finds one. -/
def settle (home : Home) (e : Enrolment) : Enrolment := { e with home := some (e.home.getD home) }

theorem settle_of_some {home home' : Home} {e : Enrolment} (h : e.home = some home') :
    e.settle home = e := by
  cases e
  cases h
  rfl

end Enrolment

namespace Deed

/-- A deed is entered in the book. -/
def enter (book : List Enrolment) : Deed → List Enrolment
  | enrols e => book ++ [e]
  | strikes id => book.filter (·.id != id)
  | attaches home => book.map (·.settle home)
  | hushes _ => book

/-- The book of some deeds. -/
def book (deeds : List Deed) : List Enrolment := deeds.foldl enter []

theorem book_append (ds es : List Deed) : book (ds ++ es) = es.foldl enter (book ds) :=
  List.foldl_append

end Deed

/-! ## Registrations and the book -/

namespace Enrolment

variable {r : Router Handler} {home : Home}

/-- A registration is that of a callback in the book: it waits, or its listener attends to the event
of the client that it is attached to. -/
def Stands (r : Router Handler) (reg : Nat × Registration) (e : Enrolment) : Prop :=
  match e.home with
  | none => reg = e.waiting
  | some home => ∃ id, reg = e.attached home id ∧ r.Attends (e.event home) (e.listener home id)

theorem Stands.id_eq {reg : Nat × Registration} {e : Enrolment} (h : e.Stands r reg) :
    reg.1 = e.id := by
  unfold Stands at h
  split at h
  · rw [h]
    rfl
  · obtain ⟨id, rfl, -⟩ := h
    rfl

theorem Stands.after {reg : Nat × Registration} {e : Enrolment} (h : e.Stands r reg)
    (changes : List (Router.Change Handler)) : e.Stands (r.after changes) reg := by
  unfold Stands at h ⊢
  split at h
  · exact h
  · obtain ⟨id, hreg, hattends⟩ := h
    exact ⟨id, hreg, hattends.after changes⟩

/-- A callback that is attached to a client stands by a new listener. -/
theorem stands_addKey (hr : r.Regular) (e : Enrolment) (he : e.home = some home) :
    let added := r.addKey (.client home.clientId e.interest.event)
      (.tell e.interest home.client e.callback)
    e.Stands added.1 (e.id, .attached added.2) := by
  intro added
  simp only [Stands, he]
  exact ⟨r.nextId, rfl, hr.attends_add _ _ _⟩

end Enrolment

/-- The registrations of callbacks agree with a book of them. -/
def Agree (r : Router Handler) (rs : List (Nat × Registration)) (book : List Enrolment) : Prop :=
  List.Forall₂ (fun reg e => e.Stands r reg) rs book

/-- Two registrations do not have the same listener. -/
def Apart (a b : Nat × Registration) : Prop :=
  ∀ h k, a.2 = .attached h → b.2 = .attached k → h.id ≠ k.id

instance : Std.Symm Apart := ⟨fun _ _ h k k' hk hk' => (h k' k hk' hk).symm⟩

section Attaching

variable {home : Home} {r : Router Handler} {rs : List (Nat × Registration)}
  {book : List Enrolment}

theorem Agree.after (h : Agree r rs book) (changes : List (Router.Change Handler)) :
    Agree (r.after changes) rs book := h.imp fun _ _ hs => hs.after changes

theorem Agree.ids (h : Agree r rs book) : rs.map (·.1) = book.map (·.id) := by
  induction h with
  | nil => rfl
  | cons hs _ ih => rw [List.map_cons, List.map_cons, hs.id_eq, ih]

theorem Agree.exists_of_mem (h : Agree r rs book) {e : Enrolment} (he : e ∈ book) :
    ∃ reg ∈ rs, e.Stands r reg := by
  induction h with
  | nil => cases he
  | @cons reg _ _ _ hs _ ih =>
    rcases List.mem_cons.1 he with rfl | he
    · exact ⟨reg, List.mem_cons_self, hs⟩
    · obtain ⟨reg, hreg, hs⟩ := ih he
      exact ⟨reg, List.mem_cons_of_mem _ hreg, hs⟩

/-- Numbers of listeners were given out. -/
theorem Agree.lt (h : Agree r rs book) : ∀ reg ∈ rs, ∀ handle, reg.2 = .attached handle →
    handle.id < r.nextId := by
  induction h with
  | nil => exact nofun
  | @cons reg e rs book hs _ ih =>
    refine List.forall_mem_cons.2 ⟨fun handle hh => ?_, ih⟩
    unfold Enrolment.Stands at hs
    split at hs
    · rw [hs] at hh
      cases hh
    · obtain ⟨id, rfl, hattends⟩ := hs
      cases hh
      exact hattends.lt

/-- Those that wait are attached, and the others stay where they are. -/
theorem Agree.attachTo (home : Home) (hr : r.Regular) (h : Agree r rs book) :
    Agree (attachTo home r rs).1 (attachTo home r rs).2 (book.map (·.settle home)) := by
  induction rs generalizing r book with
  | nil =>
    cases h
    exact .nil
  | cons reg rs ih =>
    obtain ⟨e, book, hs, htail, rfl⟩ := List.forall₂_cons_left_iff.1 h
    unfold Enrolment.Stands at hs
    split at hs
    · next hnone =>
      -- A new listener is added, and then the rest are attached.
      subst hs
      let added := r.addKey (.client home.clientId e.interest.event)
        (.tell e.interest home.client e.callback)
      have hregular : added.1.Regular := hr.change (.add _ (some _) _)
      have hold : Agree added.1 rs book := Agree.after htail [.add _ (some _) _]
      obtain ⟨changes, -, hrest⟩ := attachTo_adds home added.1 rs
      have hnew : (e.settle home).Stands added.1 (e.id, .attached added.2) :=
        Enrolment.stands_addKey hr (e.settle home) (by simp [Enrolment.settle, hnone])
      have hnew := hnew.after changes
      rw [← hrest] at hnew
      exact .cons hnew (ih hregular hold)
    · next home' hsome =>
      obtain ⟨id, rfl, hattends⟩ := hs
      obtain ⟨changes, -, hrest⟩ := attachTo_adds home r rs
      have hsame : e.settle home = e := Enrolment.settle_of_some hsome
      have hold : (e.settle home).Stands (MqttRelay.Client.attachTo home r rs).1
          (e.attached home' id) := by
        rw [hsame, hrest]
        simp only [Enrolment.Stands, hsome]
        exact ⟨id, rfl, hattends.after changes⟩
      exact .cons hold (ih hr htail)

/-- Whoever is attached stays so. -/
theorem mem_attachTo {id : Nat} {handle : Router.Handle} (h : (id, .attached handle) ∈ rs) :
    (id, .attached handle) ∈ (attachTo home r rs).2 := by
  induction rs generalizing r with
  | nil => cases h
  | cons reg rs ih =>
    obtain ⟨id', ⟨interest, callback⟩ | handle'⟩ := reg
    · exact List.mem_cons_of_mem _ (ih ((List.mem_cons.1 h).resolve_left nofun))
    · rcases List.mem_cons.1 h with h | h
      · rw [h]
        exact List.mem_cons_self
      · exact List.mem_cons_of_mem _ (ih h)

theorem pairwise_attachTo (h : rs.Pairwise Apart)
    (hlt : ∀ reg ∈ rs, ∀ handle, reg.2 = .attached handle → handle.id < r.nextId) :
    (attachTo home r rs).2.Pairwise Apart := by
  induction rs generalizing r with
  | nil => exact .nil
  | cons reg rs ih =>
    obtain ⟨hfirst, hrest⟩ := List.pairwise_cons.1 h
    obtain ⟨hhead, htail⟩ := List.forall_mem_cons.1 hlt
    obtain ⟨id, ⟨interest, callback⟩ | handle⟩ := reg
    · refine .cons (fun reg hreg => ?_) (ih hrest fun reg hreg k hk =>
        Nat.lt_succ_of_lt (htail reg hreg k hk))
      rintro _ k ⟨⟩ hk
      rcases attached_attachTo hreg hk with hold | ⟨hnew, -⟩
      · exact Nat.ne_of_gt (htail reg hold k hk)
      · exact Nat.ne_of_lt hnew
    · refine .cons (fun reg hreg => ?_) (ih hrest htail)
      rintro _ k ⟨⟩ hk
      rcases attached_attachTo hreg hk with hold | ⟨hnew, -⟩
      · exact hfirst reg hold handle k rfl hk
      · exact Nat.ne_of_lt (Nat.lt_of_lt_of_le (hhead handle rfl) hnew)

end Attaching

namespace World

/-- The registrations with a shared client agree with the book, every one has a number and a
listener of its own, and while a client is held nobody waits. -/
structure Booked (shared : Nat) (book : List Enrolment) (w : World N A) : Prop where
  regular : w.router.Regular
  agree : Agree w.router (w.registrations shared) book
  apart : (w.registrations shared).Pairwise Apart
  increasing : book.Pairwise (·.id < ·.id)
  lt : ∀ e ∈ book, e.id < w.nextRegistration shared
  settled : (w.sharedClient? shared).isSome = true → ∀ e ∈ book, e.home.isSome = true

namespace Booked

variable {shared : Nat} {book : List Enrolment} {w after : World N A}

theorem of_unused (h : Unused w) : Booked shared [] w := by
  have hnone : w.registrations shared = [] := by simp [registrations, shared?, h.shareds]
  refine ⟨?_, ?_, ?_, .nil, List.forall_mem_nil _, fun _ => List.forall_mem_nil _⟩
  · rw [h.router]
    exact Router.regular_empty
  · rw [hnone]
    exact .nil
  · rw [hnone]
    exact .nil

theorem same (h : Booked shared book w) (hs : SameRegistrations shared w after) :
    Booked shared book after := by
  obtain ⟨changes, hrouter⟩ := hs.router
  refine ⟨?_, ?_, ?_, h.increasing, ?_, fun hsome => ?_⟩
  · rw [hrouter]
    exact h.regular.after changes
  · rw [hrouter, hs.registrations]
    exact h.agree.after changes
  · rw [hs.registrations]
    exact h.apart
  · rw [hs.next]
    exact h.lt
  · refine h.settled ?_
    rcases hs.client with hsame | hnone
    · rwa [← hsame]
    · rw [hnone] at hsome
      cases hsome

/-- A callback is registered. -/
theorem register (h : Booked shared book w) (hthere : (w.shared? shared).isSome = true)
    (interest : Interest) (callback : Nat) :
    Booked shared (book ++ [w.enrolment shared interest callback])
      (w.register shared interest callback).1 := by
  have hid := enrolment_id hthere interest callback
  have hincreasing : (book ++ [w.enrolment shared interest callback]).Pairwise (·.id < ·.id) := by
    refine List.pairwise_append.2 ⟨h.increasing, List.pairwise_singleton .., fun e he f hf => ?_⟩
    rw [List.mem_singleton.1 hf, hid]
    exact h.lt e he
  have hlt : ∀ e ∈ book ++ [w.enrolment shared interest callback],
      e.id < w.nextRegistration shared + 1 := by
    intro e he
    rcases List.mem_append.1 he with he | he
    · exact Nat.lt_succ_of_lt (h.lt e he)
    · rw [List.mem_singleton.1 he, hid]
      exact Nat.lt_succ_self _
  cases hclient : w.sharedClient? shared with
  | none =>
    obtain ⟨hrouter, hregs, hnext, hnone⟩ := register_of_none hthere hclient interest callback
    have hnew : (w.enrolment shared interest callback).Stands w.router
        (w.nextRegistration shared, .queued interest callback) := by
      have hhome : (w.enrolment shared interest callback).home = none := by
        simp [enrolment, hclient]
      simp only [Enrolment.Stands, hhome, ← hid]
      rfl
    refine ⟨?_, ?_, ?_, hincreasing, by rwa [hnext], ?_⟩
    · rw [hrouter]
      exact h.regular
    · rw [hrouter, hregs]
      exact List.rel_append h.agree (.cons hnew .nil)
    · rw [hregs]
      refine List.pairwise_append.2 ⟨h.apart, List.pairwise_singleton .., fun _ _ reg hreg => ?_⟩
      rw [List.mem_singleton.1 hreg]
      intro _ _ _ hattached
      cases hattached
    · rw [hnone]
      intro hsome
      cases hsome
  | some client =>
    obtain ⟨hrouter, hregs, hnext, hsome⟩ := register_of_some hclient interest callback
    have hhome : (w.enrolment shared interest callback).home = some (w.home client) := by
      simp [enrolment, hclient]
    have hnew := Enrolment.stands_addKey h.regular _ hhome
    refine ⟨?_, ?_, ?_, hincreasing, by rwa [hnext], fun _ e he => ?_⟩
    · rw [hrouter]
      exact h.regular.change (.add _ (some _) _)
    · rw [hrouter, hregs]
      rw [hid] at hnew
      exact List.rel_append (h.agree.after [.add _ (some _) _]) (.cons hnew .nil)
    · rw [hregs]
      refine List.pairwise_append.2 ⟨h.apart, List.pairwise_singleton .., fun a ha reg hreg => ?_⟩
      rw [List.mem_singleton.1 hreg]
      rintro handle _ hhandle ⟨⟩
      exact Nat.ne_of_lt (h.agree.lt a ha handle hhandle)
    · rcases List.mem_append.1 he with he | he
      · exact h.settled (by rw [hclient]; rfl) e he
      · rw [List.mem_singleton.1 he, hhome]
        rfl

/-- A registration is removed by its handle. -/
theorem deregister (h : Booked shared book w) (hheld : w.store.sharedIsHeld shared = true)
    (id : Nat) : Booked shared (book.filter (·.id != id)) (w.deregister shared id) := by
  obtain ⟨-, hregs, hnext, hclient⟩ := deregister_spec hheld id
  obtain ⟨changes, hchanges⟩ := (Grows.deregister hheld id).router
  refine ⟨?_, ?_, ?_, h.increasing.filter _, fun e he => ?_, fun hsome e he => ?_⟩
  · rw [hchanges]
    exact h.regular.after changes
  · rw [hchanges, hregs]
    exact List.rel_filter (fun _ _ hs => by simp only [hs.id_eq]) (h.agree.after changes)
  · rw [hregs]
    exact h.apart.filter _
  · rw [hnext]
    exact h.lt e (List.mem_of_mem_filter he)
  · rw [hclient] at hsome
    exact h.settled hsome e (List.mem_of_mem_filter he)

/-- An initialization ends with a client. -/
theorem finish (h : Booked shared book w) (label : String) (client : Nat) :
    Booked shared (book.map (·.settle (w.home client)))
      (w.finish (.shared shared label) (some client)) := by
  obtain ⟨hrouter, hregs, hnext, -⟩ := finish_spec shared label client w
  obtain ⟨changes, -, hchanges⟩ :=
    attachTo_adds (w.home client) w.router (w.registrations shared)
  refine ⟨?_, ?_, ?_, List.pairwise_map.2 h.increasing, fun e he => ?_, fun _ e he => ?_⟩
  · rw [hrouter, hchanges]
    exact h.regular.after changes
  · rw [hrouter, hregs]
    exact h.agree.attachTo _ h.regular
  · rw [hregs]
    exact pairwise_attachTo h.apart h.agree.lt
  · obtain ⟨e', he', rfl⟩ := List.mem_map.1 he
    rw [hnext]
    exact h.lt e' he'
  · obtain ⟨e, -, rfl⟩ := List.mem_map.1 he
    rfl

/-- What a deed does is entered in the book. -/
theorem does (h : Booked shared book w) {d : Deed} (hd : d.Does shared w after) :
    Booked shared (d.enter book) after := by
  cases d with
  | enrols e =>
    obtain ⟨hthere, interest, callback, rfl, rfl⟩ := hd
    exact h.register hthere interest callback
  | strikes id =>
    obtain ⟨hheld, rfl⟩ := hd
    exact h.deregister hheld id
  | attaches home =>
    obtain ⟨label, hhome, rfl⟩ := hd
    have hfinish := h.finish label home.client
    rwa [← hhome] at hfinish
  | hushes _ => exact h.same (sameRegistrations_of_hushes hd)

/-- The registrations agree with the book, whatever happens. -/
theorem course (h : Booked shared book w) {deeds : List Deed} (hc : Course shared w deeds after) :
    Booked shared (deeds.foldl Deed.enter book) after := by
  induction hc generalizing book with
  | beside same => exact h.same same.toSameRegistrations
  | deed same does _ ih => exact ih ((h.same same.toSameRegistrations).does does)

end Booked

/-- The registrations agree with the book of what was done since nothing had happened. -/
theorem Course.booked {shared : Nat} {start w : World N A} {deeds : List Deed}
    (h : Course shared start deeds w) (hstart : Unused start) :
    Booked shared (Deed.book deeds) w := (Booked.of_unused hstart).course h

end World

end MqttRelay.Client
