import MqttRelay.Proofs.Client.Handover

/-!
# How long a callback listens

A callback that was registered with a shared client gets a listener when it is attached to a client,
and the listener is switched on. From then on it is switched off by three things only: the handle of
the registration is used, a client is removed that has the name of its event among its own, or it is
taken away by hand. Nothing else that happens touches it.

* `Deed.silences` — a deed takes a listener away without its registration.

Results:
* `Deed.exists_settled`: whoever is attached was attached by one of the deeds.
* `Course.isActive`: a listener stays on until a deed silences it.
* `Course.hears`: so every callback that is attached has its listener, and listens unless a deed has
  silenced it since.
-/

namespace MqttRelay.Client

open Native World

variable {N A : Type}

/-- Whether a deed takes a listener away, but not the registration that it belongs to. -/
def Deed.silences (event : String) (listener : Nat) : Deed → Bool
  | hushes h => h.changes.any (·.ends event listener)
  | _ => false

/-- Whoever is attached to a client was attached when it was registered, or when the client was
obtained that it waited for. -/
theorem Deed.exists_settled {deeds : List Deed} {e : Enrolment} (he : e ∈ book deeds) {home : Home}
    (hhome : e.home = some home) :
    ∃ before d since, deeds = before ++ d :: since ∧ .strikes e.id ∉ since ∧
      (d = .enrols e ∨ d = .attaches home ∧ ∃ e' ∈ book before, e'.home = none ∧
        e'.settle home = e) := by
  induction deeds using List.reverseRecOn generalizing e with
  | nil => cases he
  | append_singleton deeds d ih =>
    rw [book_append] at he
    -- One more deed comes after that by which it was attached, unless it is this one.
    have hlater (hold : e ∈ book deeds) (hne : d ≠ .strikes e.id) :
        ∃ before d' since, deeds ++ [d] = before ++ d' :: since ∧ .strikes e.id ∉ since ∧
          (d' = .enrols e ∨ d' = .attaches home ∧ ∃ e' ∈ book before, e'.home = none ∧
            e'.settle home = e) := by
      obtain ⟨before, d', since, rfl, hkept, hd'⟩ := ih hold hhome
      refine ⟨before, d', since ++ [d], by simp, ?_, hd'⟩
      simp [hkept, hne.symm]
    cases d with
    | enrols e' =>
      rcases List.mem_append.1 he with hold | hnew
      · exact hlater hold (by simp)
      · obtain rfl := List.mem_singleton.1 hnew
        exact ⟨deeds, _, [], rfl, List.not_mem_nil, .inl rfl⟩
    | strikes id =>
      obtain ⟨hold, hid⟩ := List.mem_filter.1 he
      refine hlater hold ?_
      rintro ⟨⟩
      simp at hid
    | attaches home' =>
      obtain ⟨e', he', rfl⟩ := List.mem_map.1 he
      cases hwaits : e'.home with
      | some home'' =>
        rw [Enrolment.settle_of_some hwaits] at hhome hlater ⊢
        exact hlater he' (by simp)
      | none =>
        obtain rfl : home' = home := by simpa [Enrolment.settle, hwaits] using hhome
        exact ⟨deeds, _, [], rfl, List.not_mem_nil, .inr ⟨rfl, e', he', hwaits, rfl⟩⟩
    | hushes h => exact hlater he (by simp)

section Attaching

variable {home : Home} {r : Router Handler}

/-- Who waits gets a listener that is switched on. -/
theorem attachTo_of_waiting (hr : r.Regular) {rs : List (Nat × Registration)} {e : Enrolment}
    (he : e.waiting ∈ rs) : ∃ n, e.attached home n ∈ (attachTo home r rs).2 ∧
      (attachTo home r rs).1.Attends (e.event home) (e.listener home n) ∧
      (attachTo home r rs).1.isActive n = true := by
  induction rs generalizing r with
  | nil => cases he
  | cons reg rs ih =>
    rcases List.mem_cons.1 he with rfl | htail
    · let added := r.addKey (.client home.clientId e.interest.event)
        (.tell e.interest home.client e.callback)
      have hattends : added.1.Attends (e.event home) (e.listener home r.nextId) :=
        hr.attends_add _ _ _
      obtain ⟨changes, hadds, hrest⟩ := attachTo_adds home added.1 rs
      refine ⟨r.nextId, List.mem_cons_self, ?_, ?_⟩
      · exact hrest ▸ hattends.after changes
      · have hon : added.1.isActive r.nextId = true := (hr.stands_add _ _ _).2
        exact (congrArg (·.isActive r.nextId) hrest).trans
          ((Router.isActive_adds hattends.lt hadds).trans hon)
    · obtain ⟨id, ⟨interest, callback⟩ | handle⟩ := reg
      · obtain ⟨n, hn, hrest⟩ := ih (r := (r.addKey (.client home.clientId interest.event)
          (.tell interest home.client callback)).1) (hr.change (.add _ (some _) _)) htail
        exact ⟨n, List.mem_cons_of_mem _ hn, hrest⟩
      · obtain ⟨n, hn, hrest⟩ := ih hr htail
        exact ⟨n, List.mem_cons_of_mem _ hn, hrest⟩

end Attaching

namespace World

variable {shared : Nat} {w after : World N A} {book : List Enrolment}

/-- Whoever is attached by a deed has a listener that is switched on. -/
theorem Booked.attached_of_does (h : Booked shared book w) {d : Deed}
    (hd : d.Does shared w after) {e : Enrolment} {home : Home} (hhome : e.home = some home)
    (hsettled : d = .enrols e ∨ d = .attaches home ∧ e.waiting ∈ w.registrations shared) :
    ∃ n, e.attached home n ∈ after.registrations shared ∧
      after.router.Attends (e.event home) (e.listener home n) ∧
      after.router.isActive n = true := by
  rcases hsettled with rfl | ⟨rfl, hwaits⟩
  · obtain ⟨hthere, interest, callback, rfl, rfl⟩ := hd
    obtain ⟨client, hclient, rfl⟩ := Option.map_eq_some_iff.1 hhome
    obtain ⟨hrouter, hregs, -⟩ := register_of_some hclient interest callback
    have hid : (w.enrolment shared interest callback).id = w.nextRegistration shared :=
      enrolment_id hthere interest callback
    refine ⟨w.router.nextId, ?_, ?_, ?_⟩
    · rw [hregs, Enrolment.attached, hid]
      exact List.mem_append_right _ (List.mem_singleton.2 rfl)
    · rw [hrouter]
      exact h.regular.attends_add _ _ _
    · rw [hrouter]
      exact (h.regular.stands_add _ _ _).2
  · obtain ⟨label, hsame, rfl⟩ := hd
    obtain ⟨hrouter, hregs, -⟩ := finish_spec shared label home.client w
    rw [← hsame] at hrouter hregs
    rw [hrouter, hregs]
    exact attachTo_of_waiting h.regular hwaits

/-- A deed leaves a listener as it is, unless it silences it or strikes its registration. -/
theorem Booked.isActive_does (h : Booked shared book w) {d : Deed} (hd : d.Does shared w after)
    {e : Enrolment} {home : Home} {n : Nat} (hreg : e.attached home n ∈ w.registrations shared)
    (hattends : w.router.Attends (e.event home) (e.listener home n)) (hkept : d ≠ .strikes e.id) :
    after.router.isActive n = (w.router.isActive n && !d.silences (e.event home) n) := by
  have hsame (hafter : after.router.isActive n = w.router.isActive n)
      (hnot : d.silences (e.event home) n = false) :
      after.router.isActive n = (w.router.isActive n && !d.silences (e.event home) n) := by
    rw [hafter, hnot, Bool.not_false, Bool.and_true]
  cases d with
  | enrols e' =>
    obtain ⟨hthere, interest, callback, -, rfl⟩ := hd
    refine hsame ?_ rfl
    cases hclient : w.sharedClient? shared with
    | none => rw [(register_of_none hthere hclient interest callback).1]
    | some client =>
      rw [(register_of_some hclient interest callback).1]
      exact Router.isActive_add hattends.lt _ _ _
  | strikes id =>
    obtain ⟨hheld, rfl⟩ := hd
    refine hsame ?_ rfl
    rw [(deregister_spec hheld id).1]
    split
    · next other handle hfound =>
      -- Another registration has another listener.
      have hother := List.mem_of_find?_eq_some hfound
      have hid : other = id := by simpa using List.find?_some hfound
      refine Router.isActive_remove_of_ne ?_
      have hid' (heq : e.attached home n = (other, .attached handle)) : e.id = id :=
        (congrArg Prod.fst heq).trans hid
      exact h.apart.forall hreg hother (fun heq => hkept (by rw [hid' heq])) ⟨n, _⟩ handle rfl rfl
    · rfl
  | attaches home' =>
    obtain ⟨label, -, rfl⟩ := hd
    obtain ⟨changes, hadds, hrouter⟩ :=
      attachTo_adds (w.home home'.client) w.router (w.registrations shared)
    refine hsame ?_ rfl
    rw [(finish_spec shared label home'.client w).1, hrouter]
    exact Router.isActive_adds hattends.lt hadds
  | hushes h =>
    obtain ⟨-, rfl⟩ := hd
    exact hattends.isActive_after h.changes

/-- A listener stays on until a deed silences it, as long as its registration is not removed. -/
theorem Course.isActive {deeds : List Deed} (hc : Course shared w deeds after)
    (h : Booked shared book w) (hseparate : w.Separate shared) {e : Enrolment} {home : Home}
    {n : Nat} (hreg : e.attached home n ∈ w.registrations shared)
    (hattends : w.router.Attends (e.event home) (e.listener home n))
    (hkept : .strikes e.id ∉ deeds) :
    after.router.isActive n =
      (w.router.isActive n && !deeds.any (·.silences (e.event home) n)) := by
  induction hc generalizing book with
  | beside same => simpa using same.active hseparate _ _ hreg
  | @deed w v u after d deeds same does _ ih =>
    obtain ⟨hd, hrest⟩ := not_or.1 fun hmem => hkept (List.mem_cons.2 hmem)
    obtain ⟨changes, hrouter⟩ := same.router
    obtain ⟨changes', hrouter'⟩ := (Grows.does does).router
    have hv : v.router.isActive n = w.router.isActive n := same.active hseparate _ _ hreg
    have hbooked := h.same same.toSameRegistrations
    have hregv : e.attached home n ∈ v.registrations shared := by rwa [same.registrations]
    have hattendsv : v.router.Attends (e.event home) (e.listener home n) :=
      hrouter ▸ hattends.after changes
    have hattendsu : u.router.Attends (e.event home) (e.listener home n) :=
      hrouter' ▸ hattendsv.after changes'
    have hregu : e.attached home n ∈ u.registrations shared :=
      (Course.does does).mem_attached hregv fun hmem => hd (List.mem_singleton.1 hmem)
    have hstep := hbooked.isActive_does does hregv hattendsv fun heq => hd heq.symm
    rw [ih (hbooked.does does) ((Grows.does does).separate (same.separate hseparate)) hregu
      hattendsu hrest, hstep, hv, List.any_cons, Bool.not_or, Bool.and_assoc]

/-- Every callback that is attached got a listener by one of the deeds, and listens unless a deed
has silenced it since. -/
theorem Course.hears {start : World N A} {deeds : List Deed} (hc : Course shared start deeds w)
    (hstart : Unused start) {e : Enrolment} (he : e ∈ Deed.book deeds) {home : Home}
    (hhome : e.home = some home) :
    ∃ before d since n, deeds = before ++ d :: since ∧ (d = .enrols e ∨ d = .attaches home) ∧
      e.attached home n ∈ w.registrations shared ∧
      w.router.Attends (e.event home) (e.listener home n) ∧
      w.router.isActive n = !since.any (·.silences (e.event home) n) := by
  obtain ⟨before, d, since, rfl, hkept, hd⟩ := Deed.exists_settled he hhome
  obtain ⟨v, u, hv, hdoes, hu⟩ := hc.split
  have hbooked := hv.booked hstart
  have hsettled : d = .enrols e ∨ d = .attaches home ∧ e.waiting ∈ v.registrations shared := by
    refine hd.imp_right fun ⟨hd, e', he', hwaits, hsettle⟩ => ⟨hd, ?_⟩
    obtain ⟨reg, hreg, hs⟩ := hbooked.agree.exists_of_mem he'
    simp only [Enrolment.Stands, hwaits] at hs
    rw [← hsettle]
    exact hs ▸ hreg
  obtain ⟨n, hreg, hattends, hactive⟩ := hbooked.attached_of_does hdoes hhome hsettled
  have hseparate := (Grows.does hdoes).separate (hv.separate (.of_unused hstart))
  obtain ⟨changes, hrouter⟩ := hu.router
  refine ⟨before, d, since, n, rfl, hd.imp_right And.left, hu.mem_attached hreg hkept, ?_, ?_⟩
  · exact hrouter ▸ hattends.after changes
  · rw [hu.isActive (hbooked.does hdoes) hseparate hreg hattends hkept, hactive, Bool.true_and]

end World

end MqttRelay.Client
