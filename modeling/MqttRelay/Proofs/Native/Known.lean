import MqttRelay.Proofs.Assoc
import MqttRelay.Proofs.Native.Run

/-!
# Who is known

Two tables say which clients there are. Callers look into the table of standings, which a
creation enters at the time of the request and a removal leaves at the time at which it is
carried out; the worker has its slots, which both change when they are carried out. A client
that is created anew while its removal still waits keeps its old standing, and loses it with
the removal.

Results:
* `Adapter.knows_iff_holds_of_idle`: whenever no request waits, the worker holds a slot exactly
  for the clients whose last creation came after their last removal, and each of them is known
  unless that creation was requested while a removal of the same client waited.
* `Adapter.recreated_client_is_unknown`: a client that is removed and created at once has a slot
  and is not known.
-/

namespace MqttRelay.Native

/-- Whether the worker holds a slot of a client when the request was carried out, if it was
held or not before. -/
def Request.leaves (clientId : String) (held : Bool) : Request → Bool
  | create id .. => held || id == clientId
  | remove id => held && id != clientId
  | _ => held

/-- Whether a request is a creation of the client. -/
def Request.creates (clientId : String) : Request → Bool
  | create id .. => id == clientId
  | _ => false

namespace Request

theorem creates_iff {clientId : String} {r : Request} :
    r.creates clientId = true ↔ ∃ host port tls, r = create clientId host port tls := by
  cases r <;> simp [creates]

theorem leaves_of_creates {clientId : String} {r : Request} (h : r.creates clientId = true)
    (held : Bool) : r.leaves clientId held = true := by
  obtain ⟨host, port, tls, rfl⟩ := creates_iff.1 h
  simp [leaves]

theorem leaves_remove (clientId : String) (held : Bool) :
    (remove clientId).leaves clientId held = false := by simp [leaves]

/-- Only creations and removals of a client change whether the worker holds a slot of it. -/
theorem leaves_of_other {clientId : String} {r : Request} (hc : r.creates clientId = false)
    (hr : r ≠ remove clientId) (held : Bool) : r.leaves clientId held = held := by
  cases r <;> simp_all [leaves, creates]

end Request

namespace Adapter

/-- Whether the worker holds a slot of a client. -/
def holds (a : Adapter) (clientId : String) : Bool := a.slots.contains clientId

/-! ## What leaves the clients alone -/

/-- The same clients are known and have slots, and the same requests wait for the worker. -/
structure SameClients (a b : Adapter) : Prop where
  commands : b.commands = a.commands
  working : b.working = a.working
  knows : ∀ clientId, b.knows clientId = a.knows clientId
  holds : ∀ clientId, b.holds clientId = a.holds clientId

namespace SameClients

theorem refl (a : Adapter) : SameClients a a := ⟨rfl, rfl, fun _ => rfl, fun _ => rfl⟩

theorem trans {a b c : Adapter} (h₁ : SameClients a b) (h₂ : SameClients b c) :
    SameClients a c :=
  ⟨h₂.commands.trans h₁.commands, h₂.working.trans h₁.working,
    fun id => (h₂.knows id).trans (h₁.knows id), fun id => (h₂.holds id).trans (h₁.holds id)⟩

theorem setBook (a : Adapter) (number : Nat) (b : Book) : SameClients a (a.setBook number b) :=
  ⟨rfl, rfl, fun _ => rfl, fun _ => rfl⟩

theorem setConnection (a : Adapter) (link : Nat) (c : Connection) :
    SameClients a (a.setConnection link c) := ⟨rfl, rfl, fun _ => rfl, fun _ => rfl⟩

theorem closeLink (a : Adapter) (link : Nat) : SameClients a (a.closeLink link) :=
  ⟨rfl, rfl, fun _ => rfl, fun _ => rfl⟩

theorem offer {a b : Adapter} {link : Nat} {o : Outgoing} {accepted : Bool}
    (h : a.offer link o = (b, accepted)) : SameClients a b := by
  obtain ⟨l, c, -, -, hoffer⟩ | hoffer := a.offer_cases link o
  all_goals obtain ⟨rfl, -⟩ := Prod.mk.inj (hoffer.symm.trans h)
  · exact setConnection a link c
  · exact refl a

theorem setStatus (a : Adapter) (clientId : String) (generation : Nat) (status : Status) :
    SameClients a (a.setStatus clientId generation status).1 := by
  unfold Adapter.setStatus
  split
  · exact ⟨rfl, rfl, fun id => by simp [Adapter.knows, Assoc.contains_modify], fun _ => rfl⟩
  · exact refl a

theorem reportEnd (a : Adapter) (clientId : String) (generation : Nat) (e : Event.Disconnected) :
    SameClients a (a.reportEnd clientId generation e).1 :=
  setStatus a clientId generation .disconnected

/-- Closing the connection of a slot keeps the slot. -/
theorem stop {a : Adapter} {clientId : String} (s : Slot) (h : a.holds clientId = true) :
    SameClients a (a.stop clientId s) := by
  unfold Adapter.stop
  split
  · exact refl a
  · exact ⟨rfl, rfl, fun _ => rfl, fun id => Assoc.contains_insert_of_contains h id _⟩

/-! ### Connections -/

theorem resubscribe (link book : Nat) (a : Adapter) :
    SameClients a (a.resubscribe link book) :=
  resubscribe_of (refl a) fun hc h => (h.trans (offer hc)).trans (setBook ..)

theorem settle (book id : Nat) (grants : List Grant) (a : Adapter) :
    SameClients a (a.settle book id grants).1 := by
  unfold Adapter.settle
  dsimp only
  split
  · exact refl a
  · exact setBook a book _

theorem handle (link : Nat) (h : Happening) (a : Adapter) :
    SameClients a (a.handle link h).1 := by
  unfold Adapter.handle
  split
  · exact refl a
  · next l _ =>
    split
    · cases h with
      | acknowledged reason => exact (setStatus a l.clientId l.generation _).trans (resubscribe ..)
      | published topic payload qos => exact refl a
      | answered id grants => exact settle l.book id grants a
      | dismissed reason => exact reportEnd a l.clientId l.generation { reason := reason }
      | wroteSubscribe id => exact setBook ..
      | wroteDisconnect => exact reportEnd a l.clientId l.generation { reason := .normal }
      | failed reason message =>
        exact reportEnd a l.clientId l.generation
          { reason := reason, message := some (Redaction.sanitize message) }
    · exact refl a

theorem handleAll (link : Nat) (hs : List Happening) (a : Adapter) :
    SameClients a (a.handleAll link hs).1 :=
  handleAll_of (refl a) (fun x _ h => h.trans (handle link x _)) fun h => h.trans (closeLink ..)

/-- Whatever happens on a connection leaves the clients alone. -/
theorem onLink (link : Nat) (f : Connection → Connection × List Happening) (a : Adapter) :
    SameClients a (a.onLink link f).1 := by
  unfold Adapter.onLink
  split
  · exact refl a
  · exact (setConnection a link _).trans (handleAll ..)

/-! ### The worker -/

theorem disconnect {a : Adapter} {clientId : String} (s : Slot) (h : a.holds clientId = true) :
    SameClients a (a.disconnect clientId s).1 := by
  unfold Adapter.disconnect
  split
  · next standing link _ _ =>
    split
    · split
      · next b hb => exact offer hb
      · next b hb =>
        have hslot : b.holds clientId = true := ((offer hb).holds clientId).trans h
        exact (offer hb).trans ((stop s hslot).trans (reportEnd ..))
    · exact (stop s h).trans (reportEnd ..)
  · exact refl a

theorem subscribe (clientId : String) (s : Slot) (id : SubscriptionId) (topic : String)
    (qos : Qos) (a : Adapter) : SameClients a (a.subscribe clientId s id topic qos).1 := by
  unfold Adapter.subscribe
  dsimp only
  split
  · exact setBook ..
  · split
    · split
      · split
        · next b hb => exact (setBook ..).trans ((offer hb).trans (setBook ..))
        · exact (setBook ..).trans (setBook ..)
      · split
        · exact (setBook ..).trans (setBook ..)
        · exact setBook ..
    · exact setBook ..

theorem unsubscribe (clientId : String) (s : Slot) (id : SubscriptionId) (topic : String)
    (a : Adapter) : SameClients a (a.unsubscribe clientId s id topic).1 := by
  unfold Adapter.unsubscribe
  dsimp only
  split
  · split
    · next b hb => exact (setBook ..).trans (offer hb)
    · next b hb => exact (setBook ..).trans (offer hb)
  · exact setBook ..

end SameClients

/-! ## What the worker carries out -/

/-- A connect request keeps the standings, and the slots too unless it ends the worker. -/
theorem connect_clients {a : Adapter} {clientId : String} (s : Slot) (p : ConnectParameters)
    (h : a.holds clientId = true) :
    (∀ id, (a.connect clientId s p).knows id = a.knows id) ∧
      (SameClients a (a.connect clientId s p) ∨
        (a.connect clientId s p).working = false ∧ (a.connect clientId s p).commands = [] ∧
          (a.connect clientId s p).slots = []) := by
  have hstop := SameClients.stop s h
  unfold Adapter.connect
  dsimp only
  split
  · exact ⟨hstop.knows, Or.inl hstop⟩
  · next standing hs =>
    have hc : (a.stop clientId s).standings.contains clientId = true := by
      rw [Assoc.contains, hs]
      rfl
    have hknows (id : String) (value : Standing) :
        ((a.stop clientId s).standings.insert clientId value).contains id = a.knows id :=
      (Assoc.contains_insert_of_contains hc id value).trans (hstop.knows id)
    split
    · exact ⟨fun id => hknows id _, Or.inr ⟨rfl, rfl, rfl⟩⟩
    · refine ⟨fun id => hknows id _, Or.inl ⟨hstop.commands, hstop.working, fun id => hknows id _,
        fun id => ?_⟩⟩
      have hslot : (a.stop clientId s).holds clientId = true := (hstop.holds clientId).trans h
      exact (Assoc.contains_insert_of_contains hslot id _).trans (hstop.holds id)

theorem holds_of_get? {a : Adapter} {clientId : String} {s : Slot}
    (h : a.slots.get? clientId = some s) : a.holds clientId = true := by
  rw [holds, Assoc.contains, h]
  rfl

theorem SameClients.stopped (clientId : String) (a : Adapter) :
    SameClients a (a.stopped clientId) :=
  stopped_of (.refl a) fun s hs => .stop s (holds_of_get? hs)

/-- What carrying a request out leaves of who is known and who has a slot: creations and
removals alone change it, unless the worker ends. -/
def CarriesOut (r : Request) (a b : Adapter) : Prop :=
  (∀ id, b.knows id = (a.knows id && r != .remove id)) ∧
    (b.commands = a.commands ∧ b.working = a.working ∧
        (∀ id, b.holds id = r.leaves id (a.holds id)) ∨
      b.working = false ∧ b.commands = [] ∧ b.slots = [])

theorem CarriesOut.of_same {r : Request} {a b : Adapter} (h : SameClients a b)
    (hr : ∀ id, r ≠ .remove id) (hl : ∀ id, r.leaves id (a.holds id) = a.holds id) :
    CarriesOut r a b :=
  ⟨fun id => by simp [h.knows id, hr id],
    Or.inl ⟨h.commands, h.working, fun id => (h.holds id).trans (hl id).symm⟩⟩

theorem carryOut_create (clientId host : String) (port : UInt16) (tls : Bool) (a : Adapter) :
    CarriesOut (.create clientId host port tls) a
      (a.carryOut (.create clientId host port tls)).1 := by
  have h := SameClients.stopped clientId a
  simp only [carryOut]
  refine ⟨fun id => (h.knows id).trans (by simp), Or.inl ⟨h.commands, h.working, fun id => ?_⟩⟩
  refine (Assoc.contains_insert ..).trans ?_
  rw [Request.leaves, ← h.holds id, Bool.or_comm]
  rfl

theorem carryOut_remove (clientId : String) (a : Adapter) :
    CarriesOut (.remove clientId) a (a.carryOut (.remove clientId)).1 := by
  have h := SameClients.stopped clientId a
  simp only [carryOut]
  refine ⟨fun id => ?_, Or.inl ⟨h.commands, h.working, fun id => ?_⟩⟩
  · have hbeq : (Request.remove clientId == .remove id) = (clientId == id) := by
      by_cases hid : clientId = id <;> simp [hid]
    refine (Assoc.contains_erase ..).trans ?_
    rw [← h.knows id]
    simp only [bne, hbeq]
    rfl
  · refine (Assoc.contains_erase ..).trans ?_
    rw [Request.leaves, ← h.holds id]
    rfl

theorem carryOut_clients (r : Request) (a : Adapter) : CarriesOut r a (a.carryOut r).1 := by
  cases r with
  | create clientId host port tls => exact carryOut_create clientId host port tls a
  | remove clientId => exact carryOut_remove clientId a
  | connect clientId p =>
    simp only [carryOut]
    split
    · next s hs =>
      obtain ⟨hknows, hc⟩ := connect_clients s p (holds_of_get? hs)
      refine ⟨fun id => (hknows id).trans (by simp), hc.imp_left fun h => ?_⟩
      exact ⟨h.commands, h.working, h.holds⟩
    · exact .of_same (.refl a) nofun fun _ => rfl
  | disconnect clientId =>
    simp only [carryOut]
    split
    · next s hs => exact .of_same (.disconnect s (holds_of_get? hs)) nofun fun _ => rfl
    · exact .of_same (.refl a) nofun fun _ => rfl
  | subscribe id clientId topic qos =>
    simp only [carryOut]
    split
    · exact .of_same (.subscribe ..) nofun fun _ => rfl
    · exact .of_same (.refl a) nofun fun _ => rfl
  | unsubscribe id clientId topic =>
    simp only [carryOut]
    split
    · exact .of_same (.unsubscribe ..) nofun fun _ => rfl
    · exact .of_same (.refl a) nofun fun _ => rfl

theorem holds_of_slots_nil {a : Adapter} (h : a.slots = []) (id : String) :
    a.holds id = false := by
  rw [holds, h]
  rfl

/-! ## What callers ask for -/

theorem enter_clients (r : Request) (a : Adapter) :
    (a.enter r).commands = a.commands ∧ (a.enter r).working = a.working ∧
      (a.enter r).slots = a.slots ∧ ∀ id, (a.enter r).knows id = (a.knows id || r.creates id) := by
  unfold enter
  split
  · next clientId _ _ _ =>
    split
    · next hknown =>
      refine ⟨rfl, rfl, rfl, fun id => ?_⟩
      by_cases hid : clientId = id
      · simp [Request.creates, ← hid, hknown]
      · simp [Request.creates, hid]
    · refine ⟨rfl, rfl, rfl, fun id => ?_⟩
      rw [knows, Assoc.contains_insert, Bool.or_comm]
      rfl
  · next hr =>
    have hc (id : String) : r.creates id = false := by
      cases r with
      | create clientId host port tls => exact absurd rfl (hr clientId host port tls)
      | _ => rfl
    exact ⟨rfl, rfl, rfl, fun id => by rw [hc, Bool.or_false]⟩

/-- A caller changes who is known by creations alone, accepted or not, and puts each accepted
request at the end of the queue. -/
theorem answer_clients (r : Request) (a : Adapter) :
    (a.answer r).1.working = a.working ∧ (a.answer r).1.slots = a.slots ∧
      (∀ id, (a.answer r).1.knows id = (a.knows id || r.creates id)) ∧
      (a.working = true ∧ (a.knows r.clientId || r.creates r.clientId) = true ∧
          (a.answer r).2.fault = none ∧ (a.answer r).1.commands = a.commands ++ [r] ∨
        (a.working && (a.knows r.clientId || r.creates r.clientId)) = false ∧
          (a.answer r).2.fault ≠ none ∧ (a.answer r).1.commands = a.commands) := by
  obtain ⟨hc, hw, hs, hk⟩ := enter_clients r a
  rw [answer_eq, hk r.clientId, hw, hc]
  split
  · next hknown =>
    split
    · next hworks => exact ⟨hw, hs, hk, Or.inl ⟨hworks, hknown, rfl, rfl⟩⟩
    · next hworks =>
      rw [Bool.not_eq_true] at hworks
      exact ⟨hw, hs, hk, Or.inr ⟨by rw [hworks, Bool.false_and], nofun, hc⟩⟩
  · next hknown =>
    rw [Bool.not_eq_true] at hknown
    exact ⟨hw, hs, hk, Or.inr ⟨by rw [hknown, Bool.and_false], nofun, hc⟩⟩

end Adapter

/-! ## One turn of one client -/

namespace Stretch

/-- A caller makes a request, and it is accepted. -/
def Accepts (r : Request) (s : Stretch) : Prop :=
  s.turn = .request r ∧ (s.before.answer r).2.fault = none

/-- A creation of the client is requested. -/
def Creates (clientId : String) (s : Stretch) : Prop :=
  ∃ host port tls, s.Accepts (.create clientId host port tls)

/-- A removal of the client is requested. -/
def Removes (clientId : String) (s : Stretch) : Prop := s.Accepts (.remove clientId)

/-- A removal of the client waits. -/
def RemovalWaits (clientId : String) (s : Stretch) : Prop :=
  Request.remove clientId ∈ s.before.commands

end Stretch

namespace Adapter

/-- Whether the worker holds a slot of a client once it has carried out all that waits. -/
def willHold (a : Adapter) (clientId : String) : Bool :=
  a.commands.foldl (fun held r => r.leaves clientId held) (a.holds clientId)

theorem willHold_of_same {a b : Adapter} (h : SameClients a b) (clientId : String) :
    b.willHold clientId = a.willHold clientId := by
  rw [willHold, willHold, h.commands, h.holds]

theorem willHold_append {a b : Adapter} {r : Request} (hc : b.commands = a.commands ++ [r])
    (hs : b.slots = a.slots) (clientId : String) :
    b.willHold clientId = r.leaves clientId (a.willHold clientId) := by
  rw [willHold, willHold, hc, List.foldl_append, holds, holds, hs]
  rfl

/-- What a turn leaves of a client that it neither creates nor asks to remove: at most it
carries out a removal that waited. -/
structure Leaves (clientId : String) (a b : Adapter) : Prop where
  willHold : b.willHold clientId = a.willHold clientId
  known : b.knows clientId = a.knows clientId ∧
      (Request.remove clientId ∈ b.commands ↔ Request.remove clientId ∈ a.commands) ∨
    Request.remove clientId ∈ a.commands ∧ b.knows clientId = false

theorem SameClients.leaves {a b : Adapter} (h : SameClients a b) (clientId : String) :
    Leaves clientId a b :=
  ⟨willHold_of_same h clientId, Or.inl ⟨h.knows clientId, by rw [h.commands]⟩⟩

/-- The worker asks for nothing; a removal that it carries out makes its client unknown. -/
theorem leaves_work {a : Adapter} (hw : a.work.1.working = true) (clientId : String) :
    a.working = true ∧ Leaves clientId a a.work.1 := by
  unfold work at hw ⊢
  split at hw
  · exact ⟨hw, (SameClients.refl a).leaves clientId⟩
  · next r rest hc =>
    split at hw
    · next hworks =>
      rw [if_pos hworks]
      obtain ⟨hk, ⟨hcs, -, hh⟩ | ⟨hstop, -⟩⟩ := carryOut_clients r { a with commands := rest }
      · refine ⟨hworks, ?_, ?_⟩
        · rw [Adapter.willHold, Adapter.willHold, hcs, hh, hc]
          rfl
        · rw [hk, hcs, hc]
          by_cases hr : r = .remove clientId
          · exact Or.inr ⟨by simp [hr], by simp [hr]⟩
          · refine Or.inl ⟨?_, by simp [Ne.symm hr]⟩
            rw [bne_iff_ne.2 hr, Bool.and_true]
            rfl
      · rw [hstop] at hw
        cases hw
    · next hworks => exact absurd hw hworks

theorem creates_iff {a : Adapter} {r : Request} {clientId : String} :
    Stretch.Creates clientId ⟨a, .request r⟩ ↔
      r.creates clientId = true ∧ (a.answer r).2.fault = none := by
  rw [Request.creates_iff]
  constructor
  · rintro ⟨host, port, tls, hr, hf⟩
    obtain rfl := Turn.request.inj hr
    exact ⟨⟨host, port, tls, rfl⟩, hf⟩
  · rintro ⟨⟨host, port, tls, rfl⟩, hf⟩
    exact ⟨host, port, tls, rfl, hf⟩

theorem removes_iff {a : Adapter} {r : Request} {clientId : String} :
    Stretch.Removes clientId ⟨a, .request r⟩ ↔
      r = .remove clientId ∧ (a.answer r).2.fault = none := by
  constructor
  · rintro ⟨hr, hf⟩
    obtain rfl := Turn.request.inj hr
    exact ⟨rfl, hf⟩
  · rintro ⟨rfl, hf⟩
    exact ⟨rfl, hf⟩

/-- What an accepted creation of a client comes to. -/
structure Created (clientId : String) (a b : Adapter) : Prop where
  willHold : b.willHold clientId = true
  known : b.knows clientId = true
  waits : Request.remove clientId ∈ b.commands ↔ Request.remove clientId ∈ a.commands

/-- What an accepted removal of a client comes to, before it is carried out. -/
structure ToBeRemoved (clientId : String) (b : Adapter) : Prop where
  willHold : b.willHold clientId = false
  known : b.knows clientId = true
  waits : Request.remove clientId ∈ b.commands

/-- While the worker runs, a request creates a client, asks to remove it, or leaves it alone. -/
theorem answer_client {a : Adapter} (hworks : a.working = true) (r : Request)
    (clientId : String) :
    r.creates clientId = true ∧ (a.answer r).2.fault = none ∧
        Created clientId a (a.answer r).1 ∨
      r = .remove clientId ∧ (a.answer r).2.fault = none ∧
        ToBeRemoved clientId (a.answer r).1 ∨
      (r.creates clientId = false ∧ r ≠ .remove clientId ∨ (a.answer r).2.fault ≠ none) ∧
        Leaves clientId a (a.answer r).1 := by
  obtain ⟨-, hs, hk, ⟨-, hknown, hfault, hc⟩ | ⟨hknown, hfault, hc⟩⟩ := answer_clients r a
  · have hhold := willHold_append hc hs clientId
    by_cases hcreates : r.creates clientId = true
    · obtain ⟨host, port, tls, rfl⟩ := Request.creates_iff.1 hcreates
      refine Or.inl ⟨hcreates, hfault, ?_, ?_, by simp [hc]⟩
      · exact hhold.trans (Request.leaves_of_creates hcreates _)
      · exact (hk clientId).trans (by rw [hcreates, Bool.or_true])
    · rw [Bool.not_eq_true] at hcreates
      by_cases hr : r = .remove clientId
      · subst hr
        refine Or.inr (Or.inl ⟨rfl, hfault, ?_, ?_, by simp [hc]⟩)
        · exact hhold.trans (Request.leaves_remove clientId _)
        · exact (hk clientId).trans hknown
      · refine Or.inr (Or.inr ⟨Or.inl ⟨hcreates, hr⟩, ?_, Or.inl ⟨?_, by simp [hc, Ne.symm hr]⟩⟩)
        · exact hhold.trans (Request.leaves_of_other hcreates hr _)
        · exact (hk clientId).trans (by rw [hcreates, Bool.or_false])
  · refine Or.inr (Or.inr ⟨Or.inr hfault, ?_, Or.inl ⟨?_, by rw [hc]⟩⟩)
    · rw [willHold, willHold, hc, holds, holds, hs]
    · -- a creation is refused by nothing but a worker that has stopped
      have hcreates : r.creates clientId = false := by
        by_contra h
        rw [Bool.not_eq_false] at h
        obtain ⟨host, port, tls, rfl⟩ := Request.creates_iff.1 h
        simp [hworks, Request.creates, Request.clientId] at hknown
      exact (hk clientId).trans (by rw [hcreates, Bool.or_false])

/-- While the worker runs, a turn creates a client, asks to remove it, or at most carries out a
removal of it that waited. -/
theorem next_client (s : Stretch) (clientId : String) (hw : s.after.working = true) :
    s.before.working = true ∧
      (s.Creates clientId ∧ ¬ s.Removes clientId ∧ Created clientId s.before s.after ∨
        ¬ s.Creates clientId ∧ s.Removes clientId ∧ ToBeRemoved clientId s.after ∨
        ¬ s.Creates clientId ∧ ¬ s.Removes clientId ∧ Leaves clientId s.before s.after) := by
  obtain ⟨a, t⟩ := s
  cases t with
  | request r =>
    have hworks : a.working = true := (answer_clients r a).1.symm.trans hw
    rw [creates_iff, removes_iff]
    refine ⟨hworks, ?_⟩
    obtain ⟨hc, hf, h⟩ | ⟨rfl, hf, h⟩ | ⟨hr | hf, h⟩ := answer_client hworks r clientId
    · obtain ⟨host, port, tls, rfl⟩ := Request.creates_iff.1 hc
      exact Or.inl ⟨⟨hc, hf⟩, nofun, h⟩
    · exact Or.inr (Or.inl ⟨nofun, ⟨rfl, hf⟩, h⟩)
    · exact Or.inr (Or.inr ⟨by simp [hr.1], by simp [hr.2], h⟩)
    · exact Or.inr (Or.inr ⟨by simp [hf], by simp [hf], h⟩)
  | work =>
    obtain ⟨hworks, hleaves⟩ := leaves_work hw clientId
    exact ⟨hworks, Or.inr (Or.inr ⟨by simp [Stretch.Creates, Stretch.Accepts],
      by simp [Stretch.Removes, Stretch.Accepts], hleaves⟩)⟩
  | connection link stimulus =>
    have hsame := SameClients.onLink link (·.respond stimulus) a
    exact ⟨hsame.working.symm.trans hw, Or.inr (Or.inr ⟨by simp [Stretch.Creates, Stretch.Accepts],
      by simp [Stretch.Removes, Stretch.Accepts], hsame.leaves clientId⟩)⟩

/-- A worker that has stopped holds no slot from then on. -/
theorem holds_next_of_stopped {a : Adapter} (h : a.working = false → ∀ id, a.holds id = false)
    (t : Turn) (hw : (a.next t).working = false) (id : String) : (a.next t).holds id = false := by
  cases t with
  | request r =>
    obtain ⟨hworking, hs, -⟩ := answer_clients r a
    rw [next, Turn.act, holds, hs]
    exact h (hworking.symm.trans hw) id
  | work =>
    change a.work.1.working = false at hw
    change a.work.1.holds id = false
    unfold work at hw ⊢
    split at hw
    · exact h hw id
    · next r rest hc =>
      split at hw
      · next hworks =>
        rw [if_pos hworks]
        obtain ⟨-, ⟨-, hsame, -⟩ | ⟨-, -, hs⟩⟩ := carryOut_clients r { a with commands := rest }
        · exact absurd (hsame.symm.trans hw) (by simp [hworks])
        · exact holds_of_slots_nil hs id
      · next hworks =>
        rw [if_neg hworks]
        exact h hw id
  | connection link s =>
    have hs := SameClients.onLink link (·.respond s) a
    exact (hs.holds id).trans (h (hs.working.symm.trans hw) id)

/-! ## Runs -/

/-- In a history a client was created while a removal of it waited, and neither created nor
removed since. -/
def Recreated (clientId : String) (history : List Stretch) : Prop :=
  Since (fun s => s.Creates clientId ∧ s.RemovalWaits clientId)
    (fun s => s.Creates clientId ∨ s.Removes clientId) history

/-- How a client stands after a history, while the worker runs. -/
structure Stands (clientId : String) (history : List Stretch) (a : Adapter) : Prop where
  willHold : a.willHold clientId = true ↔
    Since (Stretch.Creates clientId) (Stretch.Removes clientId) history
  recreated : Recreated clientId history → a.willHold clientId = true ∧
    (Request.remove clientId ∈ a.commands ∨ a.knows clientId = false)
  kept : a.willHold clientId = true → ¬ Recreated clientId history →
    a.knows clientId = true ∧ Request.remove clientId ∉ a.commands
  leaving : a.willHold clientId = false → a.knows clientId = true →
    Request.remove clientId ∈ a.commands

theorem stands_nil (clientId : String) : Stands clientId [] {} where
  willHold := iff_of_false nofun (not_since_nil _ _)
  recreated h := absurd h (not_since_nil _ _)
  kept := nofun
  leaving := nofun

theorem recreated_append (clientId : String) (history : List Stretch) (s : Stretch) :
    Recreated clientId (history ++ [s]) ↔
      (s.Creates clientId ∧ s.RemovalWaits clientId) ∨
        Recreated clientId history ∧ ¬ (s.Creates clientId ∨ s.Removes clientId) :=
  since_append_singleton ..

namespace Stands

variable {clientId : String} {history : List Stretch} {s : Stretch}

/-- A creation gives the client a slot to come, and a standing that a waiting removal takes. -/
theorem created (hc : s.Creates clientId) (hb : Created clientId s.before s.after) :
    Stands clientId (history ++ [s]) s.after := by
  have hr := recreated_append clientId history s
  constructor
  · exact iff_of_true hb.willHold ((since_append_singleton _ _ history s).2 (Or.inl hc))
  · intro hlate
    obtain ⟨-, hwaits⟩ | ⟨-, hnone⟩ := hr.1 hlate
    · exact ⟨hb.willHold, Or.inl (hb.waits.2 hwaits)⟩
    · exact absurd (Or.inl hc) hnone
  · intro _ hlate
    exact ⟨hb.known, fun hwaits => hlate (hr.2 (Or.inl ⟨hc, hb.waits.1 hwaits⟩))⟩
  · rw [hb.willHold]
    nofun

/-- A removal that was asked for ends what came before. -/
theorem removed (hnc : ¬ s.Creates clientId) (hrm : s.Removes clientId)
    (hb : ToBeRemoved clientId s.after) : Stands clientId (history ++ [s]) s.after := by
  have hnone : ¬ Recreated clientId (history ++ [s]) := by
    rw [recreated_append]
    rintro (⟨hc, -⟩ | ⟨-, hnone⟩)
    · exact hnc hc
    · exact hnone (Or.inr hrm)
  constructor
  · refine iff_of_false (by simp [hb.willHold]) ?_
    rw [since_append_singleton]
    rintro (hc | ⟨-, hnr⟩)
    · exact hnc hc
    · exact hnr hrm
  · exact fun hlate => absurd hlate hnone
  · rw [hb.willHold]
    nofun
  · exact fun _ _ => hb.waits

/-- Any other turn leaves the client as it stands. -/
theorem left (h : Stands clientId history s.before) (hnc : ¬ s.Creates clientId)
    (hnr : ¬ s.Removes clientId) (hb : Leaves clientId s.before s.after) :
    Stands clientId (history ++ [s]) s.after := by
  have hr : Recreated clientId (history ++ [s]) ↔ Recreated clientId history := by
    simp [recreated_append, hnc, hnr]
  have hs : Since (Stretch.Creates clientId) (Stretch.Removes clientId) (history ++ [s]) ↔
      Since (Stretch.Creates clientId) (Stretch.Removes clientId) history := by
    simp [since_append_singleton, hnc, hnr]
  constructor
  · rw [hb.willHold, hs]
    exact h.willHold
  · rw [hr, hb.willHold]
    refine fun hlate => ⟨(h.recreated hlate).1, ?_⟩
    obtain ⟨hk, hc⟩ | ⟨-, hk⟩ := hb.known
    · rw [hk, hc]
      exact (h.recreated hlate).2
    · exact Or.inr hk
  · rw [hr, hb.willHold]
    intro hhold hlate
    obtain ⟨hknown, hwaits⟩ := h.kept hhold hlate
    obtain ⟨hk, hc⟩ | ⟨hc, -⟩ := hb.known
    · exact ⟨hk.trans hknown, mt hc.1 hwaits⟩
    · exact absurd hc hwaits
  · rw [hb.willHold]
    intro hhold hknown
    obtain ⟨hk, hc⟩ | ⟨-, hk⟩ := hb.known
    · exact hc.2 (h.leaving hhold (hk.symm.trans hknown))
    · rw [hk] at hknown
      cases hknown

/-- A turn carries on how a client stands. -/
theorem append (h : Stands clientId history s.before) (hw : s.after.working = true) :
    Stands clientId (history ++ [s]) s.after := by
  obtain ⟨-, ⟨hc, -, hb⟩ | ⟨hnc, hrm, hb⟩ | ⟨hnc, hnr, hb⟩⟩ := next_client s clientId hw
  · exact created hc hb
  · exact removed hnc hrm hb
  · exact h.left hnc hnr hb

end Stands

/-- After every run in which the worker keeps running, a client stands as its history says. -/
theorem stands_after (clientId : String) (turns : List Turn)
    (hw : (after {} turns).working = true) :
    Stands clientId (stretches turns {}) (after {} turns) := by
  induction turns using List.reverseRecOn with
  | nil => exact stands_nil clientId
  | append_singleton turns t ih =>
    rw [stretches_append, after_append]
    rw [after_append] at hw
    exact (ih (next_client ⟨_, t⟩ clientId hw).1).append hw

/-- Whenever no request waits, the worker holds a slot exactly for the clients whose last
creation came after their last removal, and a client is known if and only if it has a slot,
unless its last creation was requested while a removal of it still waited: such a client has a
slot, and every request for it is refused. A worker that has stopped holds no slot. -/
theorem knows_iff_holds_of_idle (turns : List Turn) (clientId : String)
    (idle : (after {} turns).commands = []) :
    let a := after {} turns
    let run := stretches turns {}
    (a.holds clientId = true ↔ a.working = true ∧
      Since (Stretch.Creates clientId) (Stretch.Removes clientId) run) ∧
    (a.working = true →
      (a.knows clientId = true → a.holds clientId = true) ∧
      ((a.knows clientId = true ↔ a.holds clientId = true) ↔ ¬ Recreated clientId run)) ∧
    ∀ r : Request, r.clientId = clientId → r.creates clientId = false →
      ((a.answer r).2.fault = none ↔ a.working = true ∧ a.knows clientId = true) := by
  intro a run
  have hstop : a.working = false → ∀ id, a.holds id = false :=
    holds_after (P := fun a => a.working = false → ∀ id, a.holds id = false)
      (fun h => absurd h (by decide)) (fun _ t h => holds_next_of_stopped h t) turns
  have hhold : a.willHold clientId = a.holds clientId := by
    rw [willHold, show a.commands = [] from idle]
    rfl
  refine ⟨?_, fun hw => ?_, fun r hr hc => ?_⟩
  · cases hw : a.working with
    | false => simp [hstop hw]
    | true =>
      rw [← hhold]
      exact (stands_after clientId turns hw).willHold.trans (by simp [run])
  · have h := stands_after clientId turns hw
    have hnone : Request.remove clientId ∉ a.commands := by simp [show a.commands = [] from idle]
    have himp (hk : a.knows clientId = true) : a.holds clientId = true := by
      by_contra hh
      rw [Bool.not_eq_true, ← hhold] at hh
      exact hnone (h.leaving hh hk)
    refine ⟨himp, fun hiff hlate => ?_, fun hlate => ⟨himp, fun hh => ?_⟩⟩
    · obtain ⟨hh, hw | hk⟩ := h.recreated hlate
      · exact hnone hw
      · rw [hiff.2 (hhold.symm.trans hh)] at hk
        cases hk
    · exact (h.kept (hhold.trans hh) hlate).1
  · obtain ⟨-, -, -, ⟨hw, hk, hf, -⟩ | ⟨hk, hf, -⟩⟩ := answer_clients r a
    · rw [hr, hc, Bool.or_false] at hk
      simp [hf, hw, hk]
    · rw [hr, hc, Bool.or_false] at hk
      exact iff_of_false hf (by simpa using hk)

/-- A client is created, removed and created again at once; then the worker does its work. -/
def renewal : List Turn :=
  [.request (.create "c" "h" 1883 false), .work, .request (.remove "c"),
    .request (.create "c" "h" 1883 false), .work, .work]

/-- Once the worker is done, the client that was created again has lost its standing. -/
theorem recreated_of_renewal :
    (after {} renewal).commands = [] ∧ (after {} renewal).working = true ∧
      Recreated "c" (stretches renewal {}) := by
  have idle : (after {} renewal).commands = [] := by decide
  have working : (after {} renewal).working = true := by decide
  obtain ⟨-, hknows⟩ := (knows_iff_holds_of_idle renewal "c" idle).2.1 working
  refine ⟨idle, working, ?_⟩
  by_contra h
  exact absurd (hknows.2 h) (by decide)

/-- A client that is removed and created at once has a slot and is not known: it can neither be
disconnected nor removed. -/
theorem recreated_client_is_unknown :
    let a := after {} renewal
    a.commands = [] ∧ a.working = true ∧ a.holds "c" = true ∧ a.knows "c" = false ∧
      (a.answer (.disconnect "c")).2.fault = some (.unknownClient .disconnect "c") ∧
      (a.answer (.remove "c")).2.fault = some (.unknownClient .remove "c") := by
  decide

end Adapter

end MqttRelay.Native
