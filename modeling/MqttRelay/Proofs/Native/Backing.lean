import MqttRelay.Proofs.Native.Attachment

/-!
# What stands behind a status

A client that counts as connecting or as connected should have a connection: one that its slot
keeps, of the latest generation, that goes on. A connection that ends takes the status back, and
so do a disconnection and a removal. A creation of a client that is there already does not: it
closes the connection and leaves the status. And a worker that ends gives all slots up and leaves
every status.

Results:
* `Attached.backed_iff_linked`: while the worker runs, a client has a connection behind it if and
  only if one of its connections goes on.
* `linked_next`: a status that says more than disconnected comes with a connection that goes on, if
  it did before, and the client is not created anew.
* `status_backed_iff`: behind the status of a client that does not count as disconnected there is a
  connection if and only if the worker runs and the client was not created anew since its last
  request to connect was carried out.
* `recreated_client_stays_connecting`: a client that is connecting and is created once more counts
  as connecting, and its slot keeps no connection.
-/

namespace MqttRelay.Native

namespace Stretch

/-- The worker carries out a request to connect a client of which it has a slot. -/
def Connects (clientId : String) (s : Stretch) : Prop :=
  ∃ p, s.Processes (.connect clientId p) ∧ s.before.holds clientId = true

/-- The worker carries out a creation of the client. -/
def Replaces (clientId : String) (s : Stretch) : Prop :=
  ∃ host port tls, s.Processes (.create clientId host port tls)

end Stretch

namespace Adapter

/-- The slot of a client keeps a connection of the client's latest generation that goes on. -/
def Backed (c : String) (a : Adapter) : Prop :=
  ∃ s k l, a.slots.get? c = some s ∧ s.link = some k ∧ a.links[k]? = some l ∧ l.clientId = c ∧
    a.generation? c = some l.generation ∧ l.connection.stage ≠ .ended

/-- A connection of a client goes on. -/
def Linked (c : String) (a : Adapter) : Prop := ∃ k l, a.GoesOn k l ∧ l.clientId = c

theorem Attached.backed_iff_linked {a : Adapter} (h : Attached a) {c : String} :
    a.Backed c ↔ a.Linked c := by
  constructor
  · rintro ⟨s, k, l, -, -, hl, hc, -, hlive⟩
    exact ⟨k, l, ⟨hl, hlive⟩, hc⟩
  · rintro ⟨k, l, hl, rfl⟩
    obtain ⟨s, hs, hk⟩ := h.kept hl
    exact ⟨s, k, l, hs, hk, hl.1, rfl, h.latest hs hk hl.1, hl.2⟩

/-! ## Connections that are left alone -/

namespace Linked

variable {a b : Adapter} {c : String}

theorem steady (h : a.Linked c) (hs : Steady a b) : b.Linked c := by
  obtain ⟨k, l, ⟨hl, hlive⟩, rfl⟩ := h
  obtain ⟨m, hm, hface⟩ := hs.of_link hl
  simp only [Link.face, Prod.mk.injEq] at hface
  exact ⟨k, m, ⟨hm, hface.2.2.2 ▸ hlive⟩, hface.1⟩

/-- Connections may be added. -/
theorem append (h : a.Linked c) {l : Link} (hlinks : b.links = a.links ++ [l]) : b.Linked c := by
  obtain ⟨k, m, ⟨hm, hlive⟩, hc⟩ := h
  refine ⟨k, m, ⟨?_, hlive⟩, hc⟩
  rw [hlinks, List.getElem?_append_left (List.getElem?_eq_some_iff.1 hm).1]
  exact hm

/-- The link of another client may change. -/
theorem modifyLink (h : a.Linked c) {link : Nat} (f : Link → Link)
    (hlink : ∀ m, a.links[link]? = some m → m.clientId ≠ c) :
    Linked c { a with links := a.links.modify link f } := by
  obtain ⟨k, l, ⟨hl, hlive⟩, hc⟩ := h
  refine ⟨k, l, ⟨?_, hlive⟩, hc⟩
  change (a.links.modify link f)[k]? = some l
  rw [List.getElem?_modify, hl]
  by_cases hk : link = k
  · exact absurd hc (hlink l (hk ▸ hl))
  · simp [hk]

theorem stop (h : a.Linked c) (hlaid : Laid a) {d : String} {s : Slot}
    (hs : a.slots.get? d = some s) (hd : d ≠ c) : (a.stop d s).Linked c := by
  unfold Adapter.stop
  split
  · exact h
  · next link hlink =>
    obtain ⟨l, hl, hc, -⟩ := hlaid.slot_link hs hlink
    refine h.modifyLink _ fun m hm => ?_
    obtain rfl := Option.some.inj (hl.symm.trans hm)
    exact hc ▸ hd

theorem stopped (h : a.Linked c) (hlaid : Laid a) {d : String} (hd : d ≠ c) :
    (a.stopped d).Linked c :=
  stopped_of h fun _ hs => h.stop hlaid hs hd

end Linked

/-! ## Statuses -/

theorem status_congr {a b : Adapter} {c : String}
    (h : b.standings.get? c = a.standings.get? c) : b.status c = a.status c := by
  unfold status
  rw [h]

theorem standings_stop (a : Adapter) (d : String) (s : Slot) :
    (a.stop d s).standings = a.standings := by
  unfold stop
  split <;> rfl

theorem standings_stopped (a : Adapter) (d : String) : (a.stopped d).standings = a.standings :=
  stopped_of (P := fun b => b.standings = a.standings) rfl fun s _ => standings_stop a d s

theorem status_setStatus_of_ne (a : Adapter) {d c : String} (h : d ≠ c) (generation : Nat)
    (status : Status) : (a.setStatus d generation status).1.status c = a.status c := by
  unfold setStatus
  split
  · refine status_congr ?_
    simp only [Assoc.get?_modify, if_neg h]
  · rfl

/-- Whoever ends the latest connection of a client leaves it disconnected. -/
theorem status_reportEnd {a : Adapter} {c : String} {generation : Nat}
    (h : a.isCurrent c generation = true) (e : Event.Disconnected) :
    (a.reportEnd c generation e).1.status c = .disconnected := by
  unfold reportEnd setStatus
  simp only [h, if_true, status, Assoc.get?_modify]
  cases a.standings.get? c <;> rfl

theorem isCurrent_of_standing {a : Adapter} {c : String} {standing : Standing}
    (h : a.standings.get? c = some standing) : a.isCurrent c standing.generation = true := by
  unfold isCurrent
  rw [h]
  simp

theorem standings_subscribe (c : String) (s : Slot) (id : SubscriptionId) (topic : String)
    (qos : Qos) (a : Adapter) : (a.subscribe c s id topic qos).1.standings = a.standings := by
  obtain hr | ⟨link, level, b, -, hb, hr⟩ | ⟨link, level, b, -, -, hr⟩ | ⟨link, -, -, hr⟩ :=
    subscribe_cases c s id topic qos a <;> rw [hr]
  · rfl
  · exact (standings_of_offer hb).trans rfl
  · rfl
  · rfl

theorem standings_unsubscribe (c : String) (s : Slot) (id : SubscriptionId) (topic : String)
    (a : Adapter) : (a.unsubscribe c s id topic).1.standings = a.standings := by
  obtain hr | ⟨link, e, -, hr⟩ | ⟨link, -, hr⟩ := unsubscribe_cases c s id topic a <;> rw [hr]
  · rfl
  · exact (standings_of_offer rfl).trans rfl
  · exact (standings_of_offer rfl).trans rfl

theorem standings_resubscribe (link book : Nat) (a : Adapter) :
    (a.resubscribe link book).standings = a.standings :=
  resubscribe_of (P := fun b => b.standings = a.standings) rfl fun hc h =>
    (standings_of_offer hc).trans h

theorem standings_settle (n id : Nat) (grants : List Grant) (a : Adapter) :
    (a.settle n id grants).1.standings = a.standings := by
  obtain ⟨table, hsettle⟩ := Paired.settle_eq_setBook n id grants a
  rw [hsettle]
  rfl

/-- A client that becomes known is disconnected, as it was before. -/
theorem status_answer (r : Request) (a : Adapter) (c : String) :
    (a.answer r).1.status c = a.status c := by
  have henter : (a.enter r).status c = a.status c := by
    unfold enter
    split
    · next d _ _ _ =>
      split
      · rfl
      · next hknows =>
        unfold status
        rw [Assoc.get?_insert]
        split
        · next hd =>
          subst hd
          rw [Bool.not_eq_true, knows, Assoc.contains, Option.isSome_eq_false_iff] at hknows
          rw [Option.isNone_iff_eq_none.1 hknows]
          rfl
        · rfl
    · rfl
  rw [answer_eq]
  split
  · split <;> exact henter
  · exact henter

/-! ## The worker -/

section

variable {a : Adapter} {c d : String}

/-- A request to connect a client leaves it with a connection that goes on, unless it is not known
any more or the worker ends. -/
theorem linked_connect {s : Slot} (p : ConnectParameters) (hw : (a.connect c s p).working = true)
    (hstatus : (a.connect c s p).status c ≠ .disconnected) : (a.connect c s p).Linked c := by
  unfold connect at hw hstatus ⊢
  dsimp only at hw hstatus ⊢
  generalize a.stop c s = b at *
  split at hw
  · next hnone => simp [status, hnone] at hstatus
  · next standing _ =>
    split at hw
    · cases hw
    · next hkeep =>
      rw [if_neg hkeep]
      let l : Link := ⟨c, standing.generation + 1, s.book, s.host, s.port, { parameters := p }⟩
      refine ⟨b.links.length, l, ⟨?_, nofun⟩, rfl⟩
      exact List.getElem?_concat_length

/-- A request to connect another client closes and opens connections of that one. -/
theorem connect_of_ne (hlaid : Laid a) {s : Slot} (p : ConnectParameters)
    (hs : a.slots.get? d = some s) (hd : d ≠ c) :
    (a.connect d s p).status c = a.status c ∧ (a.Linked c → (a.connect d s p).Linked c) := by
  have hstop : (a.stop d s).status c = a.status c := status_congr (by rw [standings_stop])
  have hlinked (h : a.Linked c) : (a.stop d s).Linked c := h.stop hlaid hs hd
  unfold connect
  dsimp only
  generalize a.stop d s = b at *
  split
  · exact ⟨hstop, hlinked⟩
  · next standing _ =>
    have hother {e : Adapter}
        (he : e.standings = b.standings.insert d ⟨.connecting, standing.generation + 1⟩) :
        e.status c = a.status c := by
      refine (status_congr ?_).trans hstop
      rw [he]
      exact (Assoc.get?_insert ..).trans (if_neg hd)
    split
    · exact ⟨hother rfl, hlinked⟩
    · exact ⟨hother rfl, fun h => (hlinked h).append rfl⟩

/-- A request to disconnect leaves the client disconnected, or its status and its connection as they
are. -/
theorem disconnect_self {s : Slot} :
    (a.disconnect c s).1.status c = .disconnected ∨
      (a.disconnect c s).1.status c = a.status c ∧ Steady a (a.disconnect c s).1 := by
  have hend {standing : Standing} (h : a.standings.get? c = some standing)
      (e : Event.Disconnected) :
      ((a.stop c s).reportEnd c standing.generation e).1.status c = .disconnected :=
    status_reportEnd (isCurrent_of_standing (by rw [standings_stop, h])) e
  unfold disconnect
  split
  · next standing link hstanding _ =>
    split
    · split
      · next b hb => exact Or.inr ⟨status_congr (by rw [standings_of_offer hb]), .offer hb⟩
      · next b hb =>
        obtain rfl := eq_of_offer_false hb
        exact Or.inl (hend hstanding _)
    · exact Or.inl (hend hstanding _)
  · exact Or.inr ⟨rfl, .refl a⟩

theorem disconnect_of_ne (hlaid : Laid a) {s : Slot} (hs : a.slots.get? d = some s)
    (hd : d ≠ c) :
    (a.disconnect d s).1.status c = a.status c ∧ (a.Linked c → (a.disconnect d s).1.Linked c) := by
  have hend (generation : Nat) (e : Event.Disconnected) :
      ((a.stop d s).reportEnd d generation e).1.status c = a.status c ∧
        (a.Linked c → ((a.stop d s).reportEnd d generation e).1.Linked c) :=
    ⟨(status_setStatus_of_ne _ hd ..).trans (status_congr (by rw [standings_stop])),
      fun h => (h.stop hlaid hs hd).steady (.reportEnd ..)⟩
  unfold disconnect
  split
  · split
    · split
      · next b hb =>
        exact ⟨status_congr (by rw [standings_of_offer hb]), fun h => h.steady (.offer hb)⟩
      · next b hb =>
        obtain rfl := eq_of_offer_false hb
        exact hend ..
    · exact hend ..
  · exact ⟨rfl, id⟩

/-- What the worker carries out leaves no status that says more than disconnected without a
connection, if there was none before; but for a creation. -/
theorem linked_carryOut (hlaid : Laid a) {r : Request} (hr : r.creates c = false)
    (hw : (a.carryOut r).1.working = true) (hstatus : (a.carryOut r).1.status c ≠ .disconnected)
    (hbefore : (∃ p, r = .connect c p) ∧ a.holds c = true ∨ a.status c = .disconnected ∨
      a.Linked c) : (a.carryOut r).1.Linked c := by
  -- where the status stays as it was, the connection does
  have keep {b : Adapter} (hsame : b.status c = a.status c) (hlinked : a.Linked c → b.Linked c)
      (hb : b.status c ≠ .disconnected) (hother : ∀ p, r ≠ .connect c p) : b.Linked c := by
    obtain ⟨⟨p, rfl⟩, -⟩ | hdisconnected | h := hbefore
    · exact absurd rfl (hother p)
    · exact absurd (hsame.trans hdisconnected) hb
    · exact hlinked h
  cases r with
  | create d host port tls =>
    have hd : d ≠ c := by simpa [Request.creates] using hr
    refine keep ?_ (fun h => ?_) hstatus (by simp)
    · exact status_congr (congrArg (Assoc.get? · c) (standings_stopped a d))
    · exact h.stopped hlaid hd
  | remove d =>
    have hget : (a.carryOut (.remove d)).1.standings.get? c =
        if d = c then none else a.standings.get? c :=
      (Assoc.get?_erase ..).trans (by rw [← standings_stopped a d]; rfl)
    by_cases hd : d = c
    · rw [if_pos hd] at hget
      simp [status, hget] at hstatus
    · rw [if_neg hd] at hget
      exact keep (status_congr hget) (fun h => h.stopped hlaid hd) hstatus (by simp)
  | connect d p =>
    simp only [carryOut] at hw hstatus ⊢
    split at hw
    · next s hs =>
      rw [hs] at hstatus
      dsimp only at hstatus ⊢
      by_cases hd : d = c
      · subst hd
        exact linked_connect p hw hstatus
      · obtain ⟨hsame, hlinked⟩ := connect_of_ne hlaid p hs hd
        exact keep hsame hlinked hstatus fun q hq => hd (Request.connect.inj hq).1
    · next hs =>
      rw [hs] at hstatus
      dsimp only at hstatus ⊢
      obtain ⟨⟨q, hq⟩, hholds⟩ | hdisconnected | h := hbefore
      · rw [holds, Assoc.contains, ← (Request.connect.inj hq).1, hs] at hholds
        cases hholds
      · exact absurd hdisconnected hstatus
      · exact h
  | disconnect d =>
    simp only [carryOut] at hstatus ⊢
    split at hstatus
    · next s hs =>
      by_cases hd : d = c
      · subst hd
        obtain hnone | ⟨hsame, hsteady⟩ := disconnect_self (a := a) (c := d) (s := s)
        · exact absurd hnone hstatus
        · exact keep hsame (fun h => h.steady hsteady) hstatus (by simp)
      · obtain ⟨hsame, hlinked⟩ := disconnect_of_ne hlaid hs hd
        exact keep hsame hlinked hstatus (by simp)
    · exact keep rfl (fun h => h) hstatus (by simp)
  | subscribe id d topic qos =>
    simp only [carryOut] at hstatus ⊢
    split at hstatus
    · exact keep (status_congr (by rw [standings_subscribe]))
        (fun h => h.steady (.subscribe ..)) hstatus (by simp)
    · exact keep rfl (fun h => h) hstatus (by simp)
  | unsubscribe id d topic =>
    simp only [carryOut] at hstatus ⊢
    split at hstatus
    · exact keep (status_congr (by rw [standings_unsubscribe]))
        (fun h => h.steady (.unsubscribe ..)) hstatus (by simp)
    · exact keep rfl (fun h => h) hstatus (by simp)

end

/-! ## Connections -/

/-- What happens on a link of another client leaves the status alone. -/
theorem status_handle_of_ne {a : Adapter} {c : String} {link : Nat}
    (hlink : ∀ m, a.links[link]? = some m → m.clientId ≠ c) (x : Happening) :
    (a.handle link x).1.status c = a.status c := by
  have hset {d : String} {generation : Nat} {status : Status} (hd : d ≠ c) :
      (a.setStatus d generation status).1.status c = a.status c :=
    status_setStatus_of_ne a hd generation status
  unfold handle
  split
  · rfl
  · next l hl =>
    have hd := hlink l hl
    split
    · cases x with
      | acknowledged reason =>
        have hb : ((a.setStatus l.clientId l.generation .connected).1.resubscribe link
            l.book).status c = (a.setStatus l.clientId l.generation .connected).1.status c :=
          status_congr (by rw [standings_resubscribe])
        exact hb.trans (hset hd)
      | published topic payload qos => rfl
      | answered id grants => exact status_congr (by rw [standings_settle])
      | wroteSubscribe id => rfl
      | dismissed reason => exact hset hd
      | wroteDisconnect => exact hset hd
      | failed reason message => exact hset hd
    · rfl

/-- What ends the latest connection of a client leaves it disconnected. -/
theorem status_of_ending {a b : Adapter} {link : Nat} {l : Link} {x : Happening}
    {events : List Emission} (hl : a.links[link]? = some l)
    (hcurrent : a.isCurrent l.clientId l.generation = true)
    (hb : a.handle link x = (b, events, false)) : b.status l.clientId = .disconnected := by
  simp only [handle, hl, hcurrent, if_true] at hb
  cases x with
  | dismissed reason =>
    obtain ⟨rfl, -⟩ := Prod.mk.inj hb
    exact status_reportEnd hcurrent _
  | wroteDisconnect =>
    obtain ⟨rfl, -⟩ := Prod.mk.inj hb
    exact status_reportEnd hcurrent _
  | failed reason message =>
    obtain ⟨rfl, -⟩ := Prod.mk.inj hb
    exact status_reportEnd hcurrent _
  | _ => simp at hb

/-- Whatever happens on the latest connection of a client, it goes on or the client is left
disconnected. -/
theorem linked_handleAll {a : Adapter} {link : Nat} {l : Link} (hs : List Happening)
    (hl : a.GoesOn link l) (hcurrent : a.isCurrent l.clientId l.generation = true) :
    (a.handleAll link hs).1.Linked l.clientId ∨
      (a.handleAll link hs).1.status l.clientId = .disconnected := by
  induction hs generalizing a l with
  | nil => exact Or.inl ⟨link, l, hl, rfl⟩
  | cons x hs ih =>
    have hsteady := Steady.handle link x a
    unfold handleAll
    split
    · next b events hb =>
      rw [hb] at hsteady
      obtain ⟨m, hm, hface⟩ := hsteady.of_link hl.1
      simp only [Link.face, Prod.mk.injEq] at hface
      obtain ⟨hmc, hmg, -, hstage⟩ := hface
      rw [← hmc]
      refine ih ⟨hm, hstage ▸ hl.2⟩ ?_
      rw [hsteady.isCurrent, hmc, hmg]
      exact hcurrent
    · next b events hb =>
      have hnone := status_of_ending hl.1 hcurrent hb
      exact Or.inr hnone

/-- What moves a connection leaves no status that says more than disconnected without a
connection, if there was none before. -/
theorem linked_onLink {a : Adapter} (h : Attached a) {c : String} {link : Nat} {s : Stimulus}
    (hstatus : (a.onLink link (·.respond s)).1.status c ≠ .disconnected)
    (hbefore : a.status c = .disconnected ∨ a.Linked c) :
    (a.onLink link (·.respond s)).1.Linked c := by
  cases hl : a.links[link]? with
  | none =>
    simp only [onLink, hl] at hstatus ⊢
    exact hbefore.resolve_left hstatus
  | some l =>
    simp only [onLink, hl] at hstatus ⊢
    by_cases hc : l.clientId = c
    · by_cases hended : l.connection.stage = .ended
      · rw [Connection.respond_of_ended hended, setConnection_self hl] at hstatus ⊢
        exact hbefore.resolve_left hstatus
      · subst hc
        obtain ⟨t, ht, hk⟩ := h.kept ⟨hl, hended⟩
        have hcurrent := (a.isCurrent_iff ..).2 (h.latest ht hk hl)
        exact (linked_handleAll _ ⟨get?_links_setConnection _ hl, Connection.stage_respond hended⟩
          hcurrent).resolve_right hstatus
    · -- the link stays another client's, and all that happens concerns that one
      let P (b : Adapter) : Prop := (∀ m, b.links[link]? = some m → m.clientId ≠ c) ∧
        b.status c = a.status c ∧ (a.Linked c → b.Linked c)
      have hother (m : Link) (hm : a.links[link]? = some m) : m.clientId ≠ c := by
        obtain rfl := Option.some.inj (hl.symm.trans hm)
        exact hc
      have hset : P (a.setConnection link (l.connection.respond s).1) := by
        refine ⟨fun m hm => ?_, rfl, fun hlinked => hlinked.modifyLink _ hother⟩
        obtain rfl := Option.some.inj ((get?_links_setConnection _ hl).symm.trans hm)
        exact hc
      obtain ⟨-, hsame, hlinked⟩ : P (handleAll link (l.connection.respond s).2
          (a.setConnection link (l.connection.respond s).1)).1 := by
        refine handleAll_of hset (fun {b} x _ hb => ?_) fun {b} hb => ?_
        · obtain ⟨hlink, hsame, hlinked⟩ := hb
          have hsteady := Steady.handle link x b
          refine ⟨fun m hm => ?_, (status_handle_of_ne hlink x).trans hsame,
            fun hr => (hlinked hr).steady hsteady⟩
          obtain ⟨n, hn, hface⟩ := hsteady.link_of hm
          simp only [Link.face, Prod.mk.injEq] at hface
          exact hface.1 ▸ hlink n hn
        · obtain ⟨hlink, hsame, hlinked⟩ := hb
          refine ⟨fun m hm => ?_, hsame, fun hr => (hlinked hr).modifyLink _ hlink⟩
          rw [links_closeLink] at hm
          obtain ⟨n, hn, rfl⟩ := Option.map_eq_some_iff.1 hm
          rw [if_pos rfl]
          exact hlink n hn
      exact hlinked (hbefore.resolve_left fun hnone => hstatus (hsame.trans hnone))

/-! ## Runs -/

/-- A status that says more than disconnected comes with a connection that goes on, if it did
before or a connection is opened, as long as the worker runs and the client is not created
anew. -/
theorem linked_next {s : Stretch} {c : String} (hlaid : Laid s.before) (h : Attached s.before)
    (hw : s.after.working = true) (hstatus : s.after.status c ≠ .disconnected)
    (hnew : ¬ s.Replaces c)
    (hbefore : s.Connects c ∨ s.before.status c = .disconnected ∨ s.before.Linked c) :
    s.after.Linked c := by
  obtain ⟨a, t⟩ := s
  have hkeep : (∀ r, ¬ (Stretch.mk a t).Processes r) → a.status c = .disconnected ∨ a.Linked c :=
    fun hnone => hbefore.resolve_left fun ⟨p, hp, _⟩ => hnone _ hp
  cases t with
  | request r =>
    obtain ⟨-, -, hl, -⟩ := answer_parts r a
    have hsame : (a.answer r).1.status c = a.status c := status_answer r a c
    obtain hnone | ⟨k, l, hgoes, hc⟩ := hkeep fun q hq => nomatch hq.1
    · exact absurd (hsame.trans hnone) hstatus
    · exact ⟨k, l, ⟨(congrArg (·[k]?) hl).trans hgoes.1, hgoes.2⟩, hc⟩
  | work =>
    change a.work.1.working = true at hw
    change a.work.1.status c ≠ _ at hstatus
    change a.work.1.Linked c
    obtain ⟨hwork, hnone⟩ | ⟨r, rest, hcommands, hr, hwork⟩ := a.work_cases
    · rw [hwork] at hstatus ⊢
      exact (hkeep hnone).resolve_left hstatus
    · rw [hwork] at hw hstatus ⊢
      have hrest : Laid { a with commands := rest } := hlaid.restrict rfl rfl id
      refine linked_carryOut hrest ?_ hw hstatus (hbefore.imp_left ?_)
      · refine Bool.eq_false_iff.2 fun hcreates => hnew ?_
        obtain ⟨host, port, tls, rfl⟩ := Request.creates_iff.1 hcreates
        exact ⟨host, port, tls, hr⟩
      · rintro ⟨p, hp, hholds⟩
        exact ⟨⟨p, hr.unique hp⟩, hholds⟩
  | connection link s =>
    exact linked_onLink h hstatus (hkeep fun q hq => nomatch hq.1)

/-- The slot of a client keeps a connection, whatever became of it. -/
def KeepsLink (c : String) (a : Adapter) : Prop :=
  ∃ s k, a.slots.get? c = some s ∧ s.link = some k

theorem KeepsLink.congr {a b : Adapter} {c : String} (h : b.KeepsLink c)
    (hs : b.slots.get? c = a.slots.get? c) : a.KeepsLink c := by
  obtain ⟨s, k, hget, hk⟩ := h
  exact ⟨s, k, hs ▸ hget, hk⟩

/-- A slot whose connection is closed keeps none. -/
theorem keepsLink_of_stop {a : Adapter} {c d : String} {s : Slot}
    (h : (a.stop d s).KeepsLink c) : a.KeepsLink c := by
  unfold stop at h
  split at h
  · exact h
  · obtain ⟨t, k, ht, hk⟩ := h
    have ht : (a.slots.insert d { s with link := none }).get? c = some t := ht
    rw [Assoc.get?_insert] at ht
    split at ht
    · obtain rfl := Option.some.inj ht
      cases hk
    · exact ⟨t, k, ht, hk⟩

theorem keepsLink_of_stopped {a : Adapter} {c d : String} (h : (a.stopped d).KeepsLink c) :
    a.KeepsLink c :=
  stopped_of (P := fun b => b.KeepsLink c → a.KeepsLink c) id (fun _ _ => keepsLink_of_stop) h

/-- Only a request to connect gives the slot of a client a connection, and a creation takes it
away. -/
theorem keepsLink_of_carryOut {a : Adapter} {c : String} {r : Request}
    (h : (a.carryOut r).1.KeepsLink c) :
    (∃ p, r = .connect c p) ∧ a.holds c = true ∨ a.KeepsLink c ∧ r.creates c = false := by
  cases r with
  | create d host port tls =>
    obtain ⟨t, k, ht, hk⟩ := h
    have ht : ((a.stopped d).slots.insert d ⟨host, port, tls, (a.stopped d).books.length,
      none⟩).get? c = some t := ht
    rw [Assoc.get?_insert] at ht
    split at ht
    · obtain rfl := Option.some.inj ht
      cases hk
    · next hd => exact Or.inr ⟨keepsLink_of_stopped ⟨t, k, ht, hk⟩, by simp [Request.creates, hd]⟩
  | remove d =>
    obtain ⟨t, k, ht, hk⟩ := h
    have ht : ((a.stopped d).slots.erase d).get? c = some t := ht
    rw [Assoc.get?_erase] at ht
    split at ht
    · cases ht
    · exact Or.inr ⟨keepsLink_of_stopped ⟨t, k, ht, hk⟩, rfl⟩
  | connect d p =>
    simp only [carryOut] at h
    split at h
    · next s hs =>
      by_cases hd : d = c
      · subst hd
        exact Or.inl ⟨⟨p, rfl⟩, holds_of_get? hs⟩
      · refine Or.inr ⟨keepsLink_of_stop (d := d) (s := s) ?_, rfl⟩
        unfold connect at h
        dsimp only at h
        generalize a.stop d s = b at *
        split at h
        · exact h
        · split at h
          · obtain ⟨t, k, ht, -⟩ := h
            cases ht
          · exact h.congr ((Assoc.get?_insert ..).trans (if_neg hd))
    · exact Or.inr ⟨h, rfl⟩
  | disconnect d =>
    refine Or.inr ⟨?_, rfl⟩
    simp only [carryOut] at h
    split at h
    · unfold disconnect at h
      split at h
      · split at h
        · split at h
          · next b hb => exact h.congr (congrArg (Assoc.get? · c) (Steady.offer hb).slots)
          · next b hb =>
            obtain rfl := eq_of_offer_false hb
            exact keepsLink_of_stop
              (h.congr (congrArg (Assoc.get? · c) (Steady.reportEnd ..).slots))
        · exact keepsLink_of_stop (h.congr (congrArg (Assoc.get? · c) (Steady.reportEnd ..).slots))
      · exact h
    · exact h
  | subscribe id d topic qos =>
    refine Or.inr ⟨?_, rfl⟩
    simp only [carryOut] at h
    split at h
    · exact h.congr (congrArg (Assoc.get? · c) (Steady.subscribe ..).slots)
    · exact h
  | unsubscribe id d topic =>
    refine Or.inr ⟨?_, rfl⟩
    simp only [carryOut] at h
    split at h
    · exact h.congr (congrArg (Assoc.get? · c) (Steady.unsubscribe ..).slots)
    · exact h

theorem slots_onLink (a : Adapter) (link : Nat) (f : Connection → Connection × List Happening) :
    (a.onLink link f).1.slots = a.slots := by
  unfold onLink
  split
  · rfl
  · exact handleAll_of (P := fun b => b.slots = a.slots) rfl
      (fun x _ h => (Steady.handle link x _).slots.trans h) fun h => h

theorem keepsLink_of_next {s : Stretch} {c : String} (h : s.after.KeepsLink c) :
    s.Connects c ∨ s.before.KeepsLink c ∧ ¬ s.Replaces c := by
  obtain ⟨a, t⟩ := s
  cases t with
  | request r =>
    refine Or.inr ⟨h.congr (congrArg (Assoc.get? · c) (answer_parts r a).1), ?_⟩
    rintro ⟨host, port, tls, hr⟩
    cases hr.1
  | work =>
    change a.work.1.KeepsLink c at h
    obtain ⟨hwork, hnone⟩ | ⟨r, rest, -, hr, hwork⟩ := a.work_cases
    · rw [hwork] at h
      refine Or.inr ⟨h, ?_⟩
      rintro ⟨host, port, tls, hcreate⟩
      exact hnone _ hcreate
    · rw [hwork] at h
      obtain ⟨⟨p, rfl⟩, hholds⟩ | ⟨hkeeps, hcreates⟩ := keepsLink_of_carryOut h
      · exact Or.inl ⟨p, hr, hholds⟩
      · refine Or.inr ⟨hkeeps, ?_⟩
        rintro ⟨host, port, tls, hcreate⟩
        rw [hr.unique hcreate] at hcreates
        simp [Request.creates] at hcreates
  | connection link stimulus =>
    refine Or.inr ⟨h.congr (congrArg (Assoc.get? · c) (slots_onLink a link _)), ?_⟩
    rintro ⟨host, port, tls, hr⟩
    cases hr.1

/-- What a slot keeps was opened by a request to connect, and the client was not created anew
since. -/
theorem since_of_keepsLink {turns : List Turn} {c : String}
    (h : (after {} turns).KeepsLink c) :
    Since (Stretch.Connects c) (Stretch.Replaces c) (stretches turns {}) := by
  induction turns using List.reverseRecOn with
  | nil =>
    obtain ⟨s, -, hs, -⟩ := h
    cases hs
  | append_singleton turns t ih =>
    rw [after_append] at h
    rw [stretches_append]
    refine (since_append_singleton ..).2 ((keepsLink_of_next (s := ⟨after {} turns, t⟩) h).imp_right
      fun hbefore => ⟨ih hbefore.1, hbefore.2⟩)

/-- While the worker runs, a client that was not created anew since its last request to connect has
a connection that goes on, or it is disconnected. -/
theorem linked_after {turns : List Turn} {c : String} (hw : (after {} turns).working = true)
    (hstatus : (after {} turns).status c ≠ .disconnected)
    (hsince : Since (Stretch.Connects c) (Stretch.Replaces c) (stretches turns {})) :
    (after {} turns).Linked c := by
  induction turns using List.reverseRecOn with
  | nil => exact absurd hsince (not_since_nil _ _)
  | append_singleton turns t ih =>
    rw [after_append] at hw hstatus ⊢
    rw [stretches_append] at hsince
    have hbefore : (after {} turns).working = true := (next_client ⟨after {} turns, t⟩ c hw).1
    have hnext := linked_next (s := ⟨after {} turns, t⟩) (sound_after turns).toLaid
      (attached_after turns hbefore) hw hstatus
    obtain hconnects | ⟨hearlier, hnew⟩ := (since_append_singleton ..).1 hsince
    · refine hnext (fun ⟨_, _, _, hcreate⟩ => ?_) (Or.inl hconnects)
      obtain ⟨p, hp, -⟩ := hconnects
      cases hcreate.unique hp
    · refine hnext hnew (Or.inr ?_)
      by_cases hnone : (after {} turns).status c = .disconnected
      · exact Or.inl hnone
      · exact Or.inr (ih hbefore hnone hearlier)

/-- After every run, a client that does not count as disconnected has a connection behind its
status, kept by its slot, of its latest generation and going on, if and only if the worker runs and
the client was not created anew since its last request to connect was carried out. -/
theorem status_backed_iff (turns : List Turn) (c : String)
    (h : (after {} turns).status c ≠ .disconnected) :
    (after {} turns).Backed c ↔ (after {} turns).working = true ∧
      Since (Stretch.Connects c) (Stretch.Replaces c) (stretches turns {}) := by
  constructor
  · rintro ⟨s, k, l, hs, hk, -⟩
    refine ⟨?_, since_of_keepsLink ⟨s, k, hs, hk⟩⟩
    -- a worker that has ended holds no slot
    have hstop : (after {} turns).working = false → ∀ id, (after {} turns).holds id = false :=
      holds_after (P := fun a => a.working = false → ∀ id, a.holds id = false)
        (fun h => absurd h (by decide)) (fun _ t h => holds_next_of_stopped h t) turns
    by_contra hw
    have hnone := hstop (Bool.eq_false_iff.2 hw) c
    rw [holds_of_get? hs] at hnone
    cases hnone
  · rintro ⟨hw, hsince⟩
    exact (attached_after turns hw).backed_iff_linked.2 (linked_after hw h hsince)

/-- A client is created, and its request to connect is carried out. -/
def connecting : List Turn :=
  [.request (.create "c" "h" 1883 false), .work, .request (.connect "c" ⟨60, true, "", ""⟩), .work]

/-- A client that is connecting has a connection behind its status. -/
theorem status_backed_of_connecting :
    (after {} connecting).status "c" ≠ .disconnected ∧ (after {} connecting).Backed "c" := by
  have hstatus : (after {} connecting).status "c" ≠ .disconnected := by decide
  refine ⟨hstatus, (status_backed_iff connecting "c" hstatus).2 ⟨by decide, ?_⟩⟩
  exact since_of_keepsLink ⟨⟨"h", 1883, false, 0, some 0⟩, 0, by decide, rfl⟩

/-- A client that is connecting and is created once more counts as connecting, and no connection
stands behind it. -/
theorem recreated_client_stays_connecting :
    let a := after {} (connecting ++ [.request (.create "c" "h" 1883 false), .work])
    a.working = true ∧ a.status "c" = .connecting ∧
      a.slots.get? "c" = some ⟨"h", 1883, false, 1, none⟩ ∧ ¬ a.Backed "c" := by
  intro a
  have hslot : a.slots.get? "c" = some ⟨"h", 1883, false, 1, none⟩ := by decide
  refine ⟨by decide, by decide, hslot, ?_⟩
  rintro ⟨s, k, l, hs, hk, -⟩
  obtain rfl := Option.some.inj (hslot.symm.trans hs)
  cases hk

end Adapter

end MqttRelay.Native
