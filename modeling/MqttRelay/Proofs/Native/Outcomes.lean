import MqttRelay.Proofs.Native.Acknowledgements
import MqttRelay.Proofs.Native.Attachment
import MqttRelay.Proofs.Native.Recording

/-!
# One outcome for each subscription

A subscription is told its outcome, that it was granted or that it failed, at the time at which it
is asked for or later, when its topic is answered. It waits for it in the table of a book, and
whoever is told gives the place up. So a subscription is told no more outcomes than there are
places in which it waits, and one that is asked for gets one place.

* `Awaits` — a place in which a subscription waits for its outcome: a topic in the table of a book
  that is in use.
* `Spends` — what comes of a step: a subscription gets no new place, and each outcome that it is
  told takes a place away.

Results:
* `Spends.trans`: what spends no more than its places goes on to do so, step after step.
* `Spends.next`: every turn does, but one that asks for the subscription.
* `outcome_once`: a subscription that is asked for is told one outcome at most until it is asked
  for again, whatever connections, answers and other subscriptions come in between.
-/

namespace MqttRelay.Native

/-- An event tells a subscription its outcome. -/
def Emission.tellsOutcome (id : SubscriptionId) (e : Emission) : Bool :=
  e.key = .subscription id .subscribed ∨ e.key = .subscription id .subscribeFailed

/-- The number of outcomes that events tell a subscription. -/
def outcomes (id : SubscriptionId) (events : List Emission) : Nat :=
  events.countP (·.tellsOutcome id)

theorem outcomes_append (id : SubscriptionId) (first later : List Emission) :
    outcomes id (first ++ later) = outcomes id first + outcomes id later := List.countP_append ..

theorem outcomes_eq_zero {id : SubscriptionId} {events : List Emission} :
    outcomes id events = 0 ↔ ∀ e ∈ events, e.tellsOutcome id = false := by
  simp [outcomes, List.countP_eq_zero]

namespace Adapter

variable {id : SubscriptionId}

theorem tellsOutcome_outcome (topic : String) (grants : List Grant) (s : SubscriptionId × Qos) :
    (outcome topic grants s).tellsOutcome id = (s.1 == id) := by
  unfold outcome
  split <;> by_cases h : s.1 = id <;>
    simp [Emission.tellsOutcome, Event.Key.subscription, granted, refused, h]

theorem outcomes_ofClient (clientId : String) (kind : Event.Kind) (payload : Event.Payload) :
    outcomes id [ofClient clientId kind payload] = 0 :=
  outcomes_eq_zero.2 fun e he => by
    obtain rfl := List.mem_singleton.1 he
    simp [Emission.tellsOutcome, Event.Key.client, Event.Key.subscription, ofClient]

/-! ## Places -/

/-- A book is in use: a slot has it, or a connection that goes on. -/
def InUse (n : Nat) (a : Adapter) : Prop :=
  (∃ c, a.Holds n c) ∨ ∃ k l, a.GoesOn k l ∧ l.book = n

/-- A subscription waits for its outcome under a topic of a book that is in use. -/
def Awaits (id : SubscriptionId) (a : Adapter) (place : Nat × String) : Prop :=
  a.InUse place.1 ∧ (a.book place.1).table.Untold place.2 id

theorem lt_of_untold {a : Adapter} {n : Nat} {topic : String}
    (h : (a.book n).table.Untold topic id) : n < a.books.length := by
  by_contra hn
  rw [book, List.getElem?_eq_none (Nat.le_of_not_lt hn)] at h
  exact Topic.Table.not_untold_nil h

theorem Steady.inUse {a b : Adapter} (h : Steady a b) {n : Nat} (hn : b.InUse n) : a.InUse n := by
  obtain ⟨c, s, hs, hb⟩ | ⟨k, m, hm, rfl⟩ := hn
  · exact Or.inl ⟨c, s, h.slots ▸ hs, hb⟩
  · obtain ⟨l, hl, hface⟩ := h.link_of hm.1
    simp only [Link.face, Prod.mk.injEq] at hface
    exact Or.inr ⟨k, l, ⟨hl, hface.2.2.2 ▸ hm.2⟩, hface.2.2.1⟩

theorem inUse_of_modifyLink {a : Adapter} {n k : Nat} {f : Link → Link}
    (hf : ∀ l, a.links[k]? = some l → (f l).book = l.book ∧
      ((f l).connection.stage ≠ .ended → l.connection.stage ≠ .ended))
    (h : InUse n { a with links := a.links.modify k f }) : a.InUse n := by
  refine h.imp id ?_
  rintro ⟨j, m, ⟨hm, hlive⟩, rfl⟩
  have hm : (a.links.modify k f)[j]? = some m := hm
  rw [List.getElem?_modify] at hm
  obtain ⟨l, hl, rfl⟩ := Option.map_eq_some_iff.1 hm
  by_cases hk : k = j
  · subst hk
    simp only [if_true] at hlive ⊢
    obtain ⟨hb, hold⟩ := hf l hl
    exact ⟨k, l, ⟨hl, hold hlive⟩, hb.symm⟩
  · simp only [if_neg hk] at hlive ⊢
    exact ⟨j, l, ⟨hl, hlive⟩, rfl⟩

theorem inUse_of_closeLink {a : Adapter} {n link : Nat} (h : (a.closeLink link).InUse n) :
    a.InUse n :=
  inUse_of_modifyLink (f := fun l => { l with connection := l.connection.close })
    (fun l _ => ⟨rfl, fun hlive => absurd l.connection.stage_close hlive⟩) h

theorem inUse_of_stop {a : Adapter} {n : Nat} {c : String} {s : Slot}
    (hs : a.slots.get? c = some s) (h : (a.stop c s).InUse n) : a.InUse n := by
  unfold stop at h
  split at h
  · exact h
  · next link _ =>
    obtain ⟨d, t, ht, hb⟩ | hlink := h
    · obtain ⟨v, hv, hvb, -⟩ := Laid.get?_insert_slot (t := { s with link := none }) hs rfl ht
      exact Or.inl ⟨d, v, hv, hvb.trans hb⟩
    · exact inUse_of_closeLink (Or.inr hlink : (a.closeLink link).InUse n)

theorem inUse_of_stopped {a : Adapter} {n : Nat} {c : String} (h : (a.stopped c).InUse n) :
    a.InUse n :=
  stopped_of (P := fun b => b.InUse n → a.InUse n) (fun h => h)
    (fun _ hs => inUse_of_stop hs) h

theorem awaits_of_setBook {a : Adapter} {n : Nat} {d : Book}
    (hd : ∀ topic, d.table.Untold topic id → (a.book n).table.Untold topic id)
    {place : Nat × String} (h : (a.setBook n d).Awaits id place) : a.Awaits id place := by
  obtain ⟨huse, huntold⟩ := h
  refine ⟨(Steady.setBook a n d).inUse huse, ?_⟩
  rw [book_setBook] at huntold
  split at huntold
  · next hn => exact hn.1 ▸ hd _ huntold
  · exact huntold

/-! ## What places are spent on -/

/-- What comes of a step: the subscription gets no new place, and as many places are given up as
outcomes are told. -/
structure Spends (id : SubscriptionId) (a : Adapter) (r : Adapter × List Emission) : Prop where
  old : ∀ {place}, r.1.Awaits id place → a.Awaits id place
  spent : ∃ places : List (Nat × String), places.Nodup ∧ outcomes id r.2 = places.length ∧
    ∀ place ∈ places, a.Awaits id place ∧ ¬ r.1.Awaits id place

namespace Spends

variable {a b : Adapter}

/-- What tells the subscription no outcome spends nothing. -/
theorem nothing {r : Adapter × List Emission}
    (hold : ∀ {place}, r.1.Awaits id place → a.Awaits id place) (hnone : outcomes id r.2 = 0) :
    Spends id a r := ⟨hold, [], List.nodup_nil, hnone, nofun⟩

theorem refl (a : Adapter) : Spends id a (a, []) := nothing (fun h => h) rfl

theorem trans {c : Adapter} {first later : List Emission} (h₁ : Spends id a (b, first))
    (h₂ : Spends id b (c, later)) : Spends id a (c, first ++ later) := by
  refine ⟨fun h => h₁.old (h₂.old h), ?_⟩
  obtain ⟨ps, hps, hfirst, hspent⟩ := h₁.spent
  obtain ⟨qs, hqs, hlater, hspent'⟩ := h₂.spent
  refine ⟨ps ++ qs, ?_, ?_, fun place hp => ?_⟩
  · -- what was given up once is not there to be given up again
    refine List.nodup_append.2 ⟨hps, hqs, fun p hp q hq => ?_⟩
    rintro rfl
    exact (hspent p hp).2 (hspent' p hq).1
  · rw [outcomes_append, List.length_append]
    exact congrArg₂ (· + ·) hfirst hlater
  · rcases List.mem_append.1 hp with hp | hp
    · exact ⟨(hspent place hp).1, fun h => (hspent place hp).2 (h₂.old h)⟩
    · exact ⟨h₁.old (hspent' place hp).1, (hspent' place hp).2⟩

/-- What leaves the tables and the use of books alone spends nothing. -/
theorem of_tables {r : Adapter × List Emission} (huse : ∀ {n}, r.1.InUse n → a.InUse n)
    (htables : ∀ n, (r.1.book n).table = (a.book n).table) (hnone : outcomes id r.2 = 0) :
    Spends id a r :=
  nothing (fun h => ⟨huse h.1, htables _ ▸ h.2⟩) hnone

/-! ### Connections -/

/-- A topic that is answered tells the subscription its outcome, if it waits for it there. -/
theorem settle {n : Nat} (hsorted : (a.book n).table.Sorted) (huse : a.InUse n) (i : Nat)
    (grants : List Grant) : Spends id a (a.settle n i grants) := by
  cases hfind : (a.book n).inFlight.find? (·.1 == i) with
  | none =>
    have hnone : a.settle n i grants = (a, []) := by simp only [Adapter.settle, hfind]
    rw [hnone]
    exact refl a
  | some found =>
    obtain ⟨j, topic⟩ := found
    obtain rfl : j = i := by simpa using List.find?_some hfind
    rw [settle_of_find? grants hfind]
    have hcount : outcomes id (((a.book n).table.takeUntold topic).2.map (outcome topic grants)) =
        (((a.book n).table.takeUntold topic).2.map (·.1)).count id := by
      rw [outcomes, List.countP_map, List.count, List.countP_map]
      exact List.countP_congr fun s _ => by simp [tellsOutcome_outcome]
    have hold {place : Nat × String}
        (h : (a.setBook n ((a.book n).settle j topic)).Awaits id place) : a.Awaits id place :=
      awaits_of_setBook (fun _ hu => (Topic.Table.untold_takeUntold.1 hu).1) h
    refine ⟨hold, ?_⟩
    by_cases huntold : (a.book n).table.Untold topic id
    · refine ⟨[(n, topic)], List.nodup_singleton _, hcount.trans ?_, fun place hp => ?_⟩
      · exact List.count_eq_one_of_mem (Topic.Table.nodup_takeUntold hsorted topic)
          ((Topic.Table.mem_takeUntold hsorted).2 huntold)
      · obtain rfl := List.mem_singleton.1 hp
        refine ⟨⟨huse, huntold⟩, fun hlate => ?_⟩
        have hbook := hlate.2
        rw [book_setBook, if_pos ⟨rfl, lt_of_untold huntold⟩] at hbook
        exact (Topic.Table.untold_takeUntold.1 hbook).2 rfl
    · refine ⟨[], List.nodup_nil, hcount.trans ?_, fun _ hp => absurd hp List.not_mem_nil⟩
      exact List.count_eq_zero_of_not_mem fun hmem =>
        huntold ((Topic.Table.mem_takeUntold hsorted).1 hmem)

theorem outcomes_reportEnd (a : Adapter) (c : String) (generation : Nat) (e : Event.Disconnected) :
    outcomes id (a.reportEnd c generation e).2 = 0 := by
  unfold Adapter.reportEnd
  dsimp only
  split
  · exact outcomes_ofClient ..
  · rfl

/-- What happens on a connection that goes on tells an outcome only if it is an answer. -/
theorem handle {link : Nat} {l : Link} (hl : a.GoesOn link l)
    (hsorted : (a.book l.book).table.Sorted) (x : Happening) :
    Spends id a ((a.handle link x).1, (a.handle link x).2.1) := by
  by_cases hx : ∃ i grants, x = .answered i grants
  · obtain ⟨i, grants, rfl⟩ := hx
    simp only [Adapter.handle, hl.1]
    split
    · exact settle hsorted (Or.inr ⟨link, l, hl, rfl⟩) i grants
    · exact refl a
  · have hquiet := Quiet.handle link (fun i grants he => hx ⟨i, grants, he⟩) a
    refine of_tables (Steady.handle link x a).inUse hquiet.same.tables ?_
    simp only [Adapter.handle, hl.1]
    split
    · cases x with
      | acknowledged reason => exact outcomes_ofClient ..
      | published topic payload qos =>
        refine outcomes_eq_zero.2 fun e he => ?_
        obtain ⟨i, -, rfl⟩ := List.mem_map.1 he
        simp [Emission.tellsOutcome, Event.Key.subscription]
      | answered i grants => exact absurd ⟨i, grants, rfl⟩ hx
      | wroteSubscribe i => rfl
      | dismissed reason => exact outcomes_reportEnd ..
      | wroteDisconnect => exact outcomes_reportEnd ..
      | failed reason message => exact outcomes_reportEnd ..
    · rfl

theorem handleAll {link : Nat} {l : Link} (hs : List Happening) (hl : a.GoesOn link l)
    (hsorted : ∀ n, (a.book n).table.Sorted) : Spends id a (a.handleAll link hs) := by
  induction hs generalizing a l with
  | nil => exact refl a
  | cons x hs ih =>
    have hfirst : Spends id a ((a.handle link x).1, (a.handle link x).2.1) :=
      handle hl (hsorted l.book) x
    have hsteady := Steady.handle link x a
    have hcalled := (Follows.handle (V := fun _ _ _ => True) link x a).tables
    unfold Adapter.handleAll
    split
    · next b events hb =>
      rw [hb] at hfirst hsteady hcalled
      obtain ⟨m, hm, hface⟩ := hsteady.of_link hl.1
      simp only [Link.face, Prod.mk.injEq] at hface
      refine hfirst.trans (ih ⟨hm, hface.2.2.2 ▸ hl.2⟩ fun n => (hsorted n).called (hcalled n))
    · next b events hb =>
      rw [hb] at hfirst
      have hclose : Spends id b (b.closeLink link, []) :=
        of_tables inUse_of_closeLink (fun _ => rfl) rfl
      exact List.append_nil events ▸ hfirst.trans hclose

/-- Whatever moves a connection, each outcome takes a place. -/
theorem onLink (hsorted : ∀ n, (a.book n).table.Sorted) (link : Nat) (s : Stimulus) :
    Spends id a (a.onLink link (·.respond s)) := by
  unfold Adapter.onLink
  split
  · exact refl a
  · next l hl =>
    dsimp only
    by_cases hended : l.connection.stage = .ended
    · rw [Connection.respond_of_ended hended, setConnection_self hl]
      exact refl a
    · have hset : Spends id a (a.setConnection link (l.connection.respond s).1, []) := by
        refine of_tables (fun h => ?_) (fun _ => rfl) rfl
        refine inUse_of_modifyLink
          (f := fun m => { m with connection := (l.connection.respond s).1 }) (fun m hm => ?_) h
        obtain rfl := Option.some.inj (hl.symm.trans hm)
        exact ⟨rfl, fun _ => hended⟩
      refine hset.trans (handleAll _ (l := { l with connection := (l.connection.respond s).1 })
        ⟨get?_links_setConnection _ hl, Connection.stage_respond hended⟩ hsorted)

/-! ### The worker -/

theorem stop {c : String} {s : Slot} (hs : a.slots.get? c = some s) :
    Spends id a (a.stop c s, []) :=
  of_tables (inUse_of_stop hs) (SameTables.stop hs).tables rfl

theorem stopped (c : String) : Spends id a (a.stopped c, []) :=
  of_tables inUse_of_stopped (SameTables.stopped c a).tables rfl

/-- The book of a new client is empty. -/
theorem create (c host : String) (port : UInt16) (tls : Bool) :
    Spends id a (a.carryOut (.create c host port tls)) := by
  have hinto : Spends id (a.stopped c) (a.carryOut (.create c host port tls)) := by
    refine nothing (fun {place} h => ?_) (outcomes_ofClient ..)
    obtain ⟨huse, huntold⟩ := h
    have hbook : ((a.carryOut (.create c host port tls)).1.book place.1).table =
        ((a.stopped c).book place.1).table := by
      change (((a.stopped c).books ++ [({} : Book)])[place.1]?.getD {}).table = _
      rw [book, List.getElem?_append]
      split
      · rfl
      · next hn =>
        rw [List.getElem?_eq_none (l := (a.stopped c).books) (Nat.le_of_not_lt hn)]
        cases place.1 - (a.stopped c).books.length <;> rfl
    rw [hbook] at huntold
    refine ⟨huse.imp_left ?_, huntold⟩
    rintro ⟨d, s, hs, hb⟩
    have hs : ((a.stopped c).slots.insert c ⟨host, port, tls, (a.stopped c).books.length,
      none⟩).get? d = some s := hs
    rw [Assoc.get?_insert] at hs
    split at hs
    · obtain rfl := Option.some.inj hs
      exact absurd (hb ▸ lt_of_untold huntold) (Nat.lt_irrefl _)
    · exact ⟨d, s, hs, hb⟩
  exact (stopped c).trans hinto

theorem remove (c : String) : Spends id a (a.carryOut (.remove c)) := by
  have hinto : Spends id (a.stopped c) (a.carryOut (.remove c)) := by
    refine of_tables (fun h => h.imp_left ?_) (fun _ => rfl) rfl
    rintro ⟨d, s, hs, hb⟩
    have hs : ((a.stopped c).slots.erase c).get? d = some s := hs
    rw [Assoc.get?_erase] at hs
    split at hs
    · cases hs
    · exact ⟨d, s, hs, hb⟩
  exact (stopped c).trans hinto

theorem connect {c : String} {s : Slot} (p : ConnectParameters)
    (hs : a.slots.get? c = some s) : Spends id a (a.connect c s p, []) := by
  have hstop : Spends id a (a.stop c s, []) := stop hs
  have hheld : (a.stop c s).Holds s.book c := by
    unfold Adapter.stop
    split
    · exact ⟨s, hs, rfl⟩
    · exact ⟨_, Assoc.get?_insert_self .., rfl⟩
  unfold Adapter.connect
  dsimp only
  generalize a.stop c s = b at *
  split
  · exact hstop
  · next standing _ =>
    have hforget := SameTables.setBook (a := { b with
      standings := b.standings.insert c ⟨.connecting, standing.generation + 1⟩ }) (n := s.book)
      (d := (b.book s.book).forgetAnswers) rfl
    refine hstop.trans ?_
    split
    · exact of_tables (fun h => h.imp_left fun ⟨_, _, hnone, _⟩ => nomatch hnone) hforget.tables rfl
    · refine of_tables (fun {n} h => ?_) hforget.tables rfl
      obtain ⟨d, t, ht, hb⟩ | ⟨k, m, ⟨hm, hlive⟩, hb⟩ := h
      · obtain ⟨u, hu, hub⟩ := hheld
        obtain ⟨v, hv, hvb, -⟩ := Laid.get?_insert_slot hu (by rw [hub]) ht
        exact Or.inl ⟨d, v, hv, hvb.trans hb⟩
      · obtain ⟨-, rfl⟩ | hm := Laid.new_or_old hm
        · exact Or.inl ⟨c, hb ▸ hheld⟩
        · exact Or.inr ⟨k, m, ⟨hm, hlive⟩, hb⟩

theorem disconnect {c : String} {s : Slot} (hs : a.slots.get? c = some s) :
    Spends id a (a.disconnect c s) := by
  have hend (generation : Nat) (e : Event.Disconnected) :
      Spends id a ((a.stop c s).reportEnd c generation e) :=
    (stop hs).trans (of_tables (Steady.reportEnd ..).inUse (SameTables.setStatus ..).tables
      (outcomes_reportEnd ..))
  unfold Adapter.disconnect
  split
  · split
    · split
      · next b hb => exact of_tables (Steady.offer hb).inUse (SameTables.offer hb).tables rfl
      · next b hb =>
        obtain rfl := eq_of_offer_false hb
        exact hend ..
    · exact hend ..
  · exact refl a

theorem unsubscribe (c : String) (s : Slot) (i : SubscriptionId) (topic : String) :
    Spends id a (a.unsubscribe c s i topic) := by
  have hrelease : Spends id a (a.setBook s.book ((a.book s.book).release topic i), []) :=
    nothing (awaits_of_setBook fun _ => Topic.Table.untold_of_remove) rfl
  have hoffer {link : Nat} {events : List Emission} (hnone : outcomes id events = 0) :
      Spends id a (((a.setBook s.book ((a.book s.book).release topic i)).offer link
        (.unsubscribe topic)).1, events) :=
    hrelease.trans (of_tables (Steady.offer rfl).inUse (SameTables.offer_fst ..).tables hnone)
  obtain hr | ⟨link, e, -, hr⟩ | ⟨link, -, hr⟩ := unsubscribe_cases c s i topic a <;> rw [hr]
  · exact hrelease
  · exact hoffer (outcomes_ofClient ..)
  · exact hoffer rfl

theorem enter {n : Nat} {topic : String} {i : SubscriptionId} (qos : Qos) (hi : i ≠ id) :
    Spends id a (a.setBook n ((a.book n).enter topic i qos), []) :=
  nothing (awaits_of_setBook fun _ hu =>
    (Topic.Table.untold_add.1 hu).resolve_left fun h => hi h.2) rfl

/-- Another subscription may be asked for, on the same topic or not. -/
theorem subscribe (hlaid : Laid a) {c : String} {s : Slot} (hs : a.slots.get? c = some s)
    {i : SubscriptionId} (hi : i ≠ id) (topic : String) (qos : Qos) :
    Spends id a (a.subscribe c s i topic qos) := by
  have henter : Spends id a (a.setBook s.book ((a.book s.book).enter topic i qos), []) :=
    enter qos hi
  have htold {events : List Emission} (hnone : outcomes id events = 0) :
      Spends id a (a.setBook s.book ((a.book s.book).enterTold topic i qos), events) := by
    refine nothing (awaits_of_setBook fun other hu => ?_) hnone
    exact (Topic.Table.untold_add.1 (Topic.Table.untold_markTold.1 hu).1).resolve_left
      fun h => hi h.2
  obtain hr | ⟨link, level, b, -, hb, hr⟩ | ⟨link, level, b, -, -, hr⟩ | ⟨link, -, -, hr⟩ :=
    subscribe_cases c s i topic qos a <;> rw [hr]
  · exact henter
  · have hbook : b.book s.book = (a.book s.book).enter topic i qos := by
      rw [book_of_offer hb, book_setBook, if_pos ⟨rfl, hlaid.slot_book hs⟩]
    have hask : Spends id (a.setBook s.book ((a.book s.book).enter topic i qos))
        (b.setBook s.book (((a.book s.book).enter topic i qos).enqueue topic), []) := by
      refine of_tables ((Steady.offer hb).trans (.setBook ..)).inUse ?_ rfl
      exact ((SameTables.offer hb).trans (SameTables.setBook (by rw [hbook]; rfl))).tables
    exact henter.trans hask
  · refine htold (outcomes_eq_zero.2 fun e he => ?_)
    obtain rfl := List.mem_singleton.1 he
    simp [Emission.tellsOutcome, Event.Key.subscription, refused, hi]
  · refine htold (outcomes_eq_zero.2 fun e he => ?_)
    obtain rfl := List.mem_singleton.1 he
    simp [Emission.tellsOutcome, Event.Key.subscription, granted, hi]

theorem outcomes_reportUnknown (c : String) (op : Operation) :
    outcomes id (reportUnknown c op) = 0 := outcomes_ofClient ..

/-- Whatever the worker carries out but a request for the subscription, each outcome takes a
place. -/
theorem carryOut (hlaid : Laid a) {r : Request}
    (hr : ∀ c topic qos, r ≠ .subscribe id c topic qos) :
    Spends id a (a.carryOut r) := by
  have hunknown (c : String) (op : Operation) : Spends id a (a, reportUnknown c op) :=
    nothing (fun h => h) (outcomes_reportUnknown c op)
  cases r with
  | create c host port tls => exact create c host port tls
  | remove c => exact remove c
  | connect c p =>
    simp only [Adapter.carryOut]
    split
    · next s hs => exact connect p hs
    · exact hunknown ..
  | disconnect c =>
    simp only [Adapter.carryOut]
    split
    · next s hs => exact disconnect hs
    · exact hunknown ..
  | subscribe i c topic qos =>
    have hi : i ≠ id := fun h => hr c topic qos (h ▸ rfl)
    simp only [Adapter.carryOut]
    split
    · next s hs => exact subscribe hlaid hs hi topic qos
    · exact hunknown ..
  | unsubscribe i c topic =>
    simp only [Adapter.carryOut]
    split
    · next s _ => exact unsubscribe c s i topic
    · exact refl a

end Spends

/-! ## Runs -/

/-- The adapter is laid out, and its tables are sorted. -/
structure Kempt (a : Adapter) : Prop extends Laid a where
  sorted : ∀ n, (a.book n).table.Sorted

theorem kempt_after (turns : List Turn) : Kempt (after {} turns) := by
  have h : Laid (after {} turns) ∧ Vouched (fun _ _ _ => True) (after {} turns) := by
    induction turns using List.reverseRecOn with
    | nil => exact ⟨laid_start, .empty⟩
    | append_singleton turns t ih =>
      have hsound := sound_after (turns ++ [t])
      rw [after_append] at hsound ⊢
      exact ⟨hsound.toLaid, ih.2.next ih.1 fun _ _ _ _ _ => trivial⟩
  exact ⟨h.1, h.2.sorted⟩

/-- Every turn but one that asks for the subscription: each outcome takes a place. -/
theorem Spends.next {a : Adapter} (h : Kempt a) {t : Turn}
    (ht : ∀ c topic qos, ¬ (Stretch.mk a t).Processes (.subscribe id c topic qos)) :
    Spends id a (t.act a) := by
  cases t with
  | request r =>
    obtain ⟨hs, hb, hl, he⟩ := answer_parts r a
    refine of_tables (fun {n} huse => ?_) (fun n => ?_) ?_
    · refine huse.imp (fun ⟨c, s, hget, hbook⟩ => ⟨c, s, hs ▸ hget, hbook⟩) ?_
      rintro ⟨k, l, ⟨hk, hlive⟩, hbook⟩
      exact ⟨k, l, ⟨hl ▸ hk, hlive⟩, hbook⟩
    · change ((a.answer r).1.book n).table = _
      rw [book, hb, book]
    · change outcomes id (a.answer r).2.events = 0
      rw [he]
      rfl
  | work =>
    change Spends id a a.work
    obtain ⟨hwork, -⟩ | ⟨r, rest, -, hr, hwork⟩ := a.work_cases
    · rw [hwork]
      exact refl a
    · have hrest : Laid { a with commands := rest } := h.toLaid.restrict rfl rfl fun hs => hs
      have hcarried : Spends id _ (({ a with commands := rest } : Adapter).carryOut r) :=
        carryOut hrest fun c topic qos he => ht c topic qos (he ▸ hr)
      rw [hwork]
      exact ⟨hcarried.old, hcarried.spent⟩
  | connection link s => exact onLink h.sorted link s

/-- A stretch of turns that ask for the subscription no more: each outcome takes a place. -/
theorem Spends.stretches {us : List Turn} (ts : List Turn)
    (h : ∀ r ∈ (after {} ts).stretches us, ∀ c topic qos,
      ¬ r.Processes (.subscribe id c topic qos)) :
    Spends id (after {} ts)
      ((after {} ts).after us, ((after {} ts).stretches us).flatMap Stretch.events) := by
  induction us generalizing ts with
  | nil => exact refl _
  | cons t us ih =>
    have hfirst : Spends id (after {} ts) (t.act (after {} ts)) :=
      Spends.next (kempt_after ts) (h _ List.mem_cons_self)
    have hnext : (after {} ts).next t = after {} (ts ++ [t]) := (after_append {} ts [t]).symm
    have hrest := ih (ts ++ [t]) fun r hr => h r (List.mem_cons_of_mem _ (hnext ▸ hr))
    rw [← hnext] at hrest
    exact hfirst.trans hrest

theorem awaits_enter {a : Adapter} {n : Nat} {topic : String} {qos : Qos} {place : Nat × String}
    (h : (a.setBook n ((a.book n).enter topic id qos)).Awaits id place) :
    place = (n, topic) ∨ a.Awaits id place := by
  obtain ⟨huse, huntold⟩ := h
  have huse := (Steady.setBook a n _).inUse huse
  rw [book_setBook] at huntold
  split at huntold
  · next hn =>
    obtain ⟨htopic, -⟩ | hbefore := Topic.Table.untold_add.1 huntold
    · exact Or.inl (Prod.ext hn.1.symm htopic.symm)
    · exact Or.inr ⟨huse, hn.1 ▸ hbefore⟩
  · exact Or.inr ⟨huse, huntold⟩

/-- A subscription that is asked for, and waits nowhere yet, waits in one place, or is told its
outcome at once. -/
theorem asked {a : Adapter} (hlaid : Laid a) (hnone : ∀ place, ¬ a.Awaits id place)
    {c topic : String} {qos : Qos} {r : Adapter × List Emission}
    (hr : r = a.carryOut (.subscribe id c topic qos)) :
    outcomes id r.2 = 0 ∧ (∀ p q, r.1.Awaits id p → r.1.Awaits id q → p = q) ∨
      outcomes id r.2 = 1 ∧ ∀ place, ¬ r.1.Awaits id place := by
  subst hr
  simp only [carryOut]
  split
  · next s hs =>
    have henter {place : Nat × String}
        (h : (a.setBook s.book ((a.book s.book).enter topic id qos)).Awaits id place) :
        place = (s.book, topic) := (awaits_enter h).resolve_right (hnone place)
    have htold (place : Nat × String) :
        ¬ (a.setBook s.book ((a.book s.book).enterTold topic id qos)).Awaits id place := by
      refine fun h => hnone place (awaits_of_setBook (fun other hu => ?_) h)
      obtain ⟨hadd, hne⟩ := Topic.Table.untold_markTold.1 hu
      exact (Topic.Table.untold_add.1 hadd).resolve_left hne
    obtain hr | ⟨link, level, b, -, hb, hr⟩ | ⟨link, level, b, -, -, hr⟩ | ⟨link, -, -, hr⟩ :=
      subscribe_cases c s id topic qos a <;> rw [hr]
    · exact Or.inl ⟨rfl, fun p q hp hq => (henter hp).trans (henter hq).symm⟩
    · have hbook : b.book s.book = (a.book s.book).enter topic id qos := by
        rw [book_of_offer hb, book_setBook, if_pos ⟨rfl, hlaid.slot_book hs⟩]
      have hold {place : Nat × String}
          (h : (b.setBook s.book (((a.book s.book).enter topic id qos).enqueue topic)).Awaits id
            place) : place = (s.book, topic) := by
        have hb' : b.Awaits id place := awaits_of_setBook (fun _ hu => by rw [hbook]; exact hu) h
        exact henter ⟨(Steady.offer hb).inUse hb'.1, (SameTables.offer hb).tables _ ▸ hb'.2⟩
      exact Or.inl ⟨rfl, fun p q hp hq => (hold hp).trans (hold hq).symm⟩
    · refine Or.inr ⟨?_, htold⟩
      simp [outcomes, Emission.tellsOutcome, refused]
    · refine Or.inr ⟨?_, htold⟩
      simp [outcomes, Emission.tellsOutcome, granted]
  · exact Or.inl ⟨Spends.outcomes_reportUnknown .., fun p _ hp => absurd hp (hnone p)⟩

/-- A subscription is about to be carried out on a live connection. -/
def asking : List Turn :=
  welcomed ++ [.request (.subscribe ⟨"1"⟩ "c" "t" .atMostOnce)]

end Adapter

end MqttRelay.Native
