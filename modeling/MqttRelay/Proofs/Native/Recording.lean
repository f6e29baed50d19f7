import MqttRelay.Proofs.Native.Grants

/-!
# Whom the tables record

A subscription gets into the table of a client by a request of the client for it, and by no other
way. So whatever may be said of all requests, that a subscription was made for the client and the
topic, goes for whatever the tables record, as long as a book is read by its own client.

Results:
* `Follows.onLink`: the connections record nobody but whom the worker recorded.
* `Vouched.next`: if all requests are vouched for, so is whatever is recorded.
-/

namespace MqttRelay.Native.Adapter

open Topic.Table (Called)

/-- The slot of a client has a book. -/
def Holds (a : Adapter) (n : Nat) (clientId : String) : Prop :=
  ∃ s, a.slots.get? clientId = some s ∧ s.book = n

/-- A book is one of a client's: its slot has it, or a connection of it does. -/
def BookOf (a : Adapter) (n : Nat) (clientId : String) : Prop :=
  a.Holds n clientId ∨ ∃ l ∈ a.links, l.clientId = clientId ∧ l.book = n

/-- A book that a slot has is no other client's. -/
theorem Laid.eq_of_bookOf {a : Adapter} (h : Laid a) {n : Nat} {c d : String}
    (hc : a.BookOf n c) (hd : a.Holds n d) : c = d := by
  obtain ⟨t, ht, hb⟩ := hd
  obtain ⟨s, hs, rfl⟩ | ⟨l, hl, rfl, rfl⟩ := hc
  · exact h.slot_eq hs ht hb.symm
  · obtain ⟨k, hk⟩ := List.mem_iff_getElem?.1 hl
    exact h.link_client hk ht hb

/-! ## What comes of an adapter -/

/-- What comes of an adapter without new clients and new requests. No book gets another client,
and what its table records more is for the client whose slot has it, and of a sort. -/
structure Follows (V : String → String → SubscriptionId → Prop) (a b : Adapter) : Prop where
  commands : b.commands ⊆ a.commands
  holds : ∀ {n c}, b.Holds n c → a.Holds n c
  bookOf : ∀ {n c}, b.BookOf n c → a.BookOf n c
  tables : ∀ n, Called (fun topic id => ∃ c, a.Holds n c ∧ V c topic id) (a.book n).table
    (b.book n).table

namespace Follows

variable {V : String → String → SubscriptionId → Prop} {a b : Adapter}

theorem refl (a : Adapter) : Follows V a a := ⟨List.Subset.refl _, id, id, fun _ => .refl⟩

theorem trans {c : Adapter} (h₁ : Follows V a b) (h₂ : Follows V b c) : Follows V a c := by
  refine ⟨List.Subset.trans h₂.commands h₁.commands, fun h => h₁.holds (h₂.holds h),
    fun h => h₁.bookOf (h₂.bookOf h), fun n => (h₁.tables n).trans ?_⟩
  exact (h₂.tables n).mono fun _ _ ⟨c, hc, hv⟩ => ⟨c, h₁.holds hc, hv⟩

/-! ### Parts -/

theorem standings (a : Adapter) (m : Assoc Standing) : Follows V a { a with standings := m } :=
  ⟨List.Subset.refl _, id, id, fun _ => .refl⟩

theorem setStatus (a : Adapter) (clientId : String) (generation : Nat) (status : Status) :
    Follows V a (a.setStatus clientId generation status).1 := by
  unfold Adapter.setStatus
  split
  · exact standings a _
  · exact refl a

theorem reportEnd (a : Adapter) (clientId : String) (generation : Nat) (e : Event.Disconnected) :
    Follows V a (a.reportEnd clientId generation e).1 := setStatus a clientId generation _

theorem setBook {n : Nat} {d : Book}
    (hd : Called (fun topic id => ∃ c, a.Holds n c ∧ V c topic id) (a.book n).table d.table) :
    Follows V a (a.setBook n d) := by
  refine ⟨List.Subset.refl _, id, id, fun m => ?_⟩
  rw [book_setBook]
  split
  · next h => exact h.1 ▸ hd
  · exact .refl

/-- A link changes, but not whose it is and which book it has. -/
theorem modifyLink (k : Nat) {f : Link → Link}
    (hf : ∀ l, (f l).clientId = l.clientId ∧ (f l).book = l.book) (a : Adapter) :
    Follows V a { a with links := a.links.modify k f } := by
  refine ⟨List.Subset.refl _, id, fun h => h.imp_right ?_, fun _ => .refl⟩
  rintro ⟨l, hl, rfl, rfl⟩
  obtain ⟨j, hj⟩ := List.mem_iff_getElem?.1 hl
  have hj : (a.links.modify k f)[j]? = some l := hj
  rw [List.getElem?_modify] at hj
  obtain ⟨m, hm, rfl⟩ := Option.map_eq_some_iff.1 hj
  refine ⟨m, List.mem_of_getElem? hm, ?_⟩
  split
  · exact ⟨(hf m).1.symm, (hf m).2.symm⟩
  · exact ⟨rfl, rfl⟩

theorem setConnection (link : Nat) (c : Connection) (a : Adapter) :
    Follows V a (a.setConnection link c) :=
  modifyLink link (f := fun l => { l with connection := c }) (fun _ => ⟨rfl, rfl⟩) a

theorem closeLink (link : Nat) (a : Adapter) : Follows V a (a.closeLink link) :=
  modifyLink link (f := fun l => { l with connection := l.connection.close })
    (fun _ => ⟨rfl, rfl⟩) a

/-- A link is added with the book of its client's slot. -/
theorem addLink {l : Link} (hl : a.Holds l.book l.clientId) :
    Follows V a { a with links := a.links ++ [l] } := by
  refine ⟨List.Subset.refl _, id, ?_, fun _ => .refl⟩
  rintro n c (h | ⟨m, hm, rfl, rfl⟩)
  · exact .inl h
  · rcases List.mem_append.1 hm with hm | hm
    · exact .inr ⟨m, hm, rfl, rfl⟩
    · obtain rfl := List.mem_singleton.1 hm
      exact .inl hl

/-- What slots remain have the books that they had. -/
theorem setSlots {slots : Assoc Slot}
    (h : ∀ c s, slots.get? c = some s → a.Holds s.book c) :
    Follows V a { a with slots := slots } := by
  have hholds {n : Nat} {c : String} (hb : Holds { a with slots := slots } n c) : a.Holds n c := by
    obtain ⟨s, hs, rfl⟩ := hb
    exact h c s hs
  exact ⟨List.Subset.refl _, hholds, fun hb => hb.imp_left hholds, fun _ => .refl⟩

theorem setSlot {c : String} {s t : Slot} (hs : a.slots.get? c = some s) (hb : t.book = s.book) :
    Follows V a { a with slots := a.slots.insert c t } := by
  refine setSlots fun d u hu => ?_
  obtain ⟨v, hv, hbook, -⟩ := Laid.get?_insert_slot hs hb hu
  exact ⟨v, hv, hbook⟩

theorem offer {link : Nat} {o : Outgoing} {accepted : Bool}
    (h : a.offer link o = (b, accepted)) : Follows V a b := by
  obtain ⟨l, c, -, -, hoffer⟩ | hoffer := a.offer_cases link o
  all_goals obtain ⟨rfl, -⟩ := Prod.mk.inj (hoffer.symm.trans h)
  · exact setConnection link c a
  · exact refl a

theorem offer_fst (a : Adapter) (link : Nat) (o : Outgoing) :
    Follows V a (a.offer link o).1 := offer rfl

theorem stop {c : String} {s : Slot} (hs : a.slots.get? c = some s) :
    Follows V a (a.stop c s) := by
  unfold Adapter.stop
  split
  · exact refl a
  · next link _ =>
    exact (closeLink link a).trans (setSlot (s := s) (t := { s with link := none }) hs rfl)

theorem stopped (c : String) (a : Adapter) : Follows V a (a.stopped c) :=
  stopped_of (refl a) fun _ hs => stop hs

/-! ### The worker -/

theorem connect {c : String} {s : Slot} (p : ConnectParameters) (hs : a.slots.get? c = some s) :
    Follows V a (a.connect c s p) := by
  have hstop : Follows V a (a.stop c s) := stop hs
  have hheld : ∃ t, (a.stop c s).slots.get? c = some t ∧ t.book = s.book := by
    unfold Adapter.stop
    split
    · exact ⟨s, hs, rfl⟩
    · exact ⟨_, Assoc.get?_insert_self .., rfl⟩
  unfold Adapter.connect
  dsimp only
  generalize a.stop c s = b at *
  obtain ⟨t, ht, hb⟩ := hheld
  split
  · exact hstop
  · next standing _ =>
    let d : Adapter := { b with
      standings := b.standings.insert c ⟨.connecting, standing.generation + 1⟩ }
    let e := d.setBook s.book (d.book s.book).forgetAnswers
    have hopen : Follows V a e := (hstop.trans (standings b _)).trans (setBook .refl)
    split
    · -- A keep-alive that no connection accepts ends the worker, with all slots and requests.
      have hnone : Follows V a { e with slots := [] } := hopen.trans (setSlots nofun)
      exact ⟨List.nil_subset _, hnone.holds, hnone.bookOf, hnone.tables⟩
    · let l : Link := ⟨c, standing.generation + 1, s.book, s.host, s.port, { parameters := p }⟩
      have hlink : Follows V e { e with links := e.links ++ [l] } := addLink ⟨t, ht, hb⟩
      exact (hopen.trans hlink).trans (setSlot (s := t) (t := { s with link := _ }) ht hb.symm)

theorem disconnect {c : String} {s : Slot} (hs : a.slots.get? c = some s) :
    Follows V a (a.disconnect c s).1 := by
  have hend (generation : Nat) (e : Event.Disconnected) :
      Follows V a ((a.stop c s).reportEnd c generation e).1 := (stop hs).trans (reportEnd ..)
  unfold Adapter.disconnect
  split
  · split
    · split
      · next b hb => exact offer hb
      · next b hb =>
        obtain rfl := eq_of_offer_false hb
        exact hend ..
    · exact hend ..
  · exact refl a

/-- What is recorded more is the subscription that is carried out. -/
theorem subscribe (h : Laid a) {c : String} {s : Slot} {id : SubscriptionId} {topic : String}
    (qos : Qos) (hs : a.slots.get? c = some s) (hv : V c topic id) :
    Follows V a (a.subscribe c s id topic qos).1 := by
  have hadd : Called (fun topic id => ∃ c, a.Holds s.book c ∧ V c topic id) (a.book s.book).table
      ((a.book s.book).table.add topic id qos).1 :=
    .single (.add _ topic id qos ⟨c, ⟨s, hs, rfl⟩, hv⟩)
  have henter : Follows V a (a.setBook s.book ((a.book s.book).enter topic id qos)) := setBook hadd
  have htold : Follows V a (a.setBook s.book ((a.book s.book).enterTold topic id qos)) :=
    setBook (hadd.tail (.markTold _ topic id))
  obtain hr | ⟨link, level, b, -, hb, hr⟩ | ⟨link, level, b, -, -, hr⟩ | ⟨link, -, -, hr⟩ :=
    subscribe_cases c s id topic qos a <;> rw [hr]
  · exact henter
  · refine (henter.trans (offer hb)).trans (setBook ?_)
    rw [book_of_offer hb, book_setBook, if_pos ⟨rfl, h.slot_book hs⟩]
    exact .refl
  · exact htold
  · exact htold

theorem unsubscribe (a : Adapter) (c : String) (s : Slot) (id : SubscriptionId)
    (topic : String) : Follows V a (a.unsubscribe c s id topic).1 := by
  have hrelease : Follows V a (a.setBook s.book ((a.book s.book).release topic id)) :=
    setBook (.single (.remove _ topic id))
  obtain hr | ⟨link, e, -, hr⟩ | ⟨link, -, hr⟩ := unsubscribe_cases c s id topic a <;> rw [hr]
  · exact hrelease
  · exact hrelease.trans (offer_fst ..)
  · exact hrelease.trans (offer_fst ..)

/-! ### Connections -/

theorem resubscribe (link book : Nat) (a : Adapter) : Follows V a (a.resubscribe link book) :=
  resubscribe_of (refl a) fun hc h => (h.trans (offer hc)).trans (setBook .refl)

theorem settle (n id : Nat) (grants : List Grant) (a : Adapter) :
    Follows V a (a.settle n id grants).1 := by
  obtain hs | ⟨topic, -, hs, -⟩ := settle_cases n id grants a <;> rw [hs]
  · exact refl a
  · exact setBook (.single (.takeUntold _ topic))

theorem handle (link : Nat) (x : Happening) (a : Adapter) : Follows V a (a.handle link x).1 := by
  unfold Adapter.handle
  split
  · exact refl a
  · next l _ =>
    split
    · cases x with
      | acknowledged reason => exact (setStatus ..).trans (resubscribe ..)
      | published => exact refl a
      | answered id grants => exact settle l.book id grants a
      | wroteSubscribe id =>
        refine setBook ?_
        unfold Book.written
        split <;> exact .refl
      | dismissed reason => exact reportEnd a _ _ { reason := reason }
      | wroteDisconnect => exact reportEnd a _ _ { reason := .normal }
      | failed reason message =>
        exact reportEnd a _ _ { reason := reason, message := some (Redaction.sanitize message) }
    · exact refl a

theorem handleAll (link : Nat) (hs : List Happening) (a : Adapter) :
    Follows V a (a.handleAll link hs).1 :=
  handleAll_of (refl a) (fun x _ h => h.trans (handle link x _)) fun h => h.trans (closeLink ..)

theorem onLink (link : Nat) (f : Connection → Connection × List Happening) (a : Adapter) :
    Follows V a (a.onLink link f).1 := by
  unfold Adapter.onLink
  split
  · exact refl a
  · exact (setConnection link _ a).trans (handleAll link _ _)

end Follows

/-! ## Who vouches -/

/-- Whatever is asked for and whatever is recorded is vouched for: of each subscription that a
request in the queue is for, and of each that stands in the table of a book, this may be said of
it, its topic, and every client whose book it is. -/
structure Vouched (V : String → String → SubscriptionId → Prop) (a : Adapter) : Prop where
  waiting : ∀ {id clientId topic qos}, Request.subscribe id clientId topic qos ∈ a.commands →
    V clientId topic id
  recorded : ∀ {n clientId topic id}, (a.book n).table.Records topic id → a.BookOf n clientId →
    V clientId topic id
  sorted : ∀ n, (a.book n).table.Sorted

namespace Vouched

variable {V W : String → String → SubscriptionId → Prop} {a b : Adapter}

theorem empty : Vouched V {} := ⟨nofun, nofun, fun _ => .nil⟩

theorem mono (h : Vouched V a) (hVW : ∀ {c topic id}, V c topic id → W c topic id) :
    Vouched W a :=
  ⟨fun hr => hVW (h.waiting hr), fun hr hs => hVW (h.recorded hr hs), h.sorted⟩

theorem follows (h : Vouched V a) (hl : Laid a) (hf : Follows V a b) : Vouched V b := by
  refine ⟨fun hr => h.waiting (hf.commands hr), fun {n c topic id} hr hs => ?_,
    fun n => (h.sorted n).called (hf.tables n)⟩
  rcases (hf.tables n).records hr with hr | ⟨d, hd, hv⟩
  · exact h.recorded hr (hf.bookOf hs)
  · exact hl.eq_of_bookOf (hf.bookOf hs) hd ▸ hv

/-- The book of a new client is empty. -/
theorem create (h : Vouched V a) (c host : String) (port : UInt16) (tls : Bool) :
    Vouched V { a with
      slots := a.slots.insert c ⟨host, port, tls, a.books.length, none⟩
      books := a.books ++ [({} : Book)] } := by
  have hbook (n : Nat) : (a.books ++ [({} : Book)])[n]?.getD {} = a.book n := by
    rw [book, List.getElem?_append]
    split
    · rfl
    · next hn =>
      rw [List.getElem?_eq_none (Nat.le_of_not_lt hn)]
      cases n - a.books.length <;> rfl
  refine ⟨h.waiting, fun {n d topic id} hr hs => ?_, fun n => ?_⟩
  · change ((a.books ++ [({} : Book)])[n]?.getD {}).table.Records topic id at hr
    rw [hbook] at hr
    have hn : n < a.books.length := by
      by_contra hn
      rw [book, List.getElem?_eq_none (Nat.le_of_not_lt hn)] at hr
      exact Topic.Table.not_records_nil hr
    refine h.recorded hr (hs.imp_left ?_)
    rintro ⟨s, hget, rfl⟩
    have hget : (a.slots.insert c _).get? d = some s := hget
    rw [Assoc.get?_insert] at hget
    split at hget
    · obtain rfl := Option.some.inj hget
      exact absurd hn (Nat.lt_irrefl _)
    · exact ⟨s, hget, rfl⟩
  · change ((a.books ++ [({} : Book)])[n]?.getD {}).table.Sorted
    rw [hbook]
    exact h.sorted n

/-- The slot of a client is given up. -/
theorem remove (h : Vouched V a) (hl : Laid a) (c : String) :
    Vouched V { a with slots := a.slots.erase c, standings := a.standings.erase c } := by
  have hslots : Follows V a { a with slots := a.slots.erase c } := by
    refine .setSlots fun d s hs => ?_
    rw [Assoc.get?_erase] at hs
    split at hs
    · cases hs
    · exact ⟨s, hs, rfl⟩
  exact h.follows hl (hslots.trans (.standings _ _))

theorem carryOut (h : Vouched V a) (hl : Laid a) {r : Request}
    (hr : ∀ id c topic qos, r = .subscribe id c topic qos → V c topic id) :
    Vouched V (a.carryOut r).1 := by
  have hstopped (c : String) : Vouched V (a.stopped c) := h.follows hl (.stopped c a)
  cases r with
  | create c host port tls => exact (hstopped c).create c host port tls
  | remove c => exact (hstopped c).remove (stopped_of hl fun _ hs => (hl.stop hs).1) c
  | connect c p =>
    simp only [Adapter.carryOut]
    split
    · next s hs => exact h.follows hl (.connect p hs)
    · exact h
  | disconnect c =>
    simp only [Adapter.carryOut]
    split
    · next s hs => exact h.follows hl (.disconnect hs)
    · exact h
  | subscribe id c topic qos =>
    simp only [Adapter.carryOut]
    split
    · next s hs => exact h.follows hl (.subscribe hl qos hs (hr id c topic qos rfl))
    · exact h
  | unsubscribe id c topic =>
    simp only [Adapter.carryOut]
    split
    · next s _ => exact h.follows hl (.unsubscribe a c s id topic)
    · exact h

/-- A request that is vouched for comes into the queue. -/
theorem answer (h : Vouched V a) {r : Request}
    (hr : ∀ id c topic qos, r = .subscribe id c topic qos → V c topic id) :
    Vouched V (a.answer r).1 := by
  obtain ⟨hslots, hbooks, hlinks, -⟩ := answer_parts r a
  have hcommands : ∀ q ∈ (a.answer r).1.commands, q ∈ a.commands ∨ q = r := by
    have henter : (a.enter r).commands = a.commands := by
      unfold enter
      split
      · split <;> rfl
      · rfl
    rw [answer_eq]
    intro q hq
    split at hq
    · split at hq
      · rw [henter] at hq
        exact (List.mem_append.1 hq).imp_right List.mem_singleton.1
      · exact .inl (henter ▸ hq)
    · exact .inl (henter ▸ hq)
  have hbook (n : Nat) : (a.answer r).1.book n = a.book n := by rw [book, hbooks, book]
  refine ⟨fun hq => ?_, fun {n c topic id} hrec hs => ?_, fun n => hbook n ▸ h.sorted n⟩
  · rcases hcommands _ hq with hq | rfl
    · exact h.waiting hq
    · exact hr _ _ _ _ rfl
  · rw [hbook] at hrec
    rw [BookOf, Holds, hslots, hlinks] at hs
    exact h.recorded hrec hs

/-- Every turn keeps to what is vouched for, if the requests do. -/
theorem next (h : Vouched V a) (hl : Laid a) {t : Turn}
    (ht : ∀ id c topic qos, t = .request (.subscribe id c topic qos) → V c topic id) :
    Vouched V (a.next t) := by
  cases t with
  | request r => exact h.answer fun id c topic qos hr => ht id c topic qos (hr ▸ rfl)
  | work =>
    change Vouched V a.work.1
    unfold work
    split
    · exact h
    · next r rest hcommands =>
      split
      · have hrest : Vouched V { a with commands := rest } :=
          ⟨fun hr => h.waiting (hcommands ▸ List.mem_cons_of_mem r hr), h.recorded, h.sorted⟩
        refine hrest.carryOut (hl.restrict rfl rfl fun hs => hs) fun id c topic qos he => ?_
        have hmem : .subscribe id c topic qos ∈ a.commands := by
          rw [hcommands, he]
          exact List.mem_cons_self
        exact h.waiting hmem
      · exact h
  | connection link s => exact h.follows hl (.onLink link _ a)

end Vouched

end MqttRelay.Native.Adapter
