import MqttRelay.Proofs.Native.Layout

/-!
# What waits for an answer

A book notes which subscriptions wait to be written, in order, and under which ids others were
written; an answer from the broker says no more than an id. The notes are right on every
connection that goes on: the topics that wait are those of the subscriptions in its queue, and
under each id stands the topic of the last subscription that the broker got under it.

Results:
* `Sound.next`: every turn keeps the notes right.
-/

namespace MqttRelay.Native

/-- The topic that a request subscribes to. -/
def Outgoing.subscribed? : Outgoing → Option String
  | subscribe filter _ => some filter
  | _ => none

namespace Connection

/-- The topic of the last subscription that the broker got under an id. -/
def topicOf (id : Nat) (c : Connection) : Option String :=
  c.sent.foldl (fun last s =>
    match s with
    | .subscribe i filter _ => if i = id then some filter else last
    | _ => last) none

theorem topicOf_send_subscribe (id i : Nat) (filter : String) (qos : Qos) (c : Connection) :
    (c.send (.subscribe i filter qos)).topicOf id =
      if i = id then some filter else c.topicOf id := by
  rw [topicOf, send, List.foldl_append]
  rfl

/-- What is not a subscription changes nothing of what ids stand for. -/
theorem topicOf_send {s : Sent} (h : ∀ i filter qos, s ≠ .subscribe i filter qos) (id : Nat)
    (c : Connection) : (c.send s).topicOf id = c.topicOf id := by
  rw [topicOf, send, List.foldl_append]
  cases s with
  | subscribe i filter qos => exact absurd rfl (h i filter qos)
  | _ => rfl

end Connection

/-! ## Notes of one connection -/

/-- A book notes what waits on a connection and what was written on it. -/
structure Tracks (b : Book) (c : Connection) : Prop where
  queued : b.queued = c.queue.filterMap Outgoing.subscribed?
  inFlight : ∀ p ∈ b.inFlight, c.topicOf p.1 = some p.2

/-- What a book notes of a happening. -/
def Book.note (b : Book) : Happening → Book
  | .wroteSubscribe id => b.written id
  | _ => b

/-- A happening comes of writing. -/
def Happening.IsWriting : Happening → Prop
  | wroteSubscribe _ => True
  | wroteDisconnect => True
  | _ => False

namespace Connection

/-- The id of the next request that has one. -/
def nextId (c : Connection) : Nat := if c.lastId = 65535 then 1 else c.lastId + 1

theorem write_subscribe (filter : String) (qos : Qos) (c : Connection) :
    c.write (.subscribe filter qos) =
      (send (.subscribe c.nextId filter qos) { c with lastId := c.nextId },
        [.wroteSubscribe c.nextId]) := rfl

theorem write_unsubscribe (filter : String) (c : Connection) :
    c.write (.unsubscribe filter) =
      (send (.unsubscribe c.nextId filter) { c with lastId := c.nextId }, []) := rfl

/-- While requests are written, the book notes their ids; in the end it is right again. -/
theorem tracks_writeEach (os : List Outgoing) {c : Connection} {b : Book}
    (hq : b.queued = os.filterMap Outgoing.subscribed? ++ c.queue.filterMap Outgoing.subscribed?)
    (hi : ∀ p ∈ b.inFlight, c.topicOf p.1 = some p.2) :
    Tracks ((writeEach os c).2.foldl Book.note b) (writeEach os c).1 := by
  induction os generalizing b c with
  | nil => exact ⟨hq, hi⟩
  | cons o os ih =>
    simp only [writeEach, List.foldl_append]
    cases o with
    | subscribe filter qos =>
      have hq' : b.queued = filter :: (os.filterMap Outgoing.subscribed? ++
          c.queue.filterMap Outgoing.subscribed?) := hq
      have hb : b.written c.nextId =
          { b with
            queued := os.filterMap Outgoing.subscribed? ++
              c.queue.filterMap Outgoing.subscribed?
            inFlight := (c.nextId, filter) :: b.inFlight.filter (·.1 != c.nextId) } := by
        rw [Book.written, hq']
      rw [write_subscribe]
      refine ih ?_ ?_
      · exact congrArg Book.queued hb
      · change ∀ p ∈ (b.written c.nextId).inFlight, _
        rw [hb]
        intro p hp
        rw [topicOf_send_subscribe]
        rcases List.mem_cons.1 hp with rfl | hp
        · exact if_pos rfl
        · -- what was written under this id before has been overwritten
          obtain ⟨hp, hne⟩ := List.mem_filter.1 hp
          rw [if_neg (Ne.symm (bne_iff_ne.1 hne))]
          exact hi p hp
    | unsubscribe filter =>
      rw [write_unsubscribe]
      exact ih hq fun p hp => (topicOf_send (by simp) p.1 _).trans (hi p hp)
    | disconnect => exact ih hq fun p hp => (topicOf_send (by simp) p.1 _).trans (hi p hp)

theorem isWriting_writeEach (os : List Outgoing) (c : Connection) :
    ∀ h ∈ (writeEach os c).2, h.IsWriting := by
  induction os generalizing c with
  | nil => nofun
  | cons o os ih =>
    intro h hh
    rcases List.mem_append.1 hh with hh | hh
    · cases o with
      | subscribe filter qos =>
        obtain rfl := List.mem_singleton.1 hh
        trivial
      | unsubscribe filter => cases hh
      | disconnect =>
        obtain rfl := List.mem_singleton.1 hh
        trivial
    · exact ih _ h hh

theorem stage_writeEach (os : List Outgoing) (c : Connection) :
    (writeEach os c).1.stage = c.stage := by
  induction os generalizing c with
  | nil => rfl
  | cons o os ih =>
    refine (ih _).trans ?_
    cases o <;> rfl

/-- What arrives leaves the queue and the ids alone, and what comes of it is no writing. -/
theorem receive_parts (p : Packet) (c : Connection) :
    (c.receive p).1.queue = c.queue ∧ (∀ id, (c.receive p).1.topicOf id = c.topicOf id) ∧
      ∀ h ∈ (c.receive p).2, ¬ h.IsWriting := by
  unfold receive
  repeat' split
  all_goals refine ⟨rfl, fun id => ?_, ?_⟩
  all_goals first
    | rfl
    | exact topicOf_send (by simp) id _
    | simp [failure, Happening.IsWriting]

/-- What moves a connection either writes, or leaves the queue and the ids alone. -/
theorem respond_parts (s : Stimulus) (c : Connection) :
    ((c.respond s).1.queue = c.queue ∧ (∀ id, (c.respond s).1.topicOf id = c.topicOf id) ∧
        ∀ h ∈ (c.respond s).2, ¬ h.IsWriting) ∨
      ∃ count, c.stage = .live ∧
        c.respond s = writeEach (c.queue.take count) { c with queue := c.queue.drop count } := by
  cases s with
  | opening reachable =>
    refine Or.inl ?_
    unfold respond
    dsimp only
    split
    · cases reachable with
      | true =>
        exact ⟨rfl, topicOf_send (by simp) (c := { c with stage := .greeting }), by simp [connect]⟩
      | false => exact ⟨rfl, fun _ => rfl, by simp [connect, failure, Happening.IsWriting]⟩
    · exact ⟨rfl, fun _ => rfl, nofun⟩
  | writing count =>
    unfold respond
    dsimp only
    split
    · next hlive => exact Or.inr ⟨count, hlive, rfl⟩
    · exact Or.inl ⟨rfl, fun _ => rfl, nofun⟩
  | packet p => exact Or.inl (receive_parts p c)
  | loss =>
    refine Or.inl ?_
    unfold respond
    dsimp only
    split
    · exact ⟨rfl, fun _ => rfl, nofun⟩
    · exact ⟨rfl, fun _ => rfl, by simp [failure, Happening.IsWriting]⟩

end Connection

/-! ## All connections -/

namespace Adapter

/-- The book of a link notes right what waits on its connection, if that goes on. -/
def Tracked (a : Adapter) (k : Nat) : Prop :=
  ∀ l, a.links[k]? = some l → l.connection.stage ≠ .ended → Tracks (a.book l.book) l.connection

theorem Tracked.congr {a b : Adapter} {k : Nat} (h : Tracked a k) (hlinks : b.links = a.links)
    (hbooks : b.books = a.books) : Tracked b k := by
  intro l hl hlive
  rw [hlinks] at hl
  rw [book, hbooks]
  exact h l hl hlive

/-- Changes within another book leave the notes of a connection alone. -/
theorem Tracked.within {n k : Nat} {a b : Adapter} (h : Tracked a k) (hw : Within n a b)
    (hn : ∀ l, a.links[k]? = some l → l.connection.stage ≠ .ended → l.book ≠ n) :
    Tracked b k := by
  intro m hm hlive
  obtain ⟨l, hl, -, -, hbook, hend, hsame⟩ := hw.link_of hm
  have hne := hn l hl (hend hlive)
  rw [hbook, hw.book _ hne, hsame hne]
  exact h l hl (hend hlive)

theorem tracked_closeLink_self (a : Adapter) (k : Nat) : Tracked (a.closeLink k) k := by
  intro m hm hlive
  rw [links_closeLink] at hm
  obtain ⟨l, -, rfl⟩ := Option.map_eq_some_iff.1 hm
  simp [Connection.stage_close] at hlive

theorem Tracked.closeLink {a : Adapter} {k : Nat} (h : Tracked a k) (link : Nat) :
    Tracked (a.closeLink link) k := by
  by_cases hk : link = k
  · exact hk ▸ tracked_closeLink_self a link
  · intro m hm hlive
    rw [links_closeLink] at hm
    obtain ⟨l, hl, rfl⟩ := Option.map_eq_some_iff.1 hm
    rw [if_neg hk] at hlive ⊢
    exact h l hl hlive

theorem tracked_addLink {a : Adapter} {l : Link} {slots : Assoc Slot} (h : ∀ k, Tracked a k)
    (hl : Tracks (a.book l.book) l.connection) (k : Nat) :
    Tracked { a with links := a.links ++ [l], slots := slots } k := by
  intro m hm hlive
  obtain ⟨-, rfl⟩ | hm' := Laid.new_or_old hm
  · exact hl
  · exact h k m hm' hlive

/-- The adapter is laid out and the notes of all its books are right. -/
structure Sound (a : Adapter) : Prop extends Laid a where
  tracked : ∀ k, Tracked a k

/-- So it is but for the notes of one link. -/
structure SoundBut (link : Nat) (a : Adapter) : Prop extends Laid a where
  tracked : ∀ k, k ≠ link → Tracked a k

theorem Sound.but {a : Adapter} (h : Sound a) (link : Nat) : SoundBut link a :=
  ⟨h.toLaid, fun k _ => h.tracked k⟩

namespace SoundBut

variable {link : Nat} {a b : Adapter}

theorem sound (h : SoundBut link a) (hl : Tracked a link) : Sound a := by
  refine ⟨h.toLaid, fun k => ?_⟩
  by_cases hk : k = link
  · exact hk ▸ hl
  · exact h.tracked k hk

/-- Only one connection of a book goes on: a change within its book touches no other notes. -/
theorem within {l : Link} (h : SoundBut link a) (hw : Within l.book a b)
    (hl : a.links[link]? = some l) (hlive : l.connection.stage ≠ .ended) : SoundBut link b := by
  refine ⟨h.toLaid.within hw, fun k hk => (h.tracked k hk).within hw fun m hm hm' hbook => ?_⟩
  exact hk (h.link_eq hm hl hm' hlive hbook)

theorem standings (h : SoundBut link a) (m : Assoc Standing) :
    SoundBut link { a with standings := m } :=
  ⟨h.toLaid.within (Within.standings 0 a m), fun k hk => (h.tracked k hk).congr rfl rfl⟩

theorem reportEnd (h : SoundBut link a) (clientId : String) (generation : Nat)
    (e : Event.Disconnected) : SoundBut link (a.reportEnd clientId generation e).1 := by
  unfold Adapter.reportEnd setStatus
  dsimp only
  split
  · exact h.standings _
  · exact h

theorem closeLink (h : SoundBut link a) : Sound (a.closeLink link) := by
  have hlaid : Laid (a.closeLink link) := by
    cases hl : a.links[link]? with
    | none =>
      refine h.toLaid.restrict rfl (List.ext_getElem? fun k => ?_) id
      rw [links_closeLink]
      by_cases hk : link = k
      · rw [← hk, hl]
        rfl
      · simp [hk]
    | some l => exact h.toLaid.within (Within.closeLink hl)
  refine ⟨hlaid, fun k => ?_⟩
  by_cases hk : k = link
  · exact hk ▸ tracked_closeLink_self a link
  · exact (h.tracked k hk).closeLink link

/-- What was written is handled in order; then the notes are right again. -/
theorem handleAll_writing {hs : List Happening} (hw : ∀ h ∈ hs, h.IsWriting) {l : Link}
    (h : SoundBut link a) (hl : a.links[link]? = some l) (hlive : l.connection.stage ≠ .ended)
    (ht : Tracks (hs.foldl Book.note (a.book l.book)) l.connection) :
    Sound (a.handleAll link hs).1 := by
  induction hs generalizing a with
  | nil =>
    refine h.sound fun m hm _ => ?_
    obtain rfl := Option.some.inj (hl.symm.trans hm)
    exact ht
  | cons x hs ih =>
    unfold Adapter.handleAll
    have hx := hw x List.mem_cons_self
    by_cases hcurrent : a.isCurrent l.clientId l.generation = true
    · cases x with
      | wroteSubscribe id =>
        simp only [handle, hl, hcurrent, if_true]
        refine ih (fun y hy => hw y (List.mem_cons_of_mem _ hy)) ?_ hl ?_
        · exact h.within (Within.setBook ..) hl hlive
        · rw [book_setBook, if_pos ⟨rfl, h.link_book hl⟩]
          exact ht
      | wroteDisconnect =>
        simp only [handle, hl, hcurrent, if_true]
        exact (h.reportEnd ..).closeLink
      | _ => exact absurd hx id
    · simp only [handle, hl, hcurrent]
      exact h.closeLink

end SoundBut

namespace Sound

variable {a : Adapter}

theorem standings (h : Sound a) (m : Assoc Standing) : Sound { a with standings := m } :=
  ⟨h.toLaid.within (Within.standings 0 a m), fun k => (h.tracked k).congr rfl rfl⟩

theorem setStatus (h : Sound a) (clientId : String) (generation : Nat) (status : Status) :
    Sound (a.setStatus clientId generation status).1 := by
  unfold Adapter.setStatus
  split
  · exact h.standings _
  · exact h

theorem reportEnd (h : Sound a) (clientId : String) (generation : Nat)
    (e : Event.Disconnected) : Sound (a.reportEnd clientId generation e).1 :=
  h.setStatus clientId generation .disconnected

theorem closeLink (h : Sound a) (link : Nat) : Sound (a.closeLink link) := (h.but link).closeLink

/-- A book may change but for what waits, and give up waiting for some answers. -/
theorem setBook (h : Sound a) {n : Nat} {b : Book} (hq : b.queued = (a.book n).queued)
    (hi : ∀ p ∈ b.inFlight, p ∈ (a.book n).inFlight) : Sound (a.setBook n b) := by
  refine ⟨h.toLaid.within (Within.setBook a n b), fun k l hl hlive => ?_⟩
  have ht := h.tracked k l hl hlive
  rw [book_setBook]
  split
  · next hn =>
    obtain ⟨rfl, -⟩ := hn
    exact ⟨hq.trans ht.queued, fun p hp => ht.inFlight p (hi p hp)⟩
  · exact ht

/-- A connection and its book change together. -/
theorem update {b : Adapter} {link : Nat} {l : Link} {c : Connection} (h : Sound a)
    (hw : Within l.book a b) (hl : a.links[link]? = some l)
    (hlive : l.connection.stage ≠ .ended) (hm : b.links[link]? = some { l with connection := c })
    (ht : Tracks (b.book l.book) c) : Sound b := by
  refine ((h.but link).within hw hl hlive).sound fun m hm' _ => ?_
  obtain rfl := Option.some.inj (hm.symm.trans hm')
  exact ht

/-- A request that was accepted waits, and the topic of a subscription is noted with it. -/
theorem offer (h : Sound a) {b : Adapter} {link : Nat} {o : Outgoing} {l : Link}
    (hl : a.links[link]? = some l) (hb : a.offer link o = (b, true)) {d : Book}
    (hq : d.queued = (a.book l.book).queued ++ o.subscribed?.toList)
    (hi : ∀ p ∈ d.inFlight, p ∈ (a.book l.book).inFlight) :
    Sound (b.setBook l.book d) := by
  obtain ⟨m, c, hm, hc, hoffer⟩ | hoffer := a.offer_cases link o
  · obtain rfl := Option.some.inj (hl.symm.trans hm)
    obtain ⟨rfl, -⟩ := Prod.mk.inj (hoffer.symm.trans hb)
    have hroom := (Connection.offer_eq_none_iff o l.connection).not.1 (by simp [hc])
    have hstage : l.connection.stage ≠ .ended := fun he => hroom (Or.inl he)
    have ht := h.tracked link l hl hstage
    have hw := Within.setConnection hl fun he => (Connection.stage_offer hc).trans he
    refine h.update (hw.trans (Within.setBook ..)) hl hstage (c := c) ?_ ?_
    · exact get?_links_setConnection c hl
    · have hsize : l.book < (a.setConnection link c).books.length := h.link_book hl
      rw [book_setBook, if_pos ⟨rfl, hsize⟩]
      have hsent : c.sent = l.connection.sent := by
        unfold Connection.offer at hc
        split at hc
        · cases hc
        · obtain rfl := Option.some.inj hc
          rfl
      refine ⟨?_, fun p hp => ?_⟩
      · rw [hq, Connection.queue_offer o _ _ hc, ht.queued, List.filterMap_append]
        cases o <;> rfl
      · rw [Connection.topicOf, hsent]
        exact ht.inFlight p (hi p hp)
  · rw [hoffer] at hb
    cases hb

/-- A request that is no subscription may wait without a note. -/
theorem offer_other (h : Sound a) {link : Nat} {o : Outgoing} (ho : o.subscribed? = none) :
    Sound (a.offer link o).1 := by
  obtain ⟨l, c, hl, hc, hoffer⟩ | hoffer := a.offer_cases link o
  · have hsound := h.offer hl hoffer (d := a.book l.book) (by simp [ho]) fun p hp => hp
    have hself : (a.setConnection link c).setBook l.book (a.book l.book) =
        a.setConnection link c := setBook_self (a.setConnection link c) l.book
    rw [hself] at hsound
    rw [hoffer]
    exact hsound
  · rw [hoffer]
    exact h

/-! ### What happens on a connection -/

theorem resubscribe (h : Sound a) {link : Nat} {l : Link} (hl : a.links[link]? = some l) :
    Sound (a.resubscribe link l.book) := by
  -- The link keeps its book, whatever waits on it.
  let P (b : Adapter) : Prop := Sound b ∧ ∃ m, b.links[link]? = some m ∧ m.book = l.book
  suffices hboth : P (a.resubscribe link l.book) from hboth.1
  refine resubscribe_of ⟨h, l, hl, rfl⟩ fun {b c f} hc hb => ?_
  obtain ⟨hsound, m, hm, hbook⟩ := hb
  obtain ⟨d, hd, -, -⟩ := (Within.offer (.subscribe f.1 f.2) hm).link hm
  rw [hc] at hd
  rw [← hbook]
  have hsame : c.book m.book = b.book m.book := book_of_offer hc m.book
  refine ⟨hsound.offer hm hc ?_ fun p hp => ?_, _, hd, hbook⟩
  · rw [hsame]
    rfl
  · rw [hsame] at hp
    exact hp

theorem settle (h : Sound a) (n id : Nat) (grants : List Grant) :
    Sound (a.settle n id grants).1 := by
  unfold Adapter.settle
  dsimp only
  split
  · exact h
  · exact h.setBook rfl fun p hp => (List.mem_filter.1 hp).1

theorem handle (h : Sound a) (link : Nat) {x : Happening} (hx : ¬ x.IsWriting) :
    Sound (a.handle link x).1 := by
  unfold Adapter.handle
  split
  · exact h
  · next l hl =>
    split
    · cases x with
      | acknowledged reason =>
        have hset := h.setStatus l.clientId l.generation .connected
        obtain ⟨c, hc, -, -⟩ :=
          (Within.setStatus l.book a l.clientId l.generation .connected).link hl
        have hsubs := hset.resubscribe hc
        exact hsubs
      | published topic payload qos => exact h
      | answered id grants => exact h.settle l.book id grants
      | wroteSubscribe id => exact absurd trivial hx
      | dismissed reason => exact h.reportEnd _ _ { reason := reason }
      | wroteDisconnect => exact absurd trivial hx
      | failed reason message =>
        exact h.reportEnd _ _ { reason := reason, message := some (Redaction.sanitize message) }
    · exact h

theorem handleAll (h : Sound a) (link : Nat) {hs : List Happening}
    (hx : ∀ x ∈ hs, ¬ x.IsWriting) : Sound (a.handleAll link hs).1 :=
  handleAll_of h (fun x hmem h => h.handle link (hx x hmem)) fun h => h.closeLink link

theorem onLink (h : Sound a) (link : Nat) (s : Stimulus) :
    Sound (a.onLink link (·.respond s)).1 := by
  unfold Adapter.onLink
  split
  · exact h
  · next l hl =>
    dsimp only
    by_cases hlive : l.connection.stage = .ended
    · rw [Connection.respond_of_ended hlive, setConnection_self hl]
      exact h
    · have ht := h.tracked link l hl hlive
      have hset {c : Connection} := get?_links_setConnection c hl
      have hw (c : Connection) : Within l.book a (a.setConnection link c) :=
        Within.setConnection hl (absurd · hlive)
      obtain ⟨hq, hi, hx⟩ | ⟨count, -, hr⟩ := Connection.respond_parts s l.connection
      · refine (h.update (hw _) hl hlive hset ⟨?_, fun p hp => ?_⟩).handleAll link hx
        · exact hq ▸ ht.queued
        · exact (hi p.1).trans (ht.inFlight p hp)
      · rw [hr]
        have hstage := Connection.stage_writeEach (l.connection.queue.take count)
          { l.connection with queue := l.connection.queue.drop count }
        refine ((h.but link).within (hw _) hl hlive).handleAll_writing
          (Connection.isWriting_writeEach _ _) hset (fun he => hlive (hstage.symm.trans he)) ?_
        refine Connection.tracks_writeEach _ ?_ ht.inFlight
        rw [← List.filterMap_append, List.take_append_drop]
        exact ht.queued

/-! ### The worker -/

theorem stop (h : Sound a) {c : String} {s : Slot} (hs : a.slots.get? c = some s) :
    Sound (a.stop c s) := by
  refine ⟨(h.toLaid.stop hs).1, fun k => ?_⟩
  unfold Adapter.stop
  split
  · exact h.tracked k
  · next link _ => exact ((h.tracked k).closeLink link).congr rfl rfl

theorem create (h : Sound a) (c host : String) (port : UInt16) (tls : Bool) :
    Sound { a with
      slots := a.slots.insert c ⟨host, port, tls, a.books.length, none⟩
      books := a.books ++ [({} : Book)] } := by
  refine ⟨h.toLaid.create c host port tls, fun k l hl hlive => ?_⟩
  have ht := h.tracked k l hl hlive
  have hbook : (a.books ++ [({} : Book)])[l.book]? = a.books[l.book]? :=
    List.getElem?_append_left (h.link_book hl)
  rw [book, hbook]
  exact ht

theorem remove (h : Sound a) (c : String) :
    Sound { a with slots := a.slots.erase c, standings := a.standings.erase c } := by
  refine ⟨h.toLaid.restrict rfl rfl fun hs => ?_, fun k => (h.tracked k).congr rfl rfl⟩
  rw [Assoc.get?_erase] at hs
  split at hs
  · cases hs
  · exact hs

/-- A new connection begins with a book that notes nothing. -/
theorem connect (h : Sound a) {c : String} {s : Slot} (p : ConnectParameters)
    (hs : a.slots.get? c = some s) : Sound (a.connect c s p) := by
  refine ⟨h.toLaid.connect p hs, ?_⟩
  have hstop := h.stop hs
  obtain ⟨-, hslot, hended⟩ := h.toLaid.stop hs
  unfold Adapter.connect
  dsimp only
  generalize a.stop c s = b at *
  split
  · exact hstop.tracked
  · next standing _ =>
    have hw : Within s.book b (({ b with
        standings := b.standings.insert c ⟨.connecting, standing.generation + 1⟩ } :
          Adapter).setBook s.book (b.book s.book).forgetAnswers) :=
      (Within.standings ..).trans (Within.setBook ..)
    have hold (k : Nat) := (hstop.tracked k).within hw fun l hl hlive hb => hlive (hended hl hb)
    split
    · exact fun k => (hold k).congr rfl rfl
    · refine fun k => tracked_addLink hold ?_ k
      have hsize := hstop.slot_book hslot
      rw [book_setBook, if_pos ⟨rfl, hsize⟩]
      exact ⟨rfl, nofun⟩

theorem disconnect (h : Sound a) {c : String} {s : Slot} (hs : a.slots.get? c = some s) :
    Sound (a.disconnect c s).1 := by
  unfold Adapter.disconnect
  split
  · next standing link _ hlink =>
    split
    · have hoffer : Sound (a.offer link .disconnect).1 := h.offer_other rfl
      split
      · next b hb =>
        rw [hb] at hoffer
        exact hoffer
      · next b hb =>
        obtain rfl := eq_of_offer_false hb
        exact (h.stop hs).reportEnd ..
    · exact (h.stop hs).reportEnd ..
  · exact h

theorem subscribe (h : Sound a) {c : String} {s : Slot} (id : SubscriptionId) (topic : String)
    (qos : Qos) (hs : a.slots.get? c = some s) : Sound (a.subscribe c s id topic qos).1 := by
  have henter : Sound (a.setBook s.book ((a.book s.book).enter topic id qos)) :=
    h.setBook rfl fun _ hp => hp
  obtain hr | ⟨link, level, b, hlink, hb, hr⟩ | ⟨link, level, b, -, -, hr⟩ | ⟨link, -, -, hr⟩ :=
    subscribe_cases c s id topic qos a
  · rw [hr]
    exact henter
  · obtain ⟨l, hl, -, hbook⟩ := henter.slot_link hs hlink
    have hsound := henter.offer hl hb (d := ((a.book s.book).enter topic id qos).enqueue topic)
    rw [hbook, book_setBook, if_pos ⟨rfl, h.slot_book hs⟩] at hsound
    rw [hr]
    exact hsound rfl fun _ hp => hp
  · rw [hr]
    exact h.setBook rfl fun _ hp => hp
  · rw [hr]
    exact h.setBook rfl fun _ hp => hp

theorem unsubscribe (h : Sound a) (c : String) (s : Slot) (id : SubscriptionId)
    (topic : String) : Sound (a.unsubscribe c s id topic).1 := by
  have hrelease : Sound (a.setBook s.book ((a.book s.book).release topic id)) :=
    h.setBook rfl fun _ hp => hp
  obtain hr | ⟨link, e, -, hr⟩ | ⟨link, -, hr⟩ := unsubscribe_cases c s id topic a
  · rw [hr]
    exact hrelease
  · rw [hr]
    exact hrelease.offer_other rfl
  · rw [hr]
    exact hrelease.offer_other rfl

theorem carryOut (h : Sound a) (r : Request) : Sound (a.carryOut r).1 := by
  have hstop (c : String) : Sound (a.stopped c) := stopped_of h fun _ hs => h.stop hs
  cases r with
  | create c host port tls => exact (hstop c).create c host port tls
  | remove c => exact (hstop c).remove c
  | connect c p =>
    simp only [Adapter.carryOut]
    split
    · next s hs => exact h.connect p hs
    · exact h
  | disconnect c =>
    simp only [Adapter.carryOut]
    split
    · next s hs => exact h.disconnect hs
    · exact h
  | subscribe id c topic qos =>
    simp only [Adapter.carryOut]
    split
    · next s hs => exact h.subscribe id topic qos hs
    · exact h
  | unsubscribe id c topic =>
    simp only [Adapter.carryOut]
    split
    · next s _ => exact h.unsubscribe c s id topic
    · exact h

/-- Every turn keeps the notes right. -/
theorem next (h : Sound a) (t : Turn) : Sound (a.next t) := by
  cases t with
  | request r =>
    obtain ⟨hs, hb, hl, -⟩ := answer_parts r a
    exact ⟨h.toLaid.restrict hb hl fun hu => hs ▸ hu, fun k => (h.tracked k).congr hl hb⟩
  | work =>
    change Sound a.work.1
    unfold work
    split
    · exact h
    · next r rest _ =>
      split
      · exact carryOut (a := { a with commands := rest })
          ⟨h.toLaid.restrict rfl rfl id, fun k => (h.tracked k).congr rfl rfl⟩ r
      · exact h
  | connection link s => exact h.onLink link s

end Sound

theorem sound_after (turns : List Turn) : Sound (after {} turns) :=
  holds_after ⟨laid_start, fun _ _ hl => nomatch hl⟩ (fun _ t h => h.next t) turns

end Adapter

end MqttRelay.Native
