import Mathlib.Logic.Function.Basic
import MqttRelay.Proofs.Native.Tracking

/-!
# A book and its wire

An acknowledgement names a packet id, the adapter asks for topics: it learns which id stands for
which topic from the order of two queues, the topics that it asked for and the ids that were
reported as written. Here a connection takes its time: a request waits in the queue of its link,
is written, is reported as written and is answered, each at a time of its own.

* `Wire` — what was written on a link and is not answered, with the packet ids.
* `Adapter.Serves` — the link that is a client's current connection.
* `Paired` — the book of a client notes what waits and what was written on its current link.

Results:
* `Paired.offer`, `Paired.write`, `Paired.report`, `Paired.acknowledge`: the notes stay right when
  a request is accepted, written, reported and answered.
* `Paired.handle`: so they do whatever else happens on a link.
-/

namespace MqttRelay.Native

/-! ## What is under way -/

/-- The subscriptions that were written on a link and not answered, by the ids of their
packets. -/
structure Wire where
  /-- Those that were not reported as written yet, in order. -/
  unreported : List (Nat × String) := []
  /-- Those that were reported. -/
  reported : List (Nat × String) := []
  deriving DecidableEq, Inhabited, Repr

/-- The packet ids that are in use. -/
def Wire.ids (w : Wire) : List Nat := (w.unreported ++ w.reported).map (·.1)

/-- A subscription is written under an id. -/
def Wire.write (id : Nat) (topic : String) (w : Wire) : Wire :=
  { w with unreported := w.unreported ++ [(id, topic)] }

theorem Wire.nodup_write {w : Wire} (h : w.ids.Nodup) {id : Nat} (hid : id ∉ w.ids)
    (topic : String) : (w.write id topic).ids.Nodup := by
  have hperm : (w.write id topic).ids.Perm (id :: w.ids) := by
    simp only [ids, write, List.append_assoc, List.singleton_append]
    exact List.perm_middle.map _
  exact hperm.nodup_iff.2 (List.nodup_cons.2 ⟨hid, h⟩)

/-- The subscription that was reported under an id is answered. -/
def Wire.settle (id : Nat) (w : Wire) : Wire :=
  { w with reported := w.reported.filter (·.1 != id) }

theorem Wire.nodup_settle {w : Wire} (h : w.ids.Nodup) (id : Nat) : (w.settle id).ids.Nodup := by
  have hsub : (w.settle id).reported.Sublist w.reported := List.filter_sublist
  exact ((hsub.append_left w.unreported).map _).nodup h

/-- The first subscription that waits to be reported shares its id with no reported one. -/
theorem Wire.reported_ne {w : Wire} (hd : w.ids.Nodup) {p : Nat × String}
    {rest : List (Nat × String)} (hp : w.unreported = p :: rest) :
    ∀ q ∈ w.reported, q.1 ≠ p.1 := by
  intro q hq heq
  rw [ids, hp, List.cons_append, List.map_cons, List.nodup_cons] at hd
  exact hd.1 (List.mem_map.2 ⟨q, List.mem_append_right rest hq, heq⟩)

/-- What was reported under an id is found under it. -/
theorem Wire.find?_reported {w : Wire} (hd : w.ids.Nodup) {p : Nat × String}
    (hp : p ∈ w.reported) : w.reported.find? (·.1 == p.1) = some p := by
  obtain ⟨before, later, heq⟩ := List.append_of_mem hp
  have hids : (before.map (·.1) ++ p.1 :: later.map (·.1)).Nodup := by
    rw [ids, List.map_append, List.nodup_append, heq, List.map_append, List.map_cons] at hd
    exact hd.2.1
  have hbefore : before.find? (·.1 == p.1) = none := by
    refine List.find?_eq_none.2 fun q hq hqp => ?_
    have hmem : q.1 ∈ before.map (·.1) := List.mem_map.2 ⟨q, hq, rfl⟩
    rw [beq_iff_eq.1 hqp] at hmem
    exact (List.nodup_append.1 hids).2.2 _ hmem _ List.mem_cons_self rfl
  rw [heq, List.find?_append, hbefore]
  simp

/-- A happening says that a subscription was written or answered. -/
def Happening.concernsSubscription : Happening → Bool
  | wroteSubscribe _ => true
  | answered .. => true
  | _ => false

theorem Connection.queue_close (c : Connection) : c.close.queue = c.queue := by
  unfold close
  split <;> rfl

/-! ## Generations -/

namespace Adapter

/-- The generation of a client's latest connection. -/
def generation? (a : Adapter) (clientId : String) : Option Nat :=
  (a.standings.get? clientId).map (·.generation)

theorem isCurrent_iff (a : Adapter) (clientId : String) (generation : Nat) :
    a.isCurrent clientId generation = true ↔ a.generation? clientId = some generation := by
  unfold isCurrent generation?
  cases a.standings.get? clientId <;> simp

theorem generation?_setStatus (a : Adapter) (clientId c : String) (generation : Nat)
    (status : Status) :
    (a.setStatus clientId generation status).1.generation? c = a.generation? c := by
  unfold setStatus generation?
  split
  · dsimp only
    rw [Assoc.get?_modify]
    split
    · cases a.standings.get? c <;> rfl
    · rfl
  · rfl

/-- A request takes no generation from a client. -/
theorem generation?_answer {a : Adapter} {c : String} {g : Nat} (r : Request)
    (h : a.generation? c = some g) : (a.answer r).1.generation? c = some g := by
  have henter : (a.enter r).generation? c = some g := by
    unfold enter
    split
    · split
      · exact h
      · next id _ _ _ hknows =>
        rw [generation?, Assoc.get?_insert]
        split
        · next hc =>
          subst hc
          obtain ⟨s, hs, -⟩ := Option.map_eq_some_iff.1 h
          exact absurd (by rw [knows, Assoc.contains, hs]; rfl) hknows
        · exact h
    · exact h
  rw [answer_eq]
  split
  · split <;> exact henter
  · exact henter

/-- The link is the current connection of the client with this slot. -/
structure Serves (a : Adapter) (s : Slot) (k : Nat) (l : Link) : Prop where
  slot : a.slots.get? l.clientId = some s
  link : a.links[k]? = some l
  book : l.book = s.book
  current : a.isCurrent l.clientId l.generation = true

/-! ## Notes that are right -/

/-- A book notes the topics of the subscriptions of a link that were accepted and not reported,
in order, and under the ids in use the topics that were reported. -/
structure Matches (b : Book) (w : Wire) (queue : List Outgoing) : Prop where
  queued : b.queued = w.unreported.map (·.2) ++ queue.filterMap Outgoing.subscribed?
  inFlight : b.inFlight = w.reported

/-- Every client's book matches what is under way on its current link. -/
structure Paired (a : Adapter) (w : Nat → Wire) : Prop extends Laid a where
  bounded : ∀ {c : String} {s : Slot} {k : Nat} {l : Link}, a.slots.get? c = some s →
    a.links[k]? = some l → l.book = s.book →
    ∃ g, a.generation? c = some g ∧ l.generation ≤ g
  unique : ∀ {j k : Nat} {l m : Link}, a.links[j]? = some l → a.links[k]? = some m →
    l.book = m.book → l.generation = m.generation → j = k
  kept : ∀ {c : String} {s : Slot} {k : Nat} {l : Link}, a.slots.get? c = some s →
    s.link = some k → a.links[k]? = some l → a.generation? c = some l.generation
  served : ∀ {c : String} {s : Slot} {k : Nat} {l : Link}, a.slots.get? c = some s →
    a.links[k]? = some l → l.book = s.book →
    ∃ (j : Nat) (m : Link), a.links[j]? = some m ∧ m.book = s.book ∧
      a.generation? c = some m.generation
  noted : ∀ {s : Slot} {k : Nat} {l : Link}, a.Serves s k l →
    Matches (a.book s.book) (w k) l.connection.queue
  blank : ∀ {c : String} {s : Slot}, a.slots.get? c = some s →
    (∀ (k : Nat) (l : Link), a.links[k]? = some l → l.book ≠ s.book) →
    (a.book s.book).queued = [] ∧ (a.book s.book).inFlight = []
  distinct : ∀ k, (w k).ids.Nodup
  fresh : ∀ k, a.links.length ≤ k → w k = {}

namespace Paired

variable {a b : Adapter} {w v : Nat → Wire} {n : Nat}

theorem serves_unique (h : Paired a w) {s t : Slot} {j k : Nat} {l m : Link}
    (hl : a.Serves s j l) (hm : a.Serves t k m) (hb : s.book = t.book) : j = k := by
  have hclient := h.slot_eq hl.slot hm.slot hb
  have hgl := (a.isCurrent_iff ..).1 hl.current
  have hgm := (a.isCurrent_iff ..).1 hm.current
  refine h.unique hl.link hm.link (hl.book.trans (hb.trans hm.book.symm)) ?_
  exact Option.some.inj (hgl.symm.trans (hclient ▸ hgm))

/-- A link of a client's book that is not superseded is the current one. -/
theorem serves_of_current (h : Paired a w) {c : String} {s : Slot} {k : Nat} {l : Link}
    (hs : a.slots.get? c = some s) (hl : a.links[k]? = some l) (hb : l.book = s.book)
    (hcurrent : a.isCurrent l.clientId l.generation = true) : a.Serves s k l :=
  ⟨h.link_client hl hs hb.symm ▸ hs, hl, hb, hcurrent⟩

/-- A change within one book, on some of its links: the notes are right again if they are so for
the current link of the book, as long as no client loses its generation. -/
theorem within (h : Paired a w) (hw : Within n a b)
    (hgen : ∀ {c : String} {g : Nat}, a.generation? c = some g → b.generation? c = some g)
    (hwire : ∀ k, (∀ l, a.links[k]? = some l → l.book ≠ n) → v k = w k)
    (hdistinct : ∀ k, (v k).ids.Nodup)
    (hnoted : ∀ {s : Slot} {k : Nat} {l m : Link}, a.Serves s k l → s.book = n →
      b.links[k]? = some m → Matches (a.book n) (w k) l.connection.queue →
      Matches (b.book n) (v k) m.connection.queue)
    (hblank : (∀ (k : Nat) (l : Link), a.links[k]? = some l → l.book ≠ n) →
      (b.book n).queued = (a.book n).queued ∧ (b.book n).inFlight = (a.book n).inFlight) :
    Paired b v where
  toLaid := h.toLaid.within hw
  bounded hs hm hb := by
    rw [hw.slots] at hs
    obtain ⟨l, hl, -, hlg, hlb, -, -⟩ := hw.link_of hm
    obtain ⟨g, hg, hle⟩ := h.bounded hs hl (hlb.symm.trans hb)
    exact ⟨g, hgen hg, hlg ▸ hle⟩
  unique hm hm' hb hg := by
    obtain ⟨l, hl, -, hlg, hlb, -, -⟩ := hw.link_of hm
    obtain ⟨l', hl', -, hlg', hlb', -, -⟩ := hw.link_of hm'
    exact h.unique hl hl' (hlb.symm.trans (hb.trans hlb')) (hlg.symm.trans (hg.trans hlg'))
  kept hs hk hm := by
    rw [hw.slots] at hs
    obtain ⟨l, hl, -, hlg, -, -, -⟩ := hw.link_of hm
    rw [hlg]
    exact hgen (h.kept hs hk hl)
  served hs hm hb := by
    rw [hw.slots] at hs
    obtain ⟨l, hl, -, -, hlb, -, -⟩ := hw.link_of hm
    obtain ⟨j, u, hu, hub, hug⟩ := h.served hs hl (hlb.symm.trans hb)
    obtain ⟨c, hc, -, -⟩ := hw.link hu
    exact ⟨j, _, hc, hub, hgen hug⟩
  noted {s k m} hm := by
    have hslot := hm.slot
    rw [hw.slots] at hslot
    obtain ⟨l, hl, hlc, hlg, hlb, -, hsame⟩ := hw.link_of hm.link
    have hbook := hlb.symm.trans hm.book
    obtain ⟨g, hg, -⟩ := h.bounded hslot hl hbook
    have hgm : g = m.generation :=
      Option.some.inj ((hgen hg).symm.trans ((b.isCurrent_iff ..).1 hm.current))
    have hserves : a.Serves s k l :=
      ⟨hlc ▸ hslot, hl, hbook, (a.isCurrent_iff ..).2 (by rw [← hlc, hg, hgm, hlg])⟩
    by_cases hn : s.book = n
    · subst hn
      exact hnoted hserves rfl hm.link (h.noted hserves)
    · have hne : l.book ≠ n := hbook ▸ hn
      have hv : v k = w k := hwire k fun u hu => Option.some.inj (hl.symm.trans hu) ▸ hne
      rw [hw.book _ hn, hv, hsame hne]
      exact h.noted hserves
  blank {c s} hs hno := by
    rw [hw.slots] at hs
    have hno' (k : Nat) (l : Link) (hl : a.links[k]? = some l) : l.book ≠ s.book := by
      obtain ⟨d, hd, -, -⟩ := hw.link hl
      have hne := hno k _ hd
      exact hne
    have hblank' := h.blank hs hno'
    by_cases hn : s.book = n
    · subst hn
      rw [(hblank hno').1, (hblank hno').2]
      exact hblank'
    · rwa [hw.book _ hn]
  distinct := hdistinct
  fresh k hk := by
    rw [hwire k fun l hl => absurd (List.getElem?_eq_some_iff.1 hl).1
      (Nat.not_lt_of_le (hw.length ▸ hk))]
    exact h.fresh k (hw.length ▸ hk)

/-- So it is with a change of the adapter alone. -/
theorem still (h : Paired a w) (hw : Within n a b)
    (hgen : ∀ {c : String} {g : Nat}, a.generation? c = some g → b.generation? c = some g)
    (hnoted : ∀ {s : Slot} {k : Nat} {l m : Link}, a.Serves s k l → s.book = n →
      b.links[k]? = some m → Matches (a.book n) (w k) l.connection.queue →
      Matches (b.book n) (w k) m.connection.queue)
    (hblank : (∀ (k : Nat) (l : Link), a.links[k]? = some l → l.book ≠ n) →
      (b.book n).queued = (a.book n).queued ∧ (b.book n).inFlight = (a.book n).inFlight) :
    Paired b w := h.within hw hgen (fun _ _ => rfl) h.distinct hnoted hblank

theorem standings (h : Paired a w) {m : Assoc Standing}
    (hgen : ∀ {c : String} {g : Nat}, a.generation? c = some g →
      ({ a with standings := m } : Adapter).generation? c = some g) :
    Paired { a with standings := m } w := by
  refine h.still (Within.standings 0 a m) hgen (fun hs _ hm ht => ?_) fun _ => ⟨rfl, rfl⟩
  obtain rfl := Option.some.inj (hs.link.symm.trans hm)
  exact ht

theorem setStatus (h : Paired a w) (clientId : String) (generation : Nat) (status : Status) :
    Paired (a.setStatus clientId generation status).1 w := by
  have hgen {c : String} {g : Nat} (hg : a.generation? c = some g) :
      (a.setStatus clientId generation status).1.generation? c = some g := by
    rwa [generation?_setStatus]
  by_cases hcurrent : a.isCurrent clientId generation = true
  · simp only [Adapter.setStatus, if_pos hcurrent] at hgen ⊢
    exact h.standings hgen
  · simp only [Adapter.setStatus, if_neg hcurrent]
    exact h

theorem reportEnd (h : Paired a w) (clientId : String) (generation : Nat)
    (e : Event.Disconnected) : Paired (a.reportEnd clientId generation e).1 w :=
  h.setStatus clientId generation .disconnected

theorem closeLink (h : Paired a w) (link : Nat) : Paired (a.closeLink link) w := by
  cases hl : a.links[link]? with
  | none =>
    have hsame : a.closeLink link = a := by
      refine congrArg (fun links => { a with links := links }) (List.ext_getElem? fun k => ?_)
      rw [List.getElem?_modify]
      by_cases hk : link = k
      · rw [← hk, hl]
        rfl
      · simp [hk]
    rw [hsame]
    exact h
  | some l =>
    refine h.still (Within.closeLink hl) id (fun hs _ hm ht => ?_) fun _ => ⟨rfl, rfl⟩
    rw [links_closeLink, hs.link] at hm
    obtain rfl := Option.some.inj hm
    split
    · rw [Connection.queue_close]
      exact ht
    · exact ht

/-- A book may change but for what waits and what was written. -/
theorem setBook (h : Paired a w) {d : Book} (hq : d.queued = (a.book n).queued)
    (hi : d.inFlight = (a.book n).inFlight) : Paired (a.setBook n d) w := by
  have hbook : ((a.setBook n d).book n).queued = (a.book n).queued ∧
      ((a.setBook n d).book n).inFlight = (a.book n).inFlight := by
    rw [book_setBook]
    split
    · exact ⟨hq, hi⟩
    · exact ⟨rfl, rfl⟩
  refine h.still (Within.setBook a n d) id (fun hs _ hm ht => ?_) fun _ => hbook
  obtain rfl := Option.some.inj (hs.link.symm.trans hm)
  exact ⟨hbook.1.trans ht.queued, hbook.2.trans ht.inFlight⟩

/-- A request that the current link of a book accepts waits on it, and the topic of a
subscription is noted with it. -/
theorem offer (h : Paired a w) {link : Nat} {l : Link} (hl : a.links[link]? = some l)
    (hcurrent : a.isCurrent l.clientId l.generation = true) {o : Outgoing}
    (hb : a.offer link o = (b, true)) {d : Book}
    (hq : d.queued = (a.book l.book).queued ++ o.subscribed?.toList)
    (hi : d.inFlight = (a.book l.book).inFlight) : Paired (b.setBook l.book d) w := by
  obtain ⟨l', c, hl', hc, hoffer⟩ | hoffer := a.offer_cases link o
  · obtain rfl := Option.some.inj (hl.symm.trans hl')
    obtain ⟨rfl, -⟩ := Prod.mk.inj (hoffer.symm.trans hb)
    have hw := Within.setConnection hl fun he => (Connection.stage_offer hc).trans he
    refine h.still (hw.trans (Within.setBook ..)) id (fun hserves hbook hm ht => ?_) fun hno => ?_
    · -- the current link of the book is the one that accepted
      obtain rfl := h.serves_unique (h.serves_of_current hserves.slot hl hbook.symm hcurrent)
        hserves rfl
      obtain rfl := Option.some.inj ((get?_links_setConnection c hl).symm.trans hm)
      obtain rfl := Option.some.inj (hl.symm.trans hserves.link)
      have hsize : l.book < (a.setConnection link c).books.length := h.link_book hl
      rw [book_setBook, if_pos ⟨rfl, hsize⟩]
      refine ⟨?_, hi.trans ht.inFlight⟩
      rw [hq, ht.queued, Connection.queue_offer o _ _ hc, List.filterMap_append,
        List.append_assoc]
      cases o <;> rfl
    · exact absurd rfl (hno link l hl)
  · rw [hoffer] at hb
    cases hb

/-- A request that is no subscription may wait without a note. -/
theorem offer_other (h : Paired a w) (link : Nat) {o : Outgoing} (ho : o.subscribed? = none) :
    Paired (a.offer link o).1 w := by
  obtain ⟨l, c, hl, hc, hoffer⟩ | hoffer := a.offer_cases link o
  · have hw := Within.setConnection hl fun he => (Connection.stage_offer hc).trans he
    rw [hoffer]
    refine h.still hw id (fun {s k l' m} hserves _ hm ht => ?_) fun _ => ⟨rfl, rfl⟩
    rw [links_setConnection, hserves.link, Option.map_some] at hm
    obtain rfl := Option.some.inj hm
    split
    · next hk =>
      subst hk
      obtain rfl := Option.some.inj (hl.symm.trans hserves.link)
      refine ⟨?_, ht.inFlight⟩
      rw [Connection.queue_offer o _ _ hc, List.filterMap_append, List.filterMap_cons_none ho,
        List.filterMap_nil, List.append_nil]
      exact ht.queued
    · exact ht
  · rw [hoffer]
    exact h

/-! ### What happens on a link -/

/-- An answer changes the subscriptions of a book and what it says was written under the id. -/
theorem settle_eq_setBook (n id : Nat) (grants : List Grant) (a : Adapter) :
    ∃ table, (a.settle n id grants).1 = a.setBook n
      { a.book n with table := table, inFlight := (a.book n).inFlight.filter (·.1 != id) } := by
  unfold settle
  dsimp only
  split
  · next hnone =>
    have hfilter : (a.book n).inFlight.filter (·.1 != id) = (a.book n).inFlight :=
      List.filter_eq_self.2 fun p hp => by simpa using List.find?_eq_none.1 hnone p hp
    refine ⟨(a.book n).table, ?_⟩
    rw [hfilter]
    exact (setBook_self a n).symm
  · exact ⟨_, rfl⟩

theorem resubscribe (h : Paired a w) {link : Nat} {l : Link} (hl : a.links[link]? = some l)
    (hcurrent : a.isCurrent l.clientId l.generation = true) :
    Paired (a.resubscribe link l.book) w := by
  -- The link keeps its book, and stays the latest of its client.
  let P (b : Adapter) : Prop := Paired b w ∧ ∃ m, b.links[link]? = some m ∧ m.book = l.book ∧
    b.isCurrent m.clientId m.generation = true
  suffices hboth : P (a.resubscribe link l.book) from hboth.1
  refine resubscribe_of ⟨h, l, hl, rfl, hcurrent⟩ fun {b c f} hc hb => ?_
  obtain ⟨hpaired, m, hm, hbook, hlatest⟩ := hb
  obtain ⟨d, hd, -, -⟩ := (Within.offer (.subscribe f.1 f.2) hm).link hm
  rw [hc] at hd
  rw [← hbook]
  have hsame : c.book m.book = b.book m.book := book_of_offer hc m.book
  refine ⟨hpaired.offer hm hlatest hc ?_ ?_, _, hd, hbook, ?_⟩
  · rw [hsame]
    rfl
  · rw [hsame]
    rfl
  · change c.isCurrent m.clientId m.generation = true
    rw [isCurrent, standings_of_offer hc]
    exact hlatest

/-- What happens on a link and is not about a subscription leaves the notes right. -/
theorem handle (h : Paired a w) (link : Nat) {x : Happening}
    (hx : x.concernsSubscription = false) : Paired (a.handle link x).1 w := by
  unfold Adapter.handle
  split
  · exact h
  · next l hl =>
    split
    · next hcurrent =>
      cases x with
      | acknowledged reason =>
        refine (h.setStatus l.clientId l.generation .connected).resubscribe (l := l) ?_ ?_
        · rw [Adapter.setStatus, if_pos hcurrent]
          exact hl
        · rw [isCurrent_iff, generation?_setStatus, ← isCurrent_iff]
          exact hcurrent
      | published topic payload qos => exact h
      | answered id grants => cases hx
      | wroteSubscribe id => cases hx
      | dismissed reason => exact h.reportEnd _ _ { reason := reason }
      | wroteDisconnect => exact h.reportEnd _ _ { reason := .normal }
      | failed reason message =>
        exact h.reportEnd _ _ { reason := reason, message := some (Redaction.sanitize message) }
    · exact h

/-- A link may change with its wire and its book, if the notes of the book are right again when
the link is the current one, and unchanged when it is not. -/
theorem rewire (h : Paired a w) {link : Nat} {l m : Link} {wire : Wire}
    (hl : a.links[link]? = some l) (hw : Within l.book a b) (hstandings : b.standings = a.standings)
    (hm : b.links[link]? = some m) (hothers : ∀ k, k ≠ link → b.links[k]? = a.links[k]?)
    (hdistinct : wire.ids.Nodup)
    (hcurrent : a.isCurrent l.clientId l.generation = true →
      Matches (a.book l.book) (w link) l.connection.queue →
      Matches (b.book l.book) wire m.connection.queue)
    (hstale : a.isCurrent l.clientId l.generation = false → b.book l.book = a.book l.book) :
    Paired b (Function.update w link wire) := by
  refine h.within hw (fun hg => ?_) (fun k hk => ?_) (fun k => ?_)
    (fun {s k l' m'} hserves hbook hm' ht => ?_) fun hno => absurd rfl (hno link l hl)
  · rwa [generation?, hstandings]
  · refine Function.update_of_ne ?_ _ _
    rintro rfl
    exact hk l hl rfl
  · by_cases hk : k = link
    · rw [hk, Function.update_self]
      exact hdistinct
    · rw [Function.update_of_ne hk]
      exact h.distinct k
  · by_cases hk : k = link
    · subst hk
      obtain rfl := Option.some.inj (hl.symm.trans hserves.link)
      obtain rfl := Option.some.inj (hm.symm.trans hm')
      rw [Function.update_self]
      exact hcurrent hserves.current ht
    · have hnot : a.isCurrent l.clientId l.generation = false := by
        refine Bool.eq_false_iff.2 fun hc => hk ?_
        exact h.serves_unique hserves (h.serves_of_current hserves.slot hl hbook.symm hc) rfl
      rw [hothers k hk, hserves.link] at hm'
      obtain rfl := Option.some.inj hm'
      rw [hstale hnot, Function.update_of_ne hk]
      exact ht

/-- A link of which something is under way was opened. -/
theorem link_of_wire (h : Paired a w) {link : Nat} (hw : w link ≠ {}) :
    ∃ l, a.links[link]? = some l := by
  by_contra hno
  refine hw (h.fresh link (List.getElem?_eq_none_iff.1 ?_))
  exact Option.eq_none_iff_forall_ne_some.2 fun l hl => hno ⟨l, hl⟩

/-- The first subscription that waits to be reported is. -/
theorem report (h : Paired a w) {link : Nat} {p : Nat × String} {rest : List (Nat × String)}
    (hp : (w link).unreported = p :: rest) :
    Paired (a.handle link (.wroteSubscribe p.1)).1
      (Function.update w link ⟨rest, p :: (w link).reported⟩) := by
  have hwire : w link ≠ {} := fun hw => by simp [hw] at hp
  obtain ⟨l, hl⟩ := h.link_of_wire hwire
  have hids : (Wire.mk rest (p :: (w link).reported)).ids.Nodup := by
    have hperm : (rest ++ p :: (w link).reported).Perm
        ((w link).unreported ++ (w link).reported) := hp ▸ List.perm_middle
    exact (hperm.map _).nodup_iff.2 (h.distinct link)
  simp only [Adapter.handle, hl]
  split
  · next hcurrent =>
    refine h.rewire hl (Within.setBook ..) rfl hl (fun _ _ => rfl) hids (fun _ ht => ?_) ?_
    · have hqueued : (a.book l.book).queued = p.2 :: (rest.map (·.2) ++
          l.connection.queue.filterMap Outgoing.subscribed?) := by rw [ht.queued, hp]; rfl
      rw [book_setBook, if_pos ⟨rfl, h.link_book hl⟩, Book.written, hqueued]
      refine ⟨rfl, congrArg (p :: ·) ?_⟩
      rw [ht.inFlight]
      have hne := Wire.reported_ne (h.distinct link) hp
      exact List.filter_eq_self.2 fun q hq => bne_iff_ne.2 (hne q hq)
    · intro hnot
      rw [hnot] at hcurrent
      cases hcurrent
  · next hnot =>
    refine h.rewire hl (Within.refl ..) rfl hl (fun _ _ => rfl) hids (fun hc => ?_) fun _ => rfl
    exact absurd hc hnot

/-- A subscription is acknowledged. -/
theorem acknowledge (h : Paired a w) (link id : Nat) (grants : List Grant) :
    Paired (a.handle link (.answered id grants)).1
      (Function.update w link ((w link).settle id)) := by
  have hids := Wire.nodup_settle (h.distinct link) id
  cases hl : a.links[link]? with
  | none =>
    have hw : w link = {} := h.fresh link (List.getElem?_eq_none_iff.1 hl)
    have hsame : Function.update w link ((w link).settle id) = w :=
      Function.update_eq_self_iff.2 (by rw [hw]; rfl)
    rw [hsame]
    simp only [Adapter.handle, hl]
    exact h
  | some l =>
    simp only [Adapter.handle, hl]
    split
    · next hcurrent =>
      obtain ⟨table, hsettle⟩ := settle_eq_setBook l.book id grants a
      rw [hsettle]
      refine h.rewire hl (Within.setBook ..) rfl hl (fun _ _ => rfl) hids (fun _ ht => ?_) ?_
      · rw [book_setBook, if_pos ⟨rfl, h.link_book hl⟩]
        exact ⟨ht.queued, congrArg (List.filter (·.1 != id)) ht.inFlight⟩
      · intro hnot
        rw [hnot] at hcurrent
        cases hcurrent
    · next hnot =>
      refine h.rewire hl (Within.refl ..) rfl hl (fun _ _ => rfl) hids (fun hc => ?_) fun _ => rfl
      exact absurd hc hnot

/-- The first request in the queue of a link is written. -/
theorem write (h : Paired a w) {link : Nat} {l : Link} {wire : Wire} {o : Outgoing}
    {rest : List Outgoing} (hl : a.links[link]? = some l) (hq : l.connection.queue = o :: rest)
    (hids : wire.ids.Nodup) (hreported : wire.reported = (w link).reported)
    (hunreported : wire.unreported.map (·.2) =
      (w link).unreported.map (·.2) ++ o.subscribed?.toList) :
    Paired (a.setConnection link { l.connection with queue := rest })
      (Function.update w link wire) := by
  refine h.rewire hl (Within.setConnection hl id) rfl (get?_links_setConnection _ hl)
    (fun k hk => ?_) hids (fun _ ht => ⟨?_, ht.inFlight.trans hreported.symm⟩) fun _ => rfl
  · rw [links_setConnection]
    simp [Ne.symm hk]
  · change (a.book l.book).queued = _ ++ rest.filterMap Outgoing.subscribed?
    rw [ht.queued, hq, hunreported, List.append_assoc]
    cases o <;> rfl

end Paired

end Adapter

end MqttRelay.Native
