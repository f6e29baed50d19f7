import MqttRelay.Proofs.Native.Pairing

/-!
# Which subscription an acknowledgement settles

Callers make requests, the worker carries them out, and any number of connections write, report
and are answered in their own time, those that were superseded or closed included.

* `Move`, `Exchange` — what may happen, and the adapter beside its wires. A subscription is
  written under an id that is not in use on its link, its writing is reported once and in order,
  and it is not answered before; what is not possible at its time changes nothing.

Results:
* `Paired.connect`, `Paired.carryOut`: the worker keeps the notes right; a new connection begins
  with none and supersedes the earlier ones.
* `Paired.next`: so does every move.
* `settles_after`: after every run the topics that wait are those of the subscriptions that the
  current link accepted and did not report, an acknowledgement settles the topic that was
  written under its id, and one that comes over an earlier link settles nothing.
-/

namespace MqttRelay.Native

/-! ## The worker -/

namespace Adapter

/-- A new link supersedes those that a client had with its slot. Nothing is under way on it, and
nothing is noted. -/
structure Opens (a b : Adapter) (c : String) (s : Slot) (l : Link) : Prop where
  laid : Laid b
  slot : a.slots.get? c = some s
  slots : b.slots = a.slots.insert c { s with link := some a.links.length }
  links : b.links = a.links ++ [l]
  book : l.book = s.book
  idle : l.connection.queue = []
  before : ∀ g, a.generation? c = some g → g < l.generation
  after : b.generation? c = some l.generation
  others : ∀ d, d ≠ c → b.generation? d = a.generation? d
  books : ∀ n, n ≠ s.book → b.book n = a.book n
  blank : Matches (b.book s.book) {} []

namespace Opens

variable {a b : Adapter} {c d : String} {s u : Slot} {k : Nat} {l m : Link}

theorem last (h : Opens a b c s l) : b.links[a.links.length]? = some l := by simp [h.links]

theorem keep (h : Opens a b c s l) (hm : a.links[k]? = some m) : b.links[k]? = some m := by
  rw [h.links, List.getElem?_append_left (List.getElem?_eq_some_iff.1 hm).1]
  exact hm

theorem link_cases (h : Opens a b c s l) (hm : b.links[k]? = some m) :
    k = a.links.length ∧ m = l ∨ a.links[k]? = some m := by
  rw [h.links] at hm
  exact Laid.new_or_old hm

theorem slot_cases (h : Opens a b c s l) (hu : b.slots.get? d = some u) :
    d = c ∧ u = { s with link := some a.links.length } ∨ d ≠ c ∧ a.slots.get? d = some u := by
  rw [h.slots, Assoc.get?_insert] at hu
  split at hu
  · next hd => exact .inl ⟨hd.symm, (Option.some.inj hu).symm⟩
  · next hd => exact .inr ⟨Ne.symm hd, hu⟩

end Opens

namespace Paired

variable {a b : Adapter} {w : Nat → Wire}

/-- A slot may give up its link. -/
theorem setSlot (h : Paired a w) {c : String} {s t : Slot} (hs : a.slots.get? c = some s)
    (hb : t.book = s.book) (hlink : t.link = none)
    (hlaid : Laid { a with slots := a.slots.insert c t }) :
    Paired { a with slots := a.slots.insert c t } w where
  toLaid := hlaid
  bounded hu hl hbook := by
    obtain ⟨v, hv, hvb, -⟩ := Laid.get?_insert_slot hs hb hu
    exact h.bounded hv hl (hbook.trans hvb.symm)
  unique := h.unique
  kept hu hk hl := by
    obtain ⟨v, hv, hvb, ⟨rfl, rfl⟩ | ⟨-, rfl⟩⟩ := Laid.get?_insert_slot hs hb hu
    · rw [hlink] at hk
      cases hk
    · exact h.kept hv hk hl
  served hu hl hbook := by
    obtain ⟨v, hv, hvb, -⟩ := Laid.get?_insert_slot hs hb hu
    rw [← hvb] at hbook ⊢
    exact h.served hv hl hbook
  noted {u k l} hu := by
    obtain ⟨v, hv, hvb, -⟩ := Laid.get?_insert_slot hs hb hu.slot
    rw [← hvb]
    exact h.noted ⟨hv, hu.link, hu.book.trans hvb.symm, hu.current⟩
  blank hu hno := by
    obtain ⟨v, hv, hvb, -⟩ := Laid.get?_insert_slot hs hb hu
    rw [← hvb] at hno ⊢
    exact h.blank hv hno
  distinct := h.distinct
  fresh := h.fresh

theorem stop (h : Paired a w) {c : String} {s : Slot} (hs : a.slots.get? c = some s) :
    Paired (a.stop c s) w := by
  have hlaid := (h.toLaid.stop hs).1
  unfold Adapter.stop at hlaid ⊢
  split at hlaid
  · exact h
  · next link hlink => exact (h.closeLink link).setSlot (s := s) hs rfl rfl hlaid

theorem create (h : Paired a w) (c host : String) (port : UInt16) (tls : Bool) :
    Paired { a with
      slots := a.slots.insert c ⟨host, port, tls, a.books.length, none⟩
      books := a.books ++ [({} : Book)] } w := by
  -- a slot is the new one, of whose book there is no link, or was there before
  have hget {d : String} {u : Slot}
      (hu : (a.slots.insert c ⟨host, port, tls, a.books.length, none⟩).get? d = some u) :
      u.book = a.books.length ∧ u.link = none ∨ a.slots.get? d = some u := by
    rw [Assoc.get?_insert] at hu
    split at hu
    · obtain rfl := Option.some.inj hu
      exact Or.inl ⟨rfl, rfl⟩
    · exact Or.inr hu
  have hnew {k : Nat} {l : Link} (hl : a.links[k]? = some l) : l.book ≠ a.books.length :=
    Nat.ne_of_lt (h.link_book hl)
  have hbook {n : Nat} (hn : n < a.books.length) :
      ((a.books ++ [({} : Book)])[n]?).getD {} = a.book n := by
    rw [List.getElem?_append_left hn]
    rfl
  constructor
  case toLaid => exact h.toLaid.create c host port tls
  case bounded =>
    intro d u k l hu hl hb
    obtain ⟨hu, -⟩ | hu := hget hu
    · exact absurd (hb.trans hu) (hnew hl)
    · exact h.bounded hu hl hb
  case unique => exact h.unique
  case kept =>
    intro d u k l hu hk hl
    obtain ⟨-, hu⟩ | hu := hget hu
    · rw [hu] at hk
      cases hk
    · exact h.kept hu hk hl
  case served =>
    intro d u k l hu hl hb
    obtain ⟨hu, -⟩ | hu := hget hu
    · exact absurd (hb.trans hu) (hnew hl)
    · exact h.served hu hl hb
  case noted =>
    intro u k l hu
    obtain ⟨hb, -⟩ | hslot := hget hu.slot
    · exact absurd (hu.book.trans hb) (hnew hu.link)
    · have hn := h.noted ⟨hslot, hu.link, hu.book, hu.current⟩
      rw [← hbook (h.slot_book hslot)] at hn
      exact hn
  case blank =>
    intro d u hu hno
    obtain ⟨hb, -⟩ | hu := hget hu
    · have hempty : ((a.books ++ [({} : Book)])[u.book]?).getD {} = {} := by simp [hb]
      exact ⟨congrArg Book.queued hempty, congrArg Book.inFlight hempty⟩
    · have hn := h.blank hu hno
      rw [← hbook (h.slot_book hu)] at hn
      exact hn
  case distinct => exact h.distinct
  case fresh => exact h.fresh

/-- Slots may be given up, and clients may get a standing. -/
theorem restrict (h : Paired a w) (hbooks : b.books = a.books) (hlinks : b.links = a.links)
    (hslots : ∀ {c : String} {s : Slot}, b.slots.get? c = some s → a.slots.get? c = some s)
    (hgen : ∀ {c : String} {s : Slot} {g : Nat}, b.slots.get? c = some s →
      a.generation? c = some g → b.generation? c = some g) : Paired b w where
  toLaid := h.toLaid.restrict hbooks hlinks hslots
  bounded hs hl hb := by
    obtain ⟨g, hg, hle⟩ := h.bounded (hslots hs) (hlinks ▸ hl) hb
    exact ⟨g, hgen hs hg, hle⟩
  unique hl hm := h.unique (hlinks ▸ hl) (hlinks ▸ hm)
  kept hs hk hl := hgen hs (h.kept (hslots hs) hk (hlinks ▸ hl))
  served hs hl hb := by
    obtain ⟨j, m, hm, hmb, hg⟩ := h.served (hslots hs) (hlinks ▸ hl) hb
    exact ⟨j, m, hlinks ▸ hm, hmb, hgen hs hg⟩
  noted {s k l} hs := by
    have hl : a.links[k]? = some l := hlinks ▸ hs.link
    obtain ⟨g, hg, -⟩ := h.bounded (hslots hs.slot) hl hs.book
    have hgl : g = l.generation :=
      Option.some.inj ((hgen hs.slot hg).symm.trans ((b.isCurrent_iff ..).1 hs.current))
    rw [book, hbooks]
    exact h.noted ⟨hslots hs.slot, hl, hs.book, (a.isCurrent_iff ..).2 (hgl ▸ hg)⟩
  blank hs hno := by
    rw [book, hbooks]
    exact h.blank (hslots hs) (hlinks ▸ hno)
  distinct := h.distinct
  fresh k hk := h.fresh k (hlinks ▸ hk)

section OpenLink

variable {c d : String} {s u : Slot} {k : Nat} {l m : Link}

theorem older_of_opens (h : Paired a w) (ho : Opens a b c s l)
    (hm : a.links[k]? = some m) (hb : m.book = s.book) : m.generation < l.generation := by
  obtain ⟨g, hg, hle⟩ := h.bounded ho.slot hm hb
  exact Nat.lt_of_le_of_lt hle (ho.before g hg)

/-- The book of another client's slot is another one. -/
theorem apart_of_opens (h : Paired a w) (ho : Opens a b c s l) (hd : d ≠ c)
    (hu : a.slots.get? d = some u) : u.book ≠ s.book := fun he =>
  hd (h.slot_eq hu ho.slot he)

/-- A link of a client's book is the new one or an earlier one of its client, or it is another
client's and was there before. -/
theorem cases_of_opens (h : Paired a w) (ho : Opens a b c s l) (hu : b.slots.get? d = some u)
    (hm : b.links[k]? = some m) (hb : m.book = u.book) :
    (d = c ∧ u = { s with link := some a.links.length } ∧
      (k = a.links.length ∧ m = l ∨ m.generation < l.generation)) ∨
    (d ≠ c ∧ a.slots.get? d = some u ∧ a.links[k]? = some m) := by
  obtain ⟨rfl, rfl⟩ | ⟨hd, hu⟩ := ho.slot_cases hu
  · exact .inl ⟨rfl, rfl, (ho.link_cases hm).imp_right fun hm => h.older_of_opens ho hm hb⟩
  · obtain ⟨-, rfl⟩ | hm := ho.link_cases hm
    · exact absurd (hb.symm.trans ho.book) (h.apart_of_opens ho hd hu)
    · exact .inr ⟨hd, hu, hm⟩

/-- A new link supersedes the earlier ones of its book, and nothing is noted. -/
theorem openLink (h : Paired a w) (ho : Opens a b c s l) : Paired b w where
  toLaid := ho.laid
  bounded hu hm hb := by
    obtain ⟨rfl, -, hown⟩ | ⟨hd, hu, hm⟩ := h.cases_of_opens ho hu hm hb
    · refine ⟨_, ho.after, ?_⟩
      obtain ⟨-, rfl⟩ | holder := hown
      · exact Nat.le_refl _
      · exact Nat.le_of_lt holder
    · rw [ho.others _ hd]
      exact h.bounded hu hm hb
  unique hm hm' hb hg := by
    obtain ⟨rfl, rfl⟩ | hm := ho.link_cases hm <;> obtain ⟨rfl, rfl⟩ | hm' := ho.link_cases hm'
    · rfl
    · exact absurd hg (Nat.ne_of_gt (h.older_of_opens ho hm' (hb.symm.trans ho.book)))
    · exact absurd hg (Nat.ne_of_lt (h.older_of_opens ho hm (hb.trans ho.book)))
    · exact h.unique hm hm' hb hg
  kept hu hk hm := by
    obtain ⟨m, hm', -, hb⟩ := ho.laid.slot_link hu hk
    obtain rfl := Option.some.inj (hm'.symm.trans hm)
    obtain ⟨rfl, rfl, -⟩ | ⟨hd, hu, hm⟩ := h.cases_of_opens ho hu hm hb
    · obtain rfl := Option.some.inj hk
      obtain rfl := Option.some.inj (ho.last.symm.trans hm)
      exact ho.after
    · rw [ho.others _ hd]
      exact h.kept hu hk hm
  served hu hm hb := by
    obtain ⟨rfl, rfl, -⟩ | ⟨hd, hu, hm⟩ := h.cases_of_opens ho hu hm hb
    · exact ⟨_, l, ho.last, ho.book, ho.after⟩
    · obtain ⟨j, m', hm', hb', hg⟩ := h.served hu hm hb
      exact ⟨j, m', ho.keep hm', hb', (ho.others _ hd).trans hg⟩
  noted {u k m} hu := by
    have hcurrent := (b.isCurrent_iff ..).1 hu.current
    obtain ⟨hc, rfl, hown⟩ | ⟨hd, hslot, hm⟩ := h.cases_of_opens ho hu.slot hu.link hu.book
    · obtain ⟨rfl, rfl⟩ | holder := hown
      · rw [h.fresh _ (Nat.le_refl _), ho.idle]
        exact ho.blank
      · -- An earlier link is superseded.
        rw [hc, ho.after] at hcurrent
        exact absurd (Option.some.inj hcurrent) (Nat.ne_of_gt holder)
    · rw [ho.others _ hd] at hcurrent
      rw [ho.books _ (h.apart_of_opens ho hd hslot)]
      exact h.noted ⟨hslot, hm, hu.book, (a.isCurrent_iff ..).2 hcurrent⟩
  blank hu hno := by
    obtain ⟨rfl, rfl⟩ | ⟨hd, hu⟩ := ho.slot_cases hu
    · exact absurd ho.book (hno _ l ho.last)
    · rw [ho.books _ (h.apart_of_opens ho hd hu)]
      exact h.blank hu fun k m hm => hno k m (ho.keep hm)
  distinct := h.distinct
  fresh k hk := by
    rw [ho.links, List.length_append] at hk
    exact h.fresh k (Nat.le_of_add_right_le hk)

end OpenLink

/-- Without slots there is nothing to note. -/
theorem giveUp (h : Paired a w) (hlaid : Laid b) (hslots : b.slots = [])
    (hlinks : b.links = a.links) : Paired b w := by
  have hnone {c : String} {s : Slot} : b.slots.get? c ≠ some s := by
    rw [hslots]
    nofun
  exact {
    toLaid := hlaid
    bounded := fun hs => absurd hs hnone
    unique := fun hl hm => h.unique (hlinks ▸ hl) (hlinks ▸ hm)
    kept := fun hs => absurd hs hnone
    served := fun hs => absurd hs hnone
    noted := fun hs => absurd hs.slot hnone
    blank := fun hs => absurd hs hnone
    distinct := h.distinct
    fresh := fun k hk => h.fresh k (hlinks ▸ hk) }

theorem connect (h : Paired a w) {c : String} {s : Slot} (p : ConnectParameters)
    (hs : a.slots.get? c = some s) : Paired (a.connect c s p) w := by
  have hlaid := h.toLaid.connect p hs
  have hstop := h.stop hs
  obtain ⟨-, hslot, -⟩ := h.toLaid.stop hs
  unfold Adapter.connect at hlaid ⊢
  dsimp only at hlaid ⊢
  generalize a.stop c s = b at *
  split
  · exact hstop
  · next standing hstanding =>
    rw [hstanding] at hlaid
    dsimp only at hlaid
    have hsize := hstop.slot_book hslot
    split at hlaid
    · next hkeep =>
      rw [if_pos hkeep]
      exact hstop.giveUp hlaid rfl rfl
    · next hkeep =>
      rw [if_neg hkeep]
      have hbook (n : Nat) := book_setBook { b with
        standings := b.standings.insert c ⟨.connecting, standing.generation + 1⟩ } s.book n
        (b.book s.book).forgetAnswers
      have hself := (hbook s.book).trans (if_pos ⟨rfl, hsize⟩)
      have hold : b.generation? c = some standing.generation := by
        rw [generation?, hstanding]
        rfl
      exact hstop.openLink
        (l := ⟨c, standing.generation + 1, s.book, s.host, s.port, { parameters := p }⟩) {
        laid := hlaid
        slot := hslot
        slots := rfl
        links := rfl
        book := rfl
        idle := rfl
        before := fun g hg => Option.some.inj (hg.symm.trans hold) ▸ Nat.lt_succ_self _
        after := congrArg (Option.map Standing.generation) (Assoc.get?_insert_self ..)
        others := fun d hd => congrArg (Option.map Standing.generation)
          ((Assoc.get?_insert ..).trans (if_neg (Ne.symm hd)))
        books := fun n hn => (hbook n).trans (if_neg fun he => hn he.1.symm)
        blank := ⟨congrArg Book.queued hself, congrArg Book.inFlight hself⟩ }

theorem disconnect (h : Paired a w) {c : String} {s : Slot} (hs : a.slots.get? c = some s) :
    Paired (a.disconnect c s).1 w := by
  unfold Adapter.disconnect
  split
  · next standing link _ hlink =>
    split
    · have hoffer : Paired (a.offer link .disconnect).1 w := h.offer_other link rfl
      split
      · next b hb =>
        rw [hb] at hoffer
        exact hoffer
      · next b hb =>
        obtain rfl := eq_of_offer_false hb
        exact (h.stop hs).reportEnd ..
    · exact (h.stop hs).reportEnd ..
  · exact h

theorem subscribe (h : Paired a w) {c : String} {s : Slot} (id : SubscriptionId) (topic : String)
    (qos : Qos) (hs : a.slots.get? c = some s) : Paired (a.subscribe c s id topic qos).1 w := by
  have henter : Paired (a.setBook s.book ((a.book s.book).enter topic id qos)) w :=
    h.setBook rfl rfl
  obtain hr | ⟨link, level, b, hlink, hb, hr⟩ | ⟨link, level, b, -, -, hr⟩ | ⟨link, -, -, hr⟩ :=
    subscribe_cases c s id topic qos a
  · rw [hr]
    exact henter
  · obtain ⟨l, hl, hc, hbook⟩ := henter.slot_link hs hlink
    have hcurrent : a.isCurrent l.clientId l.generation = true :=
      (a.isCurrent_iff ..).2 (hc ▸ henter.kept hs hlink hl)
    have hpaired := henter.offer hl hcurrent hb
      (d := ((a.book s.book).enter topic id qos).enqueue topic)
    rw [hbook, book_setBook, if_pos ⟨rfl, h.slot_book hs⟩] at hpaired
    rw [hr]
    exact hpaired rfl rfl
  · rw [hr]
    exact h.setBook rfl rfl
  · rw [hr]
    exact h.setBook rfl rfl

theorem unsubscribe (h : Paired a w) (c : String) (s : Slot) (id : SubscriptionId)
    (topic : String) : Paired (a.unsubscribe c s id topic).1 w := by
  have hrelease : Paired (a.setBook s.book ((a.book s.book).release topic id)) w :=
    h.setBook rfl rfl
  obtain hr | ⟨link, e, -, hr⟩ | ⟨link, -, hr⟩ := unsubscribe_cases c s id topic a
  · rw [hr]
    exact hrelease
  · rw [hr]
    exact hrelease.offer_other link rfl
  · rw [hr]
    exact hrelease.offer_other link rfl

theorem remove (h : Paired a w) (c : String) :
    Paired { a with slots := a.slots.erase c, standings := a.standings.erase c } w := by
  have hget {d : String} {s : Slot} (hs : (a.slots.erase c).get? d = some s) :
      a.slots.get? d = some s ∧ (a.standings.erase c).get? d = a.standings.get? d := by
    rw [Assoc.get?_erase] at hs ⊢
    split at hs
    · cases hs
    · next hd => exact ⟨hs, if_neg hd⟩
  refine h.restrict rfl rfl (fun hs => (hget hs).1) fun hs hg => ?_
  rw [generation?, (hget hs).2]
  exact hg

theorem carryOut (h : Paired a w) (r : Request) : Paired (a.carryOut r).1 w := by
  have hstop (c : String) : Paired (a.stopped c) w :=
    stopped_of (P := fun a => Paired a w) h fun _ hs => h.stop hs
  cases r with
  | create c host port tls => exact (hstop c).create c host port tls
  | remove c => exact (hstop c).remove c
  | connect c p =>
    simp only [Adapter.carryOut]
    split
    · next s hs => exact h.connect p hs
    · exact h
  | disconnect c =>
    simp only [Adapter.carryOut]
    split
    · next s hs => exact h.disconnect hs
    · exact h
  | subscribe id c topic qos =>
    simp only [Adapter.carryOut]
    split
    · next s hs => exact h.subscribe id topic qos hs
    · exact h
  | unsubscribe id c topic =>
    simp only [Adapter.carryOut]
    split
    · next s _ => exact h.unsubscribe c s id topic
    · exact h

theorem answer (h : Paired a w) (r : Request) : Paired (a.answer r).1 w := by
  obtain ⟨hs, hb, hl, -⟩ := answer_parts r a
  exact h.restrict hb hl (fun hu => hs ▸ hu) fun _ hg => generation?_answer r hg

theorem work (h : Paired a w) : Paired a.work.1 w := by
  unfold Adapter.work
  split
  · exact h
  · next r rest _ =>
    split
    · exact (h.restrict (b := { a with commands := rest }) rfl rfl id fun _ hg => hg).carryOut r
    · exact h

end Paired

end Adapter

/-! ## Exchanges -/

/-- The adapter, and what is under way on each of its links. -/
structure Exchange where
  adapter : Adapter := {}
  wires : Nat → Wire := fun _ => {}

/-- What happens between the adapter and its connections. -/
inductive Move where
  /-- A caller makes a request. -/
  | request (r : Request)
  /-- The worker carries out the first request that waits. -/
  | work
  /-- The first request in the queue of a link is written, a subscription under this id. -/
  | write (link id : Nat)
  /-- The first subscription of a link that was not reported as written is. -/
  | report (link : Nat)
  /-- The subscription with this id is acknowledged. -/
  | acknowledge (link id : Nat) (grants : List Grant)
  /-- Anything else happens on a link. -/
  | happen (link : Nat) (h : Happening)
  deriving DecidableEq, Inhabited, Repr

namespace Exchange

/-- The first request in the queue of a link is written. -/
def write (link id : Nat) (x : Exchange) : Exchange :=
  match x.adapter.links[link]? with
  | none => x
  | some l =>
    match l.connection.queue with
    | [] => x
    | o :: rest =>
      let adapter := x.adapter.setConnection link { l.connection with queue := rest }
      match o.subscribed? with
      | none => { x with adapter := adapter }
      | some topic =>
        if id ∈ (x.wires link).ids then x
        else ⟨adapter, Function.update x.wires link ((x.wires link).write id topic)⟩

/-- A link handles what happened on it, while its wire changes. -/
def handle (link : Nat) (h : Happening) (w : Wire) (x : Exchange) : Exchange × List Emission :=
  let (a, events) := x.adapter.handleAll link [h]
  (⟨a, Function.update x.wires link w⟩, events)

end Exchange

/-- What comes of a move: the exchange after it, and the events that it delivers. -/
def Move.act (m : Move) (x : Exchange) : Exchange × List Emission :=
  match m with
  | .request r => ({ x with adapter := (x.adapter.answer r).1 }, (x.adapter.answer r).2.events)
  | .work => ({ x with adapter := x.adapter.work.1 }, x.adapter.work.2)
  | .write link id => (x.write link id, [])
  | .report link =>
    match (x.wires link).unreported with
    | [] => (x, [])
    | p :: rest => x.handle link (.wroteSubscribe p.1) ⟨rest, p :: (x.wires link).reported⟩
  | .acknowledge link id grants =>
    let w := x.wires link
    if id ∈ w.unreported.map (·.1) then (x, [])
    else x.handle link (.answered id grants) (w.settle id)
  | .happen link h =>
    if h.concernsSubscription then (x, []) else x.handle link h (x.wires link)

namespace Exchange

/-- The exchange after a move. -/
def next (x : Exchange) (m : Move) : Exchange := (m.act x).1

/-- What a list of moves makes of an adapter that begins. -/
def after (moves : List Move) : Exchange := moves.foldl next {}

end Exchange

/-! ## Moves -/

namespace Exchange

/-- The notes of all books are right. -/
abbrev Paired (x : Exchange) : Prop := x.adapter.Paired x.wires

namespace Paired

variable {x : Exchange}

theorem write (h : x.Paired) (link id : Nat) : (x.write link id).Paired := by
  unfold Exchange.write
  split
  · exact h
  · next l hl =>
    split
    · exact h
    · next o rest hq =>
      dsimp only
      split
      · next ho =>
        have hw := Adapter.Paired.write h hl hq (h.distinct link) rfl (by simp [ho])
        rwa [Function.update_eq_self] at hw
      · next topic ho =>
        split
        · exact h
        · next hid =>
          exact Adapter.Paired.write h hl hq (Wire.nodup_write (h.distinct link) hid topic) rfl
            (by simp [ho, Wire.write])

/-- If a link handles what happened on it with the notes right, they are so when the link is
closed for it, too. -/
theorem handle {link : Nat} {e : Happening} {w : Wire}
    (h : (x.adapter.handle link e).1.Paired (Function.update x.wires link w)) :
    (x.handle link e w).1.Paired := by
  unfold Exchange.handle Adapter.handleAll
  generalize x.adapter.handle link e = r at h
  obtain ⟨a, events, goesOn⟩ := r
  cases goesOn with
  | true => exact h
  | false => exact Adapter.Paired.closeLink h link

/-- Every move keeps the notes right. -/
theorem next (h : x.Paired) (m : Move) : (x.next m).Paired := by
  cases m with
  | request r => exact Adapter.Paired.answer h r
  | work => exact Adapter.Paired.work h
  | write link id => exact h.write link id
  | report link =>
    unfold Exchange.next Move.act
    dsimp only
    split
    · exact h
    · next p rest hp => exact handle (Adapter.Paired.report h hp)
  | acknowledge link id grants =>
    unfold Exchange.next Move.act
    dsimp only
    split
    · exact h
    · exact handle (Adapter.Paired.acknowledge h link id grants)
  | happen link e =>
    unfold Exchange.next Move.act
    dsimp only
    split
    · exact h
    · next he =>
      refine handle ?_
      rw [Function.update_eq_self]
      exact Adapter.Paired.handle h link (Bool.eq_false_iff.2 he)

theorem start : Paired {} where
  toLaid := Adapter.laid_start
  bounded := nofun
  unique := nofun
  kept := nofun
  served := nofun
  noted := fun hs => nomatch hs.slot
  blank := nofun
  distinct := fun _ => List.nodup_nil
  fresh := fun _ _ => rfl

theorem foldl (h : x.Paired) (moves : List Move) : (moves.foldl Exchange.next x).Paired := by
  induction moves generalizing x with
  | nil => exact h
  | cons m moves ih => exact ih (h.next m)

theorem after (moves : List Move) : (Exchange.after moves).Paired := start.foldl moves

end Paired

end Exchange

/-! ## Acknowledgements -/

/-- A book in which a topic is settled that was written under this id. -/
def Book.settle (b : Book) (id : Nat) (topic : String) : Book :=
  { b with
    table := (b.table.takeUntold topic).1
    inFlight := b.inFlight.filter (·.1 != id) }

/-- What a subscription is told when its topic is answered. -/
def Adapter.outcome (topic : String) (grants : List Grant) (s : SubscriptionId × Qos) : Emission :=
  if grants.all Grant.isGranted then granted topic s.1 s.2
  else refused topic ("Broker rejected subscription: [" ++
    String.intercalate ", " (grants.map Grant.debugText) ++ "]") s.1

/-- An answer settles the topic that the book notes under its id. -/
theorem Adapter.settle_of_find? {a : Adapter} {n id : Nat} {topic : String} (grants : List Grant)
    (h : (a.book n).inFlight.find? (·.1 == id) = some (id, topic)) :
    a.settle n id grants = (a.setBook n ((a.book n).settle id topic),
      ((a.book n).table.takeUntold topic).2.map (outcome topic grants)) := by
  simp only [settle, h]
  rfl

namespace Exchange

/-- After every run, for every client with a slot: no more than one link is its current one, and
one is, once a connection was opened; the topics that wait are those of the subscriptions that
the current link accepted and did not report as written, in order; an acknowledgement on it
settles the topic that was written under its id, and no topic if none was; and what comes over
any other link of the client changes nothing. -/
theorem settles_after (moves : List Move) {c : String} {s : Slot}
    (hs : (after moves).adapter.slots.get? c = some s) :
    let x := after moves
    let a := x.adapter
    let b := a.book s.book
    (∀ j k l m, a.Serves s j l → a.Serves s k m → j = k) ∧
    (∀ (j : Nat) (l : Link), a.links[j]? = some l → l.book = s.book → ∃ k m, a.Serves s k m) ∧
    ((∀ (j : Nat) (l : Link), a.links[j]? = some l → l.book ≠ s.book) → b.queued = []) ∧
    (∀ k l, a.Serves s k l →
      b.queued = (x.wires k).unreported.map (·.2) ++
        l.connection.queue.filterMap Outgoing.subscribed? ∧
      (∀ id topic grants, (id, topic) ∈ (x.wires k).reported →
        a.handle k (.answered id grants) =
          (a.setBook s.book (b.settle id topic),
            (b.table.takeUntold topic).2.map (Adapter.outcome topic grants), true)) ∧
      ∀ id grants, id ∉ (x.wires k).ids → a.handle k (.answered id grants) = (a, [], true)) ∧
    ∀ (j : Nat) (l : Link), a.links[j]? = some l → l.book = s.book → ¬ a.Serves s j l →
      ∀ e, a.handle j e = (a, [], false) := by
  intro x a b
  have h : a.Paired x.wires := Paired.after moves
  refine ⟨fun j k l m hl hm => h.serves_unique hl hm rfl, fun j l hl hb => ?_,
    fun hno => (h.blank hs hno).1, fun k l hserves => ⟨(h.noted hserves).queued, ?_, ?_⟩,
    fun j l hl hb hnot e => ?_⟩
  · obtain ⟨k, m, hm, hmb, hg⟩ := h.served hs hl hb
    refine ⟨k, m, h.serves_of_current hs hm hmb ((a.isCurrent_iff ..).2 ?_)⟩
    rwa [h.link_client hm hs hmb.symm]
  · intro id topic grants hmem
    have hfind : b.inFlight.find? (·.1 == id) = some (id, topic) := by
      rw [(h.noted hserves).inFlight]
      exact Wire.find?_reported (h.distinct k) hmem
    simp only [Adapter.handle, hserves.link, hserves.current, if_true, hserves.book,
      Adapter.settle_of_find? grants hfind]
    rfl
  · intro id grants hnone
    have hfind : b.inFlight.find? (·.1 == id) = none := by
      rw [(h.noted hserves).inFlight]
      refine List.find?_eq_none.2 fun p hp heq => hnone ?_
      exact List.mem_map.2 ⟨p, List.mem_append_right _ hp, beq_iff_eq.1 heq⟩
    simp only [Adapter.handle, hserves.link, hserves.current, if_true, hserves.book, Adapter.settle,
      show (a.book s.book).inFlight.find? (·.1 == id) = none from hfind]
  · refine a.handle_of_superseded j e l hl (Bool.eq_false_iff.2 fun hcurrent => hnot ?_)
    exact h.serves_of_current hs hl hb hcurrent

/-- A subscription is asked for on two connections, the second of which supersedes the first, and
is written under the same id on both. -/
def twiceAsked : List Move :=
  let connect := [.request (.connect "c" ⟨30, true, "", ""⟩), .work]
  [.request (.create "c" "h" 1883 false), .work] ++ connect ++
  [.happen 0 (.acknowledged .normal), .request (.subscribe ⟨"s"⟩ "c" "t" .atMostOnce), .work,
    .write 0 1, .report 0] ++ connect ++
  [.happen 1 (.acknowledged .normal), .write 1 1, .report 1]

/-- The answer that comes over the first connection settles nothing, the one that comes over the
second settles the topic. -/
theorem settles_after_twiceAsked :
    let a := (after twiceAsked).adapter
    a.slots.get? "c" = some ⟨"h", 1883, false, 0, some 1⟩ ∧
    (∀ grants, a.handle 0 (.answered 1 grants) = (a, [], false)) ∧
    ∀ grants, a.handle 1 (.answered 1 grants) =
      (a.setBook 0 ((a.book 0).settle 1 "t"),
        [Adapter.outcome "t" grants (⟨"s"⟩, .atMostOnce)], true) := by
  intro a
  have hs : a.slots.get? "c" = some ⟨"h", 1883, false, 0, some 1⟩ := by decide
  obtain ⟨hunique, -, -, hcurrent, hother⟩ := settles_after twiceAsked hs
  have hserves : a.Serves ⟨"h", 1883, false, 0, some 1⟩ 1
      ⟨"c", 2, 0, "h", 1883, { parameters := ⟨30, true, "", ""⟩ }⟩ :=
    ⟨hs, by decide, rfl, by decide⟩
  refine ⟨hs, fun grants => ?_, fun grants => ?_⟩
  · refine hother 0 ⟨"c", 1, 0, "h", 1883, { parameters := ⟨30, true, "", ""⟩, stage := .ended }⟩
      (by decide) rfl (fun hserves' => ?_) _
    exact absurd (hunique _ _ _ _ hserves' hserves) (by decide)
  · exact (hcurrent 1 _ hserves).2.1 1 "t" grants (by decide)

end Exchange

end MqttRelay.Native
