import MqttRelay.Proofs.Native.Run

/-!
# Slots, books and connections

Every slot has a book of its own, and of all connections that were ever opened for a book at
most one goes on: the one that the slot keeps, if there is a slot still. So whoever writes in a
book on behalf of a connection writes for that connection alone.

Results:
* `Laid.within`: whatever changes within one book keeps it so.
* `Laid.create`, `Laid.stop`, `Laid.connect`: so do a new slot, a closed connection and a new
  one.
-/

namespace MqttRelay.Native

namespace Connection

theorem stage_close (c : Connection) : c.close.stage = .ended := by
  unfold close
  split
  · rfl
  · assumption
  · rfl

theorem stage_offer {c d : Connection} {o : Outgoing} (h : c.offer o = some d) :
    d.stage = c.stage := by
  unfold offer at h
  split at h
  · cases h
  · obtain rfl := Option.some.inj h
    rfl

end Connection

namespace Book

/-- A book in which a subscription is entered. -/
def enter (b : Book) (topic : String) (id : SubscriptionId) (qos : Qos) : Book :=
  { b with table := (b.table.add topic id qos).1 }

/-- A book in which a subscription is entered that is told its outcome at once. -/
def enterTold (b : Book) (topic : String) (id : SubscriptionId) (qos : Qos) : Book :=
  { b with table := (b.table.add topic id qos).1.markTold topic id }

/-- A book in which a subscription is released. -/
def release (b : Book) (topic : String) (id : SubscriptionId) : Book :=
  { b with table := (b.table.remove topic id).1 }

end Book

namespace Adapter

/-! ## Parts -/

theorem book_setBook (a : Adapter) (n m : Nat) (b : Book) :
    (a.setBook n b).book m = if n = m ∧ n < a.books.length then b else a.book m := by
  unfold book setBook
  rw [List.getElem?_set]
  by_cases h : n = m
  · subst h
    by_cases hn : n < a.books.length
    · simp [hn]
    · simp [hn]
  · simp [h]

theorem setBook_setBook (a : Adapter) (n : Nat) (b c : Book) :
    (a.setBook n b).setBook n c = a.setBook n c := by
  simp only [setBook, List.set_set]

theorem setBook_self (a : Adapter) (n : Nat) : a.setBook n (a.book n) = a := by
  have h : a.books.set n (a.book n) = a.books := by
    by_cases hn : n < a.books.length
    · rw [book, List.getElem?_eq_getElem hn, Option.getD_some, List.set_getElem_self]
    · exact List.set_eq_of_length_le (Nat.le_of_not_lt hn)
  rw [setBook, h]

theorem links_setConnection (a : Adapter) (link k : Nat) (c : Connection) :
    (a.setConnection link c).links[k]? =
      (a.links[k]?).map fun l => if link = k then { l with connection := c } else l := by
  rw [setConnection, List.getElem?_modify]
  rfl

theorem get?_links_setConnection {a : Adapter} {link : Nat} {l : Link} (c : Connection)
    (hl : a.links[link]? = some l) :
    (a.setConnection link c).links[link]? = some { l with connection := c } := by
  rw [links_setConnection, hl, Option.map_some, if_pos rfl]

theorem links_closeLink (a : Adapter) (link k : Nat) :
    (a.closeLink link).links[k]? =
      (a.links[k]?).map fun l =>
        if link = k then { l with connection := l.connection.close } else l := by
  rw [closeLink, List.getElem?_modify]
  rfl

theorem setConnection_self {a : Adapter} {link : Nat} {l : Link} (hl : a.links[link]? = some l) :
    a.setConnection link l.connection = a := by
  have h : (a.setConnection link l.connection).links = a.links := by
    refine List.ext_getElem? fun k => ?_
    rw [links_setConnection]
    by_cases hk : link = k
    · rw [← hk, hl]
      simp
    · simp [hk]
  exact congrArg (fun links => { a with links := links }) h

theorem book_of_offer {a b : Adapter} {link : Nat} {o : Outgoing} {accepted : Bool}
    (h : a.offer link o = (b, accepted)) (n : Nat) : b.book n = a.book n := by
  obtain ⟨l, c, -, -, hoffer⟩ | hoffer := a.offer_cases link o
  · obtain ⟨rfl, -⟩ := Prod.mk.inj (hoffer.symm.trans h)
    rfl
  · obtain ⟨rfl, -⟩ := Prod.mk.inj (hoffer.symm.trans h)
    rfl

theorem standings_of_offer {a b : Adapter} {link : Nat} {o : Outgoing} {accepted : Bool}
    (h : a.offer link o = (b, accepted)) : b.standings = a.standings := by
  obtain ⟨l, c, -, -, hoffer⟩ | hoffer := a.offer_cases link o
  · obtain ⟨rfl, -⟩ := Prod.mk.inj (hoffer.symm.trans h)
    rfl
  · obtain ⟨rfl, -⟩ := Prod.mk.inj (hoffer.symm.trans h)
    rfl

/-- What a subscription comes to: it is only entered; or the broker is asked; or it is told
that the broker cannot be asked; or that it was granted, as another one of its topic was told
something before. -/
theorem subscribe_cases (clientId : String) (s : Slot) (id : SubscriptionId) (topic : String)
    (qos : Qos) (a : Adapter) :
    let b := a.book s.book
    let entered := a.setBook s.book (b.enter topic id qos)
    let told := a.setBook s.book (b.enterTold topic id qos)
    a.subscribe clientId s id topic qos = (entered, []) ∨
      (∃ link level c, s.link = some link ∧
        entered.offer link (.subscribe topic level) = (c, true) ∧
        a.subscribe clientId s id topic qos =
          (c.setBook s.book ((b.enter topic id qos).enqueue topic), [])) ∨
      (∃ link level c, s.link = some link ∧
        entered.offer link (.subscribe topic level) = (c, false) ∧
        a.subscribe clientId s id topic qos = (told, [refused topic notSent id])) ∨
      (∃ link, s.link = some link ∧ (b.enter topic id qos).table.isConfirmed topic = true ∧
        a.subscribe clientId s id topic qos = (told, [granted topic id qos])) := by
  intro b entered told
  have htold : entered.setBook s.book (b.enterTold topic id qos) = told := setBook_setBook ..
  unfold subscribe
  dsimp only
  split
  · exact Or.inl rfl
  · next link hlink =>
    split
    · split
      · next level _ =>
        split
        · next c hc => exact Or.inr (Or.inl ⟨link, level, c, hlink, hc, rfl⟩)
        · next c hc =>
          exact Or.inr (Or.inr (Or.inl ⟨link, level, c, hlink, hc, by rw [← htold]; rfl⟩))
      · split
        · next hconf => exact Or.inr (Or.inr (Or.inr ⟨link, hlink, hconf, by rw [← htold]; rfl⟩))
        · exact Or.inl rfl
    · exact Or.inl rfl

/-- What the release of a subscription comes to: at most the broker is asked to give its topic
up, and a request that cannot be made is reported to the client. -/
theorem unsubscribe_cases (clientId : String) (s : Slot) (id : SubscriptionId) (topic : String)
    (a : Adapter) :
    let released := a.setBook s.book ((a.book s.book).release topic id)
    a.unsubscribe clientId s id topic = (released, []) ∨
      (∃ link e, s.link = some link ∧
        a.unsubscribe clientId s id topic =
          ((released.offer link (.unsubscribe topic)).1, [ofClient clientId .failure e])) ∨
      (∃ link, s.link = some link ∧
        a.unsubscribe clientId s id topic =
          ((released.offer link (.unsubscribe topic)).1, [])) := by
  intro released
  unfold unsubscribe
  dsimp only
  split
  · next link _ hlink =>
    split
    · next c hc => exact Or.inr (Or.inr ⟨link, hlink, by rw [show released.offer _ _ = _ from hc]⟩)
    · next c hc =>
      exact Or.inr (Or.inl ⟨link, _, hlink, by rw [show released.offer _ _ = _ from hc]⟩)
  · exact Or.inl rfl

/-! ## What stays within a book -/

/-- From one adapter to the other nothing changed but the standings, one book, and the
connections of that book; none of them began anew. -/
structure Within (n : Nat) (a b : Adapter) : Prop where
  slots : b.slots = a.slots
  size : b.books.length = a.books.length
  book : ∀ m, m ≠ n → b.book m = a.book m
  length : b.links.length = a.links.length
  link : ∀ {k : Nat} {l : Link}, a.links[k]? = some l →
    ∃ c, b.links[k]? = some { l with connection := c } ∧
    (l.connection.stage = .ended → c.stage = .ended) ∧ (l.book ≠ n → c = l.connection)

namespace Within

variable {n : Nat} {a b : Adapter}

theorem refl (n : Nat) (a : Adapter) : Within n a a :=
  ⟨rfl, rfl, fun _ _ => rfl, rfl, fun h => ⟨_, h, id, fun _ => rfl⟩⟩

theorem trans {c : Adapter} (h₁ : Within n a b) (h₂ : Within n b c) : Within n a c := by
  refine ⟨h₂.slots.trans h₁.slots, h₂.size.trans h₁.size,
    fun m hm => (h₂.book m hm).trans (h₁.book m hm), h₂.length.trans h₁.length, fun hl => ?_⟩
  obtain ⟨d, hd, hended, hother⟩ := h₁.link hl
  obtain ⟨e, he, hended', hother'⟩ := h₂.link hd
  exact ⟨e, he, fun h => hended' (hended h), fun h => (hother' h).trans (hother h)⟩

/-- Every link was there before. -/
theorem link_of (h : Within n a b) {k : Nat} {m : Link} (hm : b.links[k]? = some m) :
    ∃ l, a.links[k]? = some l ∧ m.clientId = l.clientId ∧ m.generation = l.generation ∧
      m.book = l.book ∧ (m.connection.stage ≠ .ended → l.connection.stage ≠ .ended) ∧
      (l.book ≠ n → m.connection = l.connection) := by
  obtain ⟨hk, -⟩ := List.getElem?_eq_some_iff.1 hm
  have hl := List.getElem?_eq_getElem (l := a.links) (h.length ▸ hk)
  obtain ⟨c, hc, hended, hother⟩ := h.link hl
  obtain rfl := Option.some.inj (hc.symm.trans hm)
  exact ⟨_, hl, rfl, rfl, rfl, mt hended, hother⟩

theorem setBook (a : Adapter) (n : Nat) (b : Book) : Within n a (a.setBook n b) := by
  refine ⟨rfl, List.length_set, fun m hm => ?_, rfl, fun h => ⟨_, h, id, fun _ => rfl⟩⟩
  rw [book_setBook, if_neg (fun h => hm h.1.symm)]

theorem setConnection {link : Nat} {l : Link} {c : Connection} (hl : a.links[link]? = some l)
    (hc : l.connection.stage = .ended → c.stage = .ended) :
    Within l.book a (a.setConnection link c) := by
  refine ⟨rfl, rfl, fun _ _ => rfl, List.length_modify .., fun {k m} hm => ?_⟩
  rw [links_setConnection, hm]
  by_cases hk : link = k
  · subst hk
    obtain rfl := Option.some.inj (hl.symm.trans hm)
    exact ⟨c, by simp, hc, fun h => absurd rfl h⟩
  · exact ⟨m.connection, by simp [hk], id, fun _ => rfl⟩

theorem closeLink {link : Nat} {l : Link} (hl : a.links[link]? = some l) :
    Within l.book a (a.closeLink link) := by
  refine ⟨rfl, rfl, fun _ _ => rfl, List.length_modify .., fun {k m} hm => ?_⟩
  rw [links_closeLink, hm]
  by_cases hk : link = k
  · subst hk
    obtain rfl := Option.some.inj (hl.symm.trans hm)
    exact ⟨l.connection.close, by simp, fun _ => l.connection.stage_close, fun h => absurd rfl h⟩
  · exact ⟨m.connection, by simp [hk], id, fun _ => rfl⟩

theorem offer {link : Nat} {l : Link} (o : Outgoing) (hl : a.links[link]? = some l) :
    Within l.book a (a.offer link o).1 := by
  obtain ⟨m, c, hm, hc, h⟩ | h := a.offer_cases link o
  · obtain rfl := Option.some.inj (hl.symm.trans hm)
    rw [h]
    exact setConnection hl fun he => (Connection.stage_offer hc).trans he
  · rw [h]
    exact refl l.book a

/-- Whoever changes the standings alone stays within any book. -/
theorem standings (n : Nat) (a : Adapter) (m : Assoc Standing) :
    Within n a { a with standings := m } :=
  ⟨rfl, rfl, fun _ _ => rfl, rfl, fun h => ⟨_, h, id, fun _ => rfl⟩⟩

theorem setStatus (n : Nat) (a : Adapter) (clientId : String) (generation : Nat)
    (status : Status) : Within n a (a.setStatus clientId generation status).1 := by
  unfold Adapter.setStatus
  split
  · exact standings n a _
  · exact refl n a

end Within

/-! ## The layout -/

/-- Every slot has a book of its own, and a connection that has not ended is the one that the
slot of its book keeps; there is one at most. -/
structure Laid (a : Adapter) : Prop where
  slot_book : ∀ {c : String} {s : Slot}, a.slots.get? c = some s → s.book < a.books.length
  slot_eq : ∀ {c d : String} {s t : Slot}, a.slots.get? c = some s → a.slots.get? d = some t →
    s.book = t.book → c = d
  slot_link : ∀ {c : String} {s : Slot} {k : Nat}, a.slots.get? c = some s → s.link = some k →
    ∃ l, a.links[k]? = some l ∧ l.clientId = c ∧ l.book = s.book
  link_book : ∀ {k : Nat} {l : Link}, a.links[k]? = some l → l.book < a.books.length
  link_client : ∀ {k : Nat} {l : Link} {c : String} {s : Slot}, a.links[k]? = some l →
    a.slots.get? c = some s → s.book = l.book → l.clientId = c
  link_live : ∀ {k : Nat} {l : Link} {c : String} {s : Slot}, a.links[k]? = some l →
    l.connection.stage ≠ .ended → a.slots.get? c = some s → s.book = l.book → s.link = some k
  link_eq : ∀ {j k : Nat} {l m : Link}, a.links[j]? = some l → a.links[k]? = some m →
    l.connection.stage ≠ .ended → m.connection.stage ≠ .ended → l.book = m.book → j = k

namespace Laid

theorem within {n : Nat} {a b : Adapter} (h : Laid a) (hw : Within n a b) : Laid b where
  slot_book hs := by
    rw [hw.slots] at hs
    rw [hw.size]
    exact h.slot_book hs
  slot_eq hs ht := by
    rw [hw.slots] at hs ht
    exact h.slot_eq hs ht
  slot_link hs hk := by
    rw [hw.slots] at hs
    obtain ⟨l, hl, hc, hb⟩ := h.slot_link hs hk
    obtain ⟨c, hm, -, -⟩ := hw.link hl
    exact ⟨_, hm, hc, hb⟩
  link_book hm := by
    obtain ⟨l, hl, -, -, hb, -, -⟩ := hw.link_of hm
    rw [hw.size, hb]
    exact h.link_book hl
  link_client hm hs hb := by
    obtain ⟨l, hl, hc, -, hbook, -, -⟩ := hw.link_of hm
    rw [hw.slots] at hs
    rw [hc]
    exact h.link_client hl hs (hb.trans hbook)
  link_live hm hlive hs hb := by
    obtain ⟨l, hl, -, -, hbook, hend, -⟩ := hw.link_of hm
    rw [hw.slots] at hs
    exact h.link_live hl (hend hlive) hs (hb.trans hbook)
  link_eq hm hm' hlive hlive' hb := by
    obtain ⟨l, hl, -, -, hbook, hend, -⟩ := hw.link_of hm
    obtain ⟨l', hl', -, -, hbook', hend', -⟩ := hw.link_of hm'
    exact h.link_eq hl hl' (hend hlive) (hend' hlive') (hbook.symm.trans (hb.trans hbook'))

/-! ### Slots that change -/

/-- After a client got another slot with the same book, all slots have the books that they had
before. -/
theorem get?_insert_slot {slots : Assoc Slot} {c : String} {s t : Slot}
    (hs : slots.get? c = some s) (hb : t.book = s.book) {d : String} {u : Slot}
    (hu : (slots.insert c t).get? d = some u) :
    ∃ v, slots.get? d = some v ∧ v.book = u.book ∧ (c = d ∧ u = t ∨ c ≠ d ∧ u = v) := by
  rw [Assoc.get?_insert] at hu
  split at hu
  · next hcd =>
    obtain rfl := Option.some.inj hu
    exact ⟨s, hcd ▸ hs, hb.symm, Or.inl ⟨hcd, rfl⟩⟩
  · next hcd => exact ⟨u, hu, rfl, Or.inr ⟨hcd, rfl⟩⟩

/-- A slot may keep another link of its book, if no connection of the book goes on but that
one's. -/
theorem setSlot {a : Adapter} (h : Laid a) {c : String} {s t : Slot}
    (hs : a.slots.get? c = some s) (hb : t.book = s.book)
    (hlink : ∀ k, t.link = some k → ∃ l, a.links[k]? = some l ∧ l.clientId = c ∧ l.book = s.book)
    (hlive : ∀ {k : Nat} {l : Link}, a.links[k]? = some l → l.connection.stage ≠ .ended →
      l.book = s.book → t.link = some k) :
    Laid { a with slots := a.slots.insert c t } := by
  have hget := @get?_insert_slot _ _ _ _ hs hb
  constructor
  case slot_book =>
    intro d u hu
    obtain ⟨v, hv, hvb, -⟩ := hget hu
    exact hvb ▸ h.slot_book hv
  case slot_eq =>
    intro d e u w hu hw hbook
    obtain ⟨v, hv, hvb, -⟩ := hget hu
    obtain ⟨x, hx, hxb, -⟩ := hget hw
    exact h.slot_eq hv hx (hvb.trans (hbook.trans hxb.symm))
  case slot_link =>
    intro d u k hu hk
    obtain ⟨v, hv, hvb, ⟨rfl, rfl⟩ | ⟨-, rfl⟩⟩ := hget hu
    · rw [hb]
      exact hlink k hk
    · exact h.slot_link hv hk
  case link_book => exact h.link_book
  case link_client =>
    intro k l d u hl hu hbook
    obtain ⟨v, hv, hvb, -⟩ := hget hu
    exact h.link_client hl hv (hvb.trans hbook)
  case link_live =>
    intro k l d u hl hne hu hbook
    obtain ⟨v, hv, hvb, ⟨rfl, rfl⟩ | ⟨-, rfl⟩⟩ := hget hu
    · exact hlive hl hne (hbook.symm.trans hb)
    · exact h.link_live hl hne hv hbook
  case link_eq => exact h.link_eq

/-- What a slot is when its connection was closed: it keeps its book and no link, and no
connection of the book goes on. -/
theorem stop {a : Adapter} (h : Laid a) {c : String} {s : Slot} (hs : a.slots.get? c = some s) :
    Laid (a.stop c s) ∧ (a.stop c s).slots.get? c = some { s with link := none } ∧
      ∀ {k : Nat} {l : Link}, (a.stop c s).links[k]? = some l → l.book = s.book →
        l.connection.stage = .ended := by
  unfold Adapter.stop
  split
  · next hlink =>
    refine ⟨h, by rw [hs, ← hlink], fun hl hb => ?_⟩
    by_contra hne
    have hk := h.link_live hl hne hs hb.symm
    rw [hlink] at hk
    cases hk
  · next link hlink =>
    obtain ⟨l, hl, -, hb⟩ := h.slot_link hs hlink
    have hw := Within.closeLink hl
    have hclosed {k : Nat} {m : Link} (hm : (a.closeLink link).links[k]? = some m)
        (hbook : m.book = s.book) : m.connection.stage = .ended := by
      obtain ⟨n, hn, -, -, hnb, hlive, -⟩ := hw.link_of hm
      by_contra hne
      obtain rfl := Option.some.inj
        (hlink.symm.trans (h.link_live hn (hlive hne) hs (hbook.symm.trans hnb)))
      rw [links_closeLink, hn] at hm
      obtain rfl := Option.some.inj hm
      exact hne (by simp [Connection.stage_close])
    refine ⟨(h.within hw).setSlot (s := s) (hw.slots ▸ hs) rfl nofun fun hm hne hbook => ?_, ?_,
      hclosed⟩
    · exact absurd (hclosed hm hbook) hne
    · exact Assoc.get?_insert_self ..

/-! ### The worker -/

theorem create {a : Adapter} (h : Laid a) (c host : String) (port : UInt16) (tls : Bool) :
    Laid { a with
      slots := a.slots.insert c ⟨host, port, tls, a.books.length, none⟩
      books := a.books ++ [({} : Book)] } := by
  have hget {d : String} {u : Slot}
      (hu : (a.slots.insert c ⟨host, port, tls, a.books.length, none⟩).get? d = some u) :
      c = d ∧ u.book = a.books.length ∧ u.link = none ∨
        a.slots.get? d = some u ∧ u.book < a.books.length := by
    rw [Assoc.get?_insert] at hu
    split at hu
    · next hcd =>
      obtain rfl := Option.some.inj hu
      exact Or.inl ⟨hcd, rfl, rfl⟩
    · exact Or.inr ⟨hu, h.slot_book hu⟩
  have hsize : (a.books ++ [({} : Book)]).length = a.books.length + 1 := by simp
  constructor
  case slot_book =>
    intro d u hu
    change u.book < (a.books ++ [({} : Book)]).length
    rw [hsize]
    obtain ⟨-, hb, -⟩ | ⟨-, hb⟩ := hget hu <;> omega
  case slot_eq =>
    intro d e u w hu hw hbook
    obtain ⟨rfl, hb, -⟩ | ⟨hu, hb⟩ := hget hu <;> obtain ⟨rfl, hb', -⟩ | ⟨hw, hb'⟩ := hget hw
    · rfl
    · omega
    · omega
    · exact h.slot_eq hu hw hbook
  case slot_link =>
    intro d u k hu hk
    obtain ⟨-, -, hnone⟩ | ⟨hu, -⟩ := hget hu
    · rw [hnone] at hk
      cases hk
    · exact h.slot_link hu hk
  case link_book =>
    intro k l hl
    change l.book < (a.books ++ [({} : Book)]).length
    rw [hsize]
    exact Nat.lt_succ_of_lt (h.link_book hl)
  case link_client =>
    intro k l d u hl hu hbook
    have := h.link_book hl
    obtain ⟨-, hb, -⟩ | ⟨hu, -⟩ := hget hu
    · omega
    · exact h.link_client hl hu hbook
  case link_live =>
    intro k l d u hl hne hu hbook
    have := h.link_book hl
    obtain ⟨-, hb, -⟩ | ⟨hu, -⟩ := hget hu
    · omega
    · exact h.link_live hl hne hu hbook
  case link_eq => exact h.link_eq

/-- Slots may be given up. -/
theorem restrict {a b : Adapter} (h : Laid a) (hbooks : b.books = a.books)
    (hlinks : b.links = a.links)
    (hslots : ∀ {c : String} {s : Slot}, b.slots.get? c = some s → a.slots.get? c = some s) :
    Laid b where
  slot_book hs := hbooks ▸ h.slot_book (hslots hs)
  slot_eq hs ht := h.slot_eq (hslots hs) (hslots ht)
  slot_link hs hk := hlinks ▸ h.slot_link (hslots hs) hk
  link_book hl := hbooks ▸ h.link_book (hlinks ▸ hl)
  link_client hl hs := h.link_client (hlinks ▸ hl) (hslots hs)
  link_live hl hne hs := h.link_live (hlinks ▸ hl) hne (hslots hs)
  link_eq hl hm := h.link_eq (hlinks ▸ hl) (hlinks ▸ hm)

/-- Of the links after one was added, the last is the new one. -/
theorem new_or_old {links : List Link} {l m : Link} {k : Nat}
    (hm : (links ++ [l])[k]? = some m) :
    k = links.length ∧ m = l ∨ links[k]? = some m := by
  rw [List.getElem?_append] at hm
  split at hm
  · exact Or.inr hm
  · next hk =>
    obtain ⟨hlt, hm⟩ := List.getElem?_eq_some_iff.1 hm
    have hlt' : k - links.length < 1 := hlt
    exact Or.inl ⟨by omega, by simpa using hm.symm⟩

/-- A new connection may be opened for a book when no other one of the book goes on. -/
theorem openLink {a : Adapter} (h : Laid a) {c : String} {s t : Slot} {l : Link}
    (hs : a.slots.get? c = some s) (hc : l.clientId = c) (hlb : l.book = s.book)
    (hended : ∀ {k : Nat} {m : Link}, a.links[k]? = some m → m.book = s.book →
      m.connection.stage = .ended)
    (hb : t.book = s.book) (ht : t.link = some a.links.length) :
    Laid { a with links := a.links ++ [l], slots := a.slots.insert c t } := by
  have hget := @get?_insert_slot _ _ _ _ hs hb
  have hlinks {k : Nat} {m : Link} (hm : (a.links ++ [l])[k]? = some m) := new_or_old hm
  have hold {k : Nat} {m : Link} (hm : a.links[k]? = some m) : (a.links ++ [l])[k]? = some m := by
    rw [List.getElem?_append_left (List.getElem?_eq_some_iff.1 hm).1]
    exact hm
  constructor
  case slot_book =>
    intro d u hu
    obtain ⟨v, hv, hvb, -⟩ := hget hu
    exact hvb ▸ h.slot_book hv
  case slot_eq =>
    intro d e u w hu hw hbook
    obtain ⟨v, hv, hvb, -⟩ := hget hu
    obtain ⟨x, hx, hxb, -⟩ := hget hw
    exact h.slot_eq hv hx (hvb.trans (hbook.trans hxb.symm))
  case slot_link =>
    intro d u k hu hk
    obtain ⟨v, hv, hvb, ⟨rfl, rfl⟩ | ⟨-, rfl⟩⟩ := hget hu
    · obtain rfl := Option.some.inj (ht.symm.trans hk)
      exact ⟨l, by simp, hc, hlb.trans hb.symm⟩
    · obtain ⟨m, hm, hmc, hmb⟩ := h.slot_link hv hk
      exact ⟨m, hold hm, hmc, hmb⟩
  case link_book =>
    intro k m hm
    obtain ⟨-, rfl⟩ | hm := hlinks hm
    · exact hlb ▸ h.slot_book hs
    · exact h.link_book hm
  case link_client =>
    intro k m d u hm hu hbook
    obtain ⟨v, hv, hvb, -⟩ := hget hu
    obtain ⟨-, rfl⟩ | hm := hlinks hm
    · rw [hc]
      exact h.slot_eq hs hv (hlb.symm.trans (hbook.symm.trans hvb.symm))
    · exact h.link_client hm hv (hvb.trans hbook)
  case link_live =>
    intro k m d u hm hne hu hbook
    obtain ⟨v, hv, hvb, ⟨rfl, rfl⟩ | ⟨hcd, rfl⟩⟩ := hget hu
    · obtain ⟨rfl, -⟩ | hm := hlinks hm
      · exact ht
      · exact absurd (hended hm (hbook.symm.trans hb)) hne
    · obtain ⟨-, rfl⟩ | hm := hlinks hm
      · exact absurd (h.slot_eq hs hv (hlb.symm.trans hbook.symm)) hcd
      · exact h.link_live hm hne hv hbook
  case link_eq =>
    intro j k m n hm hn hne hne' hbook
    obtain ⟨rfl, rfl⟩ | hm' := hlinks hm <;> obtain ⟨rfl, rfl⟩ | hn' := hlinks hn
    · rfl
    · exact absurd (hended hn' (hbook.symm.trans hlb)) hne'
    · exact absurd (hended hm' (hbook.trans hlb)) hne
    · exact h.link_eq hm' hn' hne hne' hbook

theorem connect {a : Adapter} (h : Laid a) {c : String} {s : Slot} (p : ConnectParameters)
    (hs : a.slots.get? c = some s) : Laid (a.connect c s p) := by
  obtain ⟨hstop, hslot, hended⟩ := h.stop hs
  unfold Adapter.connect
  dsimp only
  generalize a.stop c s = b at *
  split
  · exact hstop
  · next standing _ =>
    have hw : Within s.book b
        ({ b with
            standings := b.standings.insert c ⟨.connecting, standing.generation + 1⟩ }.setBook
          s.book (b.book s.book).forgetAnswers) :=
      (Within.standings ..).trans (Within.setBook ..)
    split
    · exact (hstop.within hw).restrict rfl rfl nofun
    · exact (hstop.within hw).openLink hslot rfl rfl hended rfl rfl

end Laid

theorem laid_start : Laid {} := by
  constructor <;> intros <;> simp_all

end Adapter

end MqttRelay.Native
