import MqttRelay.Proofs.Native.Grants

/-!
# What becomes of the topics when a connection is acknowledged

The broker is asked for every recorded topic anew, topic by topic, while nothing is written
yet. The queue of a connection is bounded, and the table is not: the topics for which there is
no room are passed over.

Results:
* `wellFormed_after`: in the table of every book, after every run, the topics ascend and each
  has a subscription.
* `resubscription`: of the recorded topics the broker is asked for as many as the queue has
  room for, the first ones in order, each once and at its highest level; nobody is told about
  the others.
* `eleventh_topic_is_passed_over`: of eleven topics the last one is passed over.
-/

namespace MqttRelay.Native

namespace Adapter

/-! ## Tables -/

/-- In every book's table the topics ascend and each has a subscription. -/
def WellFormed (a : Adapter) : Prop := ∀ n, (a.book n).table.WellFormed

namespace WellFormed

variable {a b : Adapter}

theorem of_same (h : WellFormed a) (hs : SameTables a b) : WellFormed b := by
  intro n
  rw [hs.tables]
  exact h n

theorem setBook (h : WellFormed a) {n : Nat} {b : Book} (hb : b.table.WellFormed) :
    WellFormed (a.setBook n b) := by
  intro m
  rw [book_setBook]
  split
  · exact hb
  · exact h m

/-- A new book is empty. -/
theorem create (h : WellFormed a) (slots : Assoc Slot) :
    WellFormed { a with slots := slots, books := a.books ++ [({} : Book)] } := by
  intro n
  have hn := h n
  unfold book at hn ⊢
  rw [List.getElem?_append]
  split
  · exact hn
  · cases n - a.books.length with
    | zero => exact .nil
    | succ k => exact .nil

theorem subscribe (h : WellFormed a) (c : String) (s : Slot) (id : SubscriptionId)
    (topic : String) (qos : Qos) : WellFormed (a.subscribe c s id topic qos).1 := by
  have hadd : ((a.book s.book).enter topic id qos).table.WellFormed :=
    (h s.book).add topic id qos
  have htold : ((a.book s.book).enterTold topic id qos).table.WellFormed :=
    hadd.markTold topic id
  obtain hr | ⟨link, level, b, -, hb, hr⟩ | ⟨link, level, b, -, -, hr⟩ | ⟨link, -, -, hr⟩ :=
    subscribe_cases c s id topic qos a
  · rw [hr]
    exact h.setBook hadd
  · rw [hr]
    exact ((h.setBook hadd).of_same (.offer hb)).setBook hadd
  · rw [hr]
    exact h.setBook htold
  · rw [hr]
    exact h.setBook htold

theorem unsubscribe (h : WellFormed a) (c : String) (s : Slot) (id : SubscriptionId)
    (topic : String) : WellFormed (a.unsubscribe c s id topic).1 := by
  have hrelease : WellFormed (a.setBook s.book ((a.book s.book).release topic id)) :=
    h.setBook ((h s.book).remove topic id)
  obtain hr | ⟨link, e, -, hr⟩ | ⟨link, -, hr⟩ := unsubscribe_cases c s id topic a
  · rw [hr]
    exact hrelease
  · rw [hr]
    exact hrelease.of_same (.offer_fst ..)
  · rw [hr]
    exact hrelease.of_same (.offer_fst ..)

theorem connect (h : WellFormed a) {c : String} {s : Slot} (p : ConnectParameters)
    (hs : a.slots.get? c = some s) : WellFormed (a.connect c s p) := by
  have hstop := h.of_same (.stop hs)
  unfold Adapter.connect
  dsimp only
  generalize a.stop c s = b at *
  split
  · exact hstop
  · next standing _ =>
    have hset : WellFormed ({ b with
        standings := b.standings.insert c ⟨.connecting, standing.generation + 1⟩ }.setBook s.book
          (b.book s.book).forgetAnswers) :=
      setBook (a := { b with standings := _ }) hstop (hstop s.book)
    split
    · exact hset
    · exact hset

theorem carryOut (h : WellFormed a) (r : Request) : WellFormed (a.carryOut r).1 := by
  have hstop (c : String) : WellFormed (a.stopped c) :=
    stopped_of h fun _ hs => h.of_same (.stop hs)
  cases r with
  | create c host port tls => exact (hstop c).create _
  | remove c => exact hstop c
  | connect c p =>
    simp only [Adapter.carryOut]
    split
    · next s hs => exact h.connect p hs
    · exact h
  | disconnect c =>
    simp only [Adapter.carryOut]
    split
    · next s hs => exact h.of_same (disconnect_quiet hs).same
    · exact h
  | subscribe id c topic qos =>
    simp only [Adapter.carryOut]
    split
    · exact h.subscribe c _ id topic qos
    · exact h
  | unsubscribe id c topic =>
    simp only [Adapter.carryOut]
    split
    · exact h.unsubscribe c _ id topic
    · exact h

theorem handle (h : WellFormed a) (link : Nat) (x : Happening) :
    WellFormed (a.handle link x).1 := by
  by_cases hx : ∃ id grants, x = .answered id grants
  · obtain ⟨id, grants, rfl⟩ := hx
    unfold Adapter.handle
    split
    · exact h
    · next l _ =>
      split
      · obtain hs | ⟨topic, -, hs, -⟩ := settle_cases l.book id grants a
        · simpa only [hs] using h
        · simpa only [hs] using h.setBook ((h l.book).takeUntold topic)
      · exact h
  · exact h.of_same (Quiet.handle link (fun id grants he => hx ⟨id, grants, he⟩) a).same

theorem handleAll (h : WellFormed a) (link : Nat) (hs : List Happening) :
    WellFormed (a.handleAll link hs).1 :=
  handleAll_of h (fun x _ h => h.handle link x) fun h => h

theorem next (h : WellFormed a) (t : Turn) : WellFormed (a.next t) := by
  cases t with
  | request r =>
    intro n
    change ((a.answer r).1.book n).table.WellFormed
    rw [book, (answer_parts r a).2.1]
    exact h n
  | work =>
    change WellFormed a.work.1
    unfold work
    split
    · exact h
    · next r rest _ =>
      split
      · exact carryOut (a := { a with commands := rest }) h r
      · exact h
  | connection link s =>
    change WellFormed (a.onLink link (·.respond s)).1
    unfold onLink
    split
    · exact h
    · exact handleAll (a := a.setConnection ..) h link _

end WellFormed

theorem wellFormed_after (turns : List Turn) : WellFormed (after {} turns) :=
  holds_after (fun _ => .nil) (fun _ t h => h.next t) turns

/-! ## Asking anew -/

/-- A request is accepted on a connection that goes on exactly when there is room for it. -/
theorem offer_of_live {a : Adapter} {link : Nat} {l : Link} (o : Outgoing)
    (hl : a.links[link]? = some l) (hlive : l.connection.stage ≠ .ended) :
    a.offer link o =
      if l.connection.queue.length < Connection.capacity then
        (a.setConnection link { l.connection with queue := l.connection.queue ++ [o] }, true)
      else (a, false) := by
  unfold offer Connection.offer
  rw [hl]
  dsimp only
  by_cases hroom : l.connection.queue.length < Connection.capacity
  · rw [if_neg (by simp [hlive, hroom]), if_pos hroom]
  · rw [if_pos (Or.inr (Nat.le_of_not_lt hroom)), if_neg hroom]

/-- The adapter after the broker was asked for a topic: the request waits on the connection of a
link, and the topic is noted in a book. -/
def ask (n link : Nat) (c : Connection) (f : String × Qos) (a : Adapter) : Adapter :=
  let b := a.setConnection link { c with queue := c.queue ++ [.subscribe f.1 f.2] }
  b.setBook n ((b.book n).enqueue f.1)

/-- One request waits more on the connection that was asked on, and one topic is noted more. -/
theorem ask_parts {n link : Nat} {a : Adapter} {l : Link} (f : String × Qos)
    (hl : a.links[link]? = some l) (hsize : n < a.books.length) :
    let b := a.ask n link l.connection f
    b.links[link]? = some { l with connection := { l.connection with
        queue := l.connection.queue ++ [.subscribe f.1 f.2] } } ∧
      b.book n = (a.book n).enqueue f.1 ∧ n < b.books.length := by
  refine ⟨get?_links_setConnection _ hl, ?_, ?_⟩
  · rw [ask, book_setBook, if_pos ⟨rfl, hsize⟩]
    rfl
  · rw [ask, (Within.setBook ..).size]
    exact hsize

/-- One topic after the other is asked for and noted, as long as there is room. -/
theorem foldl_ask (filters : List (String × Qos)) {n link : Nat} {a : Adapter} {l : Link}
    (hl : a.links[link]? = some l) (hlive : l.connection.stage ≠ .ended)
    (hsize : n < a.books.length) :
    let b := filters.foldl (fun a f =>
      match a.offer link (.subscribe f.1 f.2) with
      | (a, true) => a.setBook n ((a.book n).enqueue f.1)
      | (a, false) => a) a
    let asked := filters.take (Connection.capacity - l.connection.queue.length)
    b.links[link]? = some { l with connection := { l.connection with
        queue := l.connection.queue ++ asked.map fun f => .subscribe f.1 f.2 } } ∧
      b.book n = { a.book n with queued := (a.book n).queued ++ asked.map (·.1) } := by
  dsimp only
  induction filters generalizing a l with
  | nil => simpa using hl
  | cons f filters ih =>
    rw [List.foldl_cons, offer_of_live _ hl hlive]
    by_cases hroom : l.connection.queue.length < Connection.capacity
    · obtain ⟨k, hk⟩ : ∃ k, Connection.capacity - l.connection.queue.length = k + 1 :=
        ⟨Connection.capacity - l.connection.queue.length - 1, by omega⟩
      have hk' : Connection.capacity - (l.connection.queue ++ [Outgoing.subscribe f.1 f.2]).length =
          k := by
        rw [List.length_append, List.length_singleton]
        omega
      obtain ⟨hlink, hbook, hsize'⟩ := ask_parts f hl hsize
      have hrest := ih hlink hlive hsize'
      rw [hbook, hk'] at hrest
      rw [if_pos hroom, hk, List.take_succ_cons, List.map_cons, List.map_cons,
        List.append_cons l.connection.queue _ (List.map _ _),
        List.append_cons (a.book n).queued _ (List.map _ _)]
      exact hrest
    · have hk : Connection.capacity - l.connection.queue.length = 0 := by omega
      rw [if_neg hroom]
      simpa [hk] using ih hl hlive hsize

/-- Of the topics that are asked for anew, as many are accepted as there is room for. -/
theorem resubscribe_parts {a : Adapter} {link : Nat} {l : Link} (hl : a.links[link]? = some l)
    (hlive : l.connection.stage ≠ .ended) (hsize : l.book < a.books.length) :
    let b := a.resubscribe link l.book
    let asked := (a.book l.book).table.filters.take
      (Connection.capacity - l.connection.queue.length)
    b.links[link]? = some { l with connection := { l.connection with
        queue := l.connection.queue ++ asked.map fun f => .subscribe f.1 f.2 } } ∧
      b.book l.book = { a.book l.book with
        queued := (a.book l.book).queued ++ asked.map (·.1) } :=
  foldl_ask _ hl hlive hsize

end Adapter

/-! ## Acknowledgements -/

/-- An acknowledgement makes a connection live, if it was not. -/
theorem Connection.receive_connack {c : Connection} (h : c.stage = .greeting ∨ c.stage = .live) :
    c.receive (.connack 0) = ({ c with stage := .live }, [.acknowledged .normal]) := by
  rcases h with h | h
  · simp [receive, h]
  · cases c
    simp_all [receive]

namespace Stretch

/-- On the connection of a link the broker is asked for a topic, once and at one level: of what
comes to wait there one request is a subscription of the topic, and the topic is noted once. -/
def Asks (link : Nat) (topic : String) (qos : Qos) (s : Stretch) : Prop :=
  ∃ (l m : Link) (added : List Outgoing) (noted : List String),
    s.before.links[link]? = some l ∧ s.after.links[link]? = some m ∧
      m.connection.queue = l.connection.queue ++ added ∧
      added.filter (·.subscribed? == some topic) = [.subscribe topic qos] ∧
      (s.after.book l.book).queued = (s.before.book l.book).queued ++ noted ∧
      noted.filter (· == topic) = [topic]

/-- A subscription of a topic is told that it failed. -/
def TellsFailure (topic : String) (s : Stretch) : Prop :=
  ∃ message id, Adapter.refused topic message id ∈ s.events

end Stretch

/-- Of a list of topics that are all different, one is asked for once or not at all. -/
theorem filter_topic {asked : List (String × Qos)} (h : (asked.map (·.1)).Nodup) {topic : String}
    {qos : Qos} (hm : (topic, qos) ∈ asked) :
    (asked.map fun f => Outgoing.subscribe f.1 f.2).filter (·.subscribed? == some topic) =
        [.subscribe topic qos] ∧
      (asked.map (·.1)).filter (· == topic) = [topic] := by
  have hfilter : asked.filter (·.1 == topic) = [(topic, qos)] := by
    induction asked with
    | nil => cases hm
    | cons f fs ih =>
      rw [List.map_cons, List.nodup_cons] at h
      rcases List.mem_cons.1 hm with rfl | hm
      · have hnone : fs.filter (·.1 == topic) = [] := by
          refine List.filter_eq_nil_iff.2 fun g hg he => h.1 ?_
          exact List.mem_map.2 ⟨g, hg, by simpa using he⟩
        rw [List.filter_cons_of_pos (by simp), hnone]
      · have hne : f.1 ≠ topic := fun he => h.1 (he ▸ List.mem_map.2 ⟨_, hm, rfl⟩)
        rw [List.filter_cons_of_neg (by simpa using hne)]
        exact ih h.2 hm
  rw [List.filter_map, List.filter_map]
  constructor
  · exact congrArg (List.map fun f => Outgoing.subscribe f.1 f.2) hfilter
  · exact congrArg (List.map (·.1)) hfilter

namespace Adapter

/-- What an acknowledgement comes to on a connection that is not superseded. -/
theorem act_connack {a : Adapter} (h : Sound a) {link : Nat} {l : Link}
    (hl : a.links[link]? = some l) (hcurrent : a.isCurrent l.clientId l.generation = true)
    (hstage : l.connection.stage = .greeting ∨ l.connection.stage = .live) :
    let s : Stretch := ⟨a, .connection link (.packet (.connack 0))⟩
    let asked := (a.book l.book).table.filters.take
      (Connection.capacity - l.connection.queue.length)
    s.events = [ofClient l.clientId .connected (Event.Connected.mk .normal).payload] ∧
      s.after.links[link]? = some { l with connection := { l.connection with
        stage := .live
        queue := l.connection.queue ++ asked.map fun f => .subscribe f.1 f.2 } } ∧
      s.after.book l.book = { a.book l.book with
        queued := (a.book l.book).queued ++ asked.map (·.1) } := by
  intro s asked
  have hr : l.connection.respond (.packet (.connack 0)) =
      ({ l.connection with stage := .live }, [.acknowledged .normal]) :=
    Connection.receive_connack hstage
  generalize hc : ({ l.connection with stage := .live } : Connection) = c at hr
  -- the adapter when the topics are asked for, and the link in it
  generalize hd : ((a.setConnection link c).setStatus l.clientId l.generation .connected).1 = d
  have hparts : d.links = (a.setConnection link c).links ∧ d.books = a.books := by
    rw [← hd]
    unfold setStatus
    split <;> exact ⟨rfl, rfl⟩
  have hset := get?_links_setConnection c hl
  have hact : s.turn.act s.before =
      (d.resubscribe link l.book,
        [ofClient l.clientId .connected (Event.Connected.mk .normal).payload] ++ []) := by
    change a.onLink link (·.respond (.packet (.connack 0))) = _
    have hcurrent' : (a.setConnection link c).isCurrent l.clientId l.generation = true := hcurrent
    simp only [onLink, hl, hr, handleAll, handle, hset, hcurrent', if_true, hd]
  have hbook : d.book l.book = a.book l.book := by
    rw [book, book, hparts.2]
  obtain ⟨hlinks, hnoted⟩ := resubscribe_parts (a := d) (l := { l with connection := c })
    (hparts.1 ▸ hset) (by rw [← hc]; simp)
    (show l.book < d.books.length from hparts.2 ▸ h.link_book hl)
  rw [hbook] at hlinks hnoted
  rw [Stretch.events, Stretch.after, hact]
  subst hc
  exact ⟨rfl, hlinks, hnoted⟩

section Acknowledged

variable {turns : List Turn} {link : Nat} {l : Link} (hl : (after {} turns).links[link]? = some l)
  (hcurrent : (after {} turns).isCurrent l.clientId l.generation = true)
  (hstage : l.connection.stage = .greeting ∨ l.connection.stage = .live)

include hl hcurrent hstage

/-- The broker is asked for the topics for which there is room, the first ones. -/
theorem asks_iff {i : Nat} {p : String × Assoc Topic.Subscriber}
    (hp : ((after {} turns).book l.book).table[i]? = some p) :
    let s : Stretch := ⟨after {} turns, .connection link (.packet (.connack 0))⟩
    (∃ qos, Topic.Table.Highest p.2 qos ∧ s.Asks link p.1 qos) ↔
      i < Connection.capacity - l.connection.queue.length := by
  intro s
  set t := ((after {} turns).book l.book).table
  set room := Connection.capacity - l.connection.queue.length
  obtain ⟨-, hlink, hbook⟩ := act_connack (sound_after turns) hl hcurrent hstage
  obtain ⟨hkeys, hnodup, hlevels⟩ :=
    Topic.Table.filters_of_wellFormed (wellFormed_after turns l.book)
  constructor
  · -- What was noted for the topic tells its place, since no topic stands twice.
    rintro ⟨qos, -, l', m, added, noted, hl', -, -, -, hnoted, hone⟩
    obtain rfl := Option.some.inj (hl.symm.trans hl')
    rw [hbook] at hnoted
    obtain rfl := List.append_cancel_left hnoted
    have hmem : p.1 ∈ (t.filters.map (·.1)).take room := by
      rw [← List.map_take]
      exact (List.mem_filter.1 (hone ▸ List.mem_singleton_self p.1)).1
    obtain ⟨j, hj, hkey⟩ := List.mem_take_iff_getElem.1 hmem
    have hi : (t.filters.map (·.1))[i]? = some p.1 := by
      rw [hkeys, List.getElem?_map, hp]
      rfl
    obtain ⟨hroom, hlength⟩ := Nat.lt_min.1 hj
    have hij : j = i := (List.getElem?_inj hlength hnodup).1 <| by
      rw [List.getElem?_eq_getElem hlength, hkey]
      exact hi.symm
    exact hij ▸ hroom
  · intro hi
    obtain ⟨qos, hfilter, hhigh⟩ := hlevels i p hp
    have hmem : (p.1, qos) ∈ t.filters.take room := by
      refine List.mem_of_getElem? (i := i) ?_
      rw [List.getElem?_take_of_lt hi]
      exact hfilter
    have hnodup' : ((t.filters.take room).map (·.1)).Nodup :=
      hnodup.sublist ((List.take_sublist room _).map _)
    obtain ⟨hask, hnote⟩ := filter_topic hnodup' hmem
    exact ⟨qos, hhigh, l, _, _, _, hl, hlink, rfl, hask, by rw [hbook], hnote⟩

/-- Nobody is told that a topic was passed over. -/
theorem not_tellsFailure (topic : String) :
    let s : Stretch := ⟨after {} turns, .connection link (.packet (.connack 0))⟩
    ¬ s.TellsFailure topic := by
  rintro s ⟨message, id, hm⟩
  obtain ⟨hevents, -, -⟩ := act_connack (sound_after turns) hl hcurrent hstage
  rw [hevents] at hm
  have hkey := congrArg Emission.key (List.mem_singleton.1 hm)
  cases hkey

end Acknowledged

/-- When a connection is acknowledged, the broker is asked for the recorded topics, each once
and at the highest level of its subscriptions, as far as the queue has room for them; for the
topics that come after it is not asked, and nobody is told. So every topic is accounted for
exactly when there is room for all of them. -/
theorem resubscription (turns : List Turn) {link : Nat} {l : Link}
    (hl : (after {} turns).links[link]? = some l)
    (hcurrent : (after {} turns).isCurrent l.clientId l.generation = true)
    (hstage : l.connection.stage = .greeting ∨ l.connection.stage = .live) :
    let s : Stretch := ⟨after {} turns, .connection link (.packet (.connack 0))⟩
    let t := (s.before.book l.book).table
    let room := Connection.capacity - l.connection.queue.length
    (s.after.book l.book).table = t ∧
      s.events = [ofClient l.clientId .connected (Event.Connected.mk .normal).payload] ∧
      (∀ (i : Nat) (p : String × Assoc Topic.Subscriber), t[i]? = some p →
        ((∃ qos, Topic.Table.Highest p.2 qos ∧ s.Asks link p.1 qos) ↔ i < room)) ∧
      ((∀ p ∈ t, (∃ qos, Topic.Table.Highest p.2 qos ∧ s.Asks link p.1 qos) ∨
        s.TellsFailure p.1) ↔ t.length ≤ room) := by
  intro s t room
  obtain ⟨hevents, -, hbook⟩ := act_connack (sound_after turns) hl hcurrent hstage
  have hasks (i : Nat) (p : String × Assoc Topic.Subscriber) (hp : t[i]? = some p) :
      (∃ qos, Topic.Table.Highest p.2 qos ∧ s.Asks link p.1 qos) ↔ i < room :=
    asks_iff hl hcurrent hstage hp
  refine ⟨by rw [hbook], hevents, hasks, fun hall => ?_, fun hroom p hp => ?_⟩
  · by_contra hroom
    have hp := List.getElem?_eq_getElem (Nat.lt_of_not_le hroom)
    rcases hall _ (List.mem_of_getElem? hp) with hask | htold
    · exact absurd ((hasks room _ hp).1 hask) (Nat.lt_irrefl room)
    · exact not_tellsFailure hl hcurrent hstage _ htold
  · obtain ⟨i, hi⟩ := List.mem_iff_getElem?.1 hp
    have hlt := (List.getElem?_eq_some_iff.1 hi).1
    exact Or.inl ((hasks i p hi).2 (by omega))

/-- A client whose connection waits for the answer to its greeting, and eleven topics. -/
def elevenTopics : List Turn :=
  .request (.create "c" "h" 1883 false) :: .work ::
    (["a", "b", "c", "d", "e", "f", "g", "h", "i", "j", "k"].flatMap fun topic =>
      [.request (.subscribe ⟨topic⟩ "c" topic .atLeastOnce), .work]) ++
    [.request (.connect "c" ⟨60, true, "", ""⟩), .work, .connection 0 (.opening true)]

/-- Of eleven topics there is room for ten. -/
theorem resubscription_of_eleven :
    let l : Link := ⟨"c", 1, 0, "h", 1883, {
      parameters := ⟨60, true, "", ""⟩
      stage := .greeting
      sent := [.connect ⟨60, true, "", ""⟩] }⟩
    let s : Stretch := ⟨after {} elevenTopics, .connection 0 (.packet (.connack 0))⟩
    (after {} elevenTopics).links[0]? = some l ∧
      (after {} elevenTopics).isCurrent l.clientId l.generation = true ∧
      ¬ ∀ p ∈ (s.before.book l.book).table,
        (∃ qos, Topic.Table.Highest p.2 qos ∧ s.Asks 0 p.1 qos) ∨ s.TellsFailure p.1 := by
  intro l s
  have hl : (after {} elevenTopics).links[0]? = some l := by decide +kernel
  have hcurrent : (after {} elevenTopics).isCurrent l.clientId l.generation = true := by
    decide +kernel
  have hlength : (s.before.book l.book).table.length = 11 := by decide +kernel
  have hstage : l.connection.stage = .greeting := rfl
  obtain ⟨-, -, -, hall⟩ := resubscription (l := l) elevenTopics hl hcurrent (Or.inl hstage)
  refine ⟨hl, hcurrent, fun h => ?_⟩
  have hroom := hlength.symm.le.trans (hall.1 h)
  exact absurd hroom (by decide)

/-- The last of eleven topics is recorded when the connection is acknowledged, and then neither
asked for nor reported. -/
theorem eleventh_topic_is_passed_over :
    let s : Stretch := ⟨after {} elevenTopics, .connection 0 (.packet (.connack 0))⟩
    (s.before.tableOf "c").contains "k" = true ∧
      s.events.map (·.key) = [.client "c" .connected] ∧
      (s.after.book 0).queued = ["a", "b", "c", "d", "e", "f", "g", "h", "i", "j"] ∧
      ∀ l ∈ s.after.links, l.connection.stage = .live ∧ l.connection.queue.length = 10 ∧
        ∀ o ∈ l.connection.queue, o.subscribed? ≠ some "k" := by
  decide +kernel

end Adapter

end MqttRelay.Native
