import MqttRelay.Proofs.Native.Known
import MqttRelay.Proofs.Native.Pairing

/-!
# Slots and the connections that go on

A connection runs by itself once it is opened, beside the worker whose slot keeps it. While the
worker runs nothing gets lost: whatever connection goes on is the one that the slot of its client
keeps, and what a slot keeps is the client's latest connection.

* `Steady` — what is done on a link between two closings: books, queues and statuses change, and
  neither the slots nor the stage of any connection.

Results:
* `Steady.handle`, `Steady.subscribe`, `Steady.unsubscribe`: most of what is done is of this sort.
* `Attached.next`: as long as the worker runs, every turn keeps the connections with their slots.
-/

namespace MqttRelay.Native

/-! ## Connections -/

namespace Connection

theorem stage_receive {p : Packet} {c : Connection} (h : c.stage ≠ .ended) :
    (c.receive p).1.stage ≠ .ended := by
  unfold receive
  repeat' split
  all_goals simp_all [send]

/-- Nothing ends a connection by itself: it is closed once what happened on it is handled. -/
theorem stage_respond {s : Stimulus} {c : Connection} (h : c.stage ≠ .ended) :
    (c.respond s).1.stage ≠ .ended := by
  cases s with
  | opening reachable =>
    unfold respond connect
    dsimp only
    split
    · split
      · exact nofun
      · exact h
    · exact h
  | writing count =>
    unfold respond
    dsimp only
    split
    · rw [stage_writeEach]
      exact h
    · exact h
  | packet p => exact stage_receive h
  | loss =>
    unfold respond
    dsimp only
    split <;> exact h

end Connection

/-- What is to be seen of a link without its queue: whose it is, its generation, its book and the
stage of its connection. -/
def Link.face (l : Link) : String × Nat × Nat × Stage :=
  (l.clientId, l.generation, l.book, l.connection.stage)

/-- The worker carries the request out. -/
def Stretch.Processes (r : Request) (s : Stretch) : Prop :=
  s.turn = .work ∧ s.before.working = true ∧ s.before.commands.head? = some r

/-- Of all requests the worker carries out the first one that waits. -/
theorem Stretch.Processes.unique {q r : Request} {s : Stretch} (hq : s.Processes q)
    (hr : s.Processes r) : q = r := Option.some.inj (hq.2.2.symm.trans hr.2.2)

namespace Adapter

/-- What a turn of the worker does: nothing, or it carries out the first request that waits. -/
theorem work_cases (a : Adapter) :
    a.work = (a, []) ∧ (∀ r, ¬ (Stretch.mk a .work).Processes r) ∨
      ∃ r rest, a.commands = r :: rest ∧ (Stretch.mk a .work).Processes r ∧
        a.work = { a with commands := rest }.carryOut r := by
  unfold work
  cases hc : a.commands with
  | nil => exact Or.inl ⟨rfl, fun r hr => by simp [Stretch.Processes, hc] at hr⟩
  | cons r rest =>
    cases hw : a.working with
    | true => exact Or.inr ⟨r, rest, rfl, ⟨rfl, hw, by simp [hc]⟩, rfl⟩
    | false => exact Or.inl ⟨rfl, fun r hr => by simp [Stretch.Processes, hw] at hr⟩

/-! ## What closes nothing -/

/-- The slots, the generations and the faces of all links stay as they are. -/
structure Steady (a b : Adapter) : Prop where
  slots : b.slots = a.slots
  generation : ∀ c, b.generation? c = a.generation? c
  faces : b.links.map Link.face = a.links.map Link.face

namespace Steady

variable {a b : Adapter}

theorem refl (a : Adapter) : Steady a a := ⟨rfl, fun _ => rfl, rfl⟩

theorem trans {c : Adapter} (h₁ : Steady a b) (h₂ : Steady b c) : Steady a c :=
  ⟨h₂.slots.trans h₁.slots, fun d => (h₂.generation d).trans (h₁.generation d),
    h₂.faces.trans h₁.faces⟩

/-- Every link has the face that it had. -/
theorem link_of (h : Steady a b) {k : Nat} {m : Link} (hm : b.links[k]? = some m) :
    ∃ l, a.links[k]? = some l ∧ l.face = m.face := by
  have hk : (a.links.map Link.face)[k]? = some m.face := by
    rw [← h.faces, List.getElem?_map, hm]
    rfl
  rw [List.getElem?_map] at hk
  exact Option.map_eq_some_iff.1 hk

theorem of_link (h : Steady a b) {k : Nat} {l : Link} (hl : a.links[k]? = some l) :
    ∃ m, b.links[k]? = some m ∧ m.face = l.face := by
  have hk : (b.links.map Link.face)[k]? = some l.face := by
    rw [h.faces, List.getElem?_map, hl]
    rfl
  rw [List.getElem?_map] at hk
  exact Option.map_eq_some_iff.1 hk

theorem isCurrent (h : Steady a b) (c : String) (generation : Nat) :
    b.isCurrent c generation = a.isCurrent c generation := by
  rw [Bool.eq_iff_iff, isCurrent_iff, isCurrent_iff, h.generation]

theorem setBook (a : Adapter) (n : Nat) (d : Book) : Steady a (a.setBook n d) :=
  ⟨rfl, fun _ => rfl, rfl⟩

theorem setStatus (a : Adapter) (c : String) (generation : Nat) (status : Status) :
    Steady a (a.setStatus c generation status).1 := by
  refine ⟨?_, fun d => generation?_setStatus a c d generation status, ?_⟩ <;>
    unfold Adapter.setStatus <;> split <;> rfl

theorem reportEnd (a : Adapter) (c : String) (generation : Nat) (e : Event.Disconnected) :
    Steady a (a.reportEnd c generation e).1 := setStatus a c generation .disconnected

theorem setConnection {link : Nat} {l : Link} {c : Connection} (hl : a.links[link]? = some l)
    (hc : c.stage = l.connection.stage) : Steady a (a.setConnection link c) := by
  refine ⟨rfl, fun _ => rfl, List.ext_getElem? fun k => ?_⟩
  rw [List.getElem?_map, List.getElem?_map, links_setConnection, Option.map_map]
  refine Option.map_congr fun m hm => ?_
  by_cases hk : link = k
  · subst hk
    obtain rfl := Option.some.inj (hl.symm.trans hm)
    simp [Link.face, hc]
  · simp [hk]

theorem offer {link : Nat} {o : Outgoing} {accepted : Bool}
    (h : a.offer link o = (b, accepted)) : Steady a b := by
  obtain ⟨l, c, hl, hc, hoffer⟩ | hoffer := a.offer_cases link o
  all_goals obtain ⟨rfl, -⟩ := Prod.mk.inj (hoffer.symm.trans h)
  · exact setConnection hl (Connection.stage_offer hc)
  · exact refl a

theorem resubscribe (link book : Nat) (a : Adapter) : Steady a (a.resubscribe link book) :=
  resubscribe_of (refl a) fun hc h => (h.trans (offer hc)).trans (setBook ..)

theorem settle (n id : Nat) (grants : List Grant) (a : Adapter) :
    Steady a (a.settle n id grants).1 := by
  obtain ⟨table, hsettle⟩ := Paired.settle_eq_setBook n id grants a
  rw [hsettle]
  exact setBook ..

/-- Whatever happens on a link closes nothing at once. -/
theorem handle (link : Nat) (x : Happening) (a : Adapter) : Steady a (a.handle link x).1 := by
  unfold Adapter.handle
  split
  · exact refl a
  · next l _ =>
    split
    · cases x with
      | acknowledged reason => exact (setStatus ..).trans (resubscribe ..)
      | published topic payload qos => exact refl a
      | answered id grants => exact settle l.book id grants a
      | wroteSubscribe id => exact setBook ..
      | dismissed reason => exact reportEnd a _ _ { reason := reason }
      | wroteDisconnect => exact reportEnd a _ _ { reason := .normal }
      | failed reason message =>
        exact reportEnd a _ _ { reason := reason, message := some (Redaction.sanitize message) }
    · exact refl a

theorem subscribe (c : String) (s : Slot) (id : SubscriptionId) (topic : String) (qos : Qos)
    (a : Adapter) : Steady a (a.subscribe c s id topic qos).1 := by
  obtain hr | ⟨link, level, b, -, hb, hr⟩ | ⟨link, level, b, -, -, hr⟩ | ⟨link, -, -, hr⟩ :=
    subscribe_cases c s id topic qos a <;> rw [hr]
  · exact setBook ..
  · exact ((setBook ..).trans (offer hb)).trans (setBook ..)
  · exact setBook ..
  · exact setBook ..

theorem unsubscribe (c : String) (s : Slot) (id : SubscriptionId) (topic : String)
    (a : Adapter) : Steady a (a.unsubscribe c s id topic).1 := by
  obtain hr | ⟨link, e, -, hr⟩ | ⟨link, -, hr⟩ := unsubscribe_cases c s id topic a <;> rw [hr]
  · exact setBook ..
  · exact (setBook ..).trans (offer rfl)
  · exact (setBook ..).trans (offer rfl)

end Steady

/-! ## Connections that go on -/

/-- The connection of a link goes on. -/
def GoesOn (a : Adapter) (k : Nat) (l : Link) : Prop :=
  a.links[k]? = some l ∧ l.connection.stage ≠ .ended

/-- Every connection that goes on is the one that its client's slot keeps, and the connection that
a slot keeps is the latest one of its client. -/
structure Attached (a : Adapter) : Prop where
  kept : ∀ {k l}, a.GoesOn k l → ∃ s, a.slots.get? l.clientId = some s ∧ s.link = some k
  latest : ∀ {c s k l}, a.slots.get? c = some s → s.link = some k → a.links[k]? = some l →
    a.generation? c = some l.generation

namespace Attached

variable {a b : Adapter}

theorem steady (h : Attached a) (hs : Steady a b) : Attached b where
  kept {k m} hm := by
    obtain ⟨l, hl, hface⟩ := hs.link_of hm.1
    simp only [Link.face, Prod.mk.injEq] at hface
    obtain ⟨hc, -, -, hstage⟩ := hface
    rw [hs.slots, ← hc]
    exact h.kept ⟨hl, hstage ▸ hm.2⟩
  latest hu hk hm := by
    obtain ⟨l, hl, hface⟩ := hs.link_of hm
    simp only [Link.face, Prod.mk.injEq] at hface
    rw [hs.slots] at hu
    rw [hs.generation, ← hface.2.1]
    exact h.latest hu hk hl

/-- A link may change its connection, if it does not begin to go on again. -/
theorem modifyLink (h : Attached a) (k : Nat) {f : Link → Link}
    (hf : ∀ l, a.links[k]? = some l → (f l).clientId = l.clientId ∧
      (f l).generation = l.generation ∧
      ((f l).connection.stage ≠ .ended → l.connection.stage ≠ .ended)) :
    Attached { a with links := a.links.modify k f } := by
  have hlink {j : Nat} {m : Link} (hm : (a.links.modify k f)[j]? = some m) :
      ∃ l, a.links[j]? = some l ∧ m.clientId = l.clientId ∧ m.generation = l.generation ∧
        (m.connection.stage ≠ .ended → l.connection.stage ≠ .ended) := by
    rw [List.getElem?_modify] at hm
    obtain ⟨l, hl, rfl⟩ := Option.map_eq_some_iff.1 hm
    refine ⟨l, hl, ?_⟩
    split
    · next hk => exact hf l (hk ▸ hl)
    · exact ⟨rfl, rfl, id⟩
  constructor
  · intro j m hm
    obtain ⟨l, hl, hc, -, hlive⟩ := hlink hm.1
    rw [hc]
    exact h.kept ⟨hl, hlive hm.2⟩
  · intro c s j m hs hj hm
    obtain ⟨l, hl, -, hg, -⟩ := hlink hm
    rw [hg]
    exact h.latest hs hj hl

theorem closeLink (h : Attached a) (link : Nat) : Attached (a.closeLink link) :=
  h.modifyLink link fun l _ => ⟨rfl, rfl, fun hlive => absurd l.connection.stage_close hlive⟩

theorem handleAll (h : Attached a) (link : Nat) (hs : List Happening) :
    Attached (a.handleAll link hs).1 :=
  handleAll_of h (fun x _ h => h.steady (.handle link x _)) fun h => h.closeLink link

theorem onLink (h : Attached a) (link : Nat) (s : Stimulus) :
    Attached (a.onLink link (·.respond s)).1 := by
  unfold Adapter.onLink
  split
  · exact h
  · next l hl =>
    have hset : Attached (a.setConnection link (l.connection.respond s).1) := by
      refine h.modifyLink link (f := fun m => { m with connection := (l.connection.respond s).1 })
        fun m hm => ⟨rfl, rfl, fun hlive hended => hlive ?_⟩
      obtain rfl := Option.some.inj (hl.symm.trans hm)
      rw [Connection.respond_of_ended hended]
      exact hended
    exact hset.handleAll link _

/-! ### The worker -/

/-- When the connection of a client was closed, none of the client's goes on. -/
theorem stopped (h : Attached a) (c : String) :
    Attached (a.stopped c) ∧ ∀ {k l}, (a.stopped c).GoesOn k l → l.clientId ≠ c := by
  unfold Adapter.stopped Adapter.stop
  split
  · next s hs =>
    split
    · next hlink =>
      refine ⟨h, fun {k l} hl hc => ?_⟩
      obtain ⟨t, ht, hk⟩ := h.kept hl
      obtain rfl := Option.some.inj (hs.symm.trans (hc ▸ ht))
      rw [hlink] at hk
      cases hk
    · next link hlink =>
      have hclosed := h.closeLink link
      have hnone {k : Nat} {l : Link} (hl : (a.closeLink link).GoesOn k l) : l.clientId ≠ c := by
        intro hc
        obtain ⟨t, ht, hk⟩ := hclosed.kept hl
        obtain rfl := Option.some.inj (hs.symm.trans (hc ▸ ht))
        obtain rfl := Option.some.inj (hlink.symm.trans hk)
        obtain ⟨hm, hlive⟩ := hl
        rw [links_closeLink] at hm
        obtain ⟨m, -, rfl⟩ := Option.map_eq_some_iff.1 hm
        simp [Connection.stage_close] at hlive
      refine ⟨⟨fun {k l} hl => ?_, fun {d t k l} ht hk hl => ?_⟩, hnone⟩
      · obtain ⟨t, ht, hk⟩ := hclosed.kept hl
        exact ⟨t, (Assoc.get?_insert ..).trans ((if_neg (Ne.symm (hnone hl))).trans ht), hk⟩
      · have ht : (a.slots.insert c { s with link := none }).get? d = some t := ht
        rw [Assoc.get?_insert] at ht
        split at ht
        · obtain rfl := Option.some.inj ht
          cases hk
        · exact hclosed.latest ht hk hl
  · next hs =>
    refine ⟨h, fun {k l} hl hc => ?_⟩
    obtain ⟨t, ht, -⟩ := h.kept hl
    rw [← hc, ht] at hs
    cases hs

/-- The slots of a client of which no connection goes on may be replaced or given up. -/
theorem replace (h : Attached a) {c : String} (hnone : ∀ {k l}, a.GoesOn k l → l.clientId ≠ c)
    (hlinks : b.links = a.links)
    (hother : ∀ d, d ≠ c → b.slots.get? d = a.slots.get? d ∧ b.generation? d = a.generation? d)
    (hc : ∀ s, b.slots.get? c = some s → s.link = none) : Attached b where
  kept {k l} hl := by
    have hl : a.GoesOn k l := ⟨hlinks ▸ hl.1, hl.2⟩
    rw [(hother _ (hnone hl)).1]
    exact h.kept hl
  latest {d s k l} hs hk hl := by
    by_cases hd : d = c
    · subst hd
      rw [hc s hs] at hk
      cases hk
    · rw [(hother d hd).1] at hs
      rw [(hother d hd).2]
      exact h.latest hs hk (hlinks ▸ hl)

theorem create (h : Attached a) (c host : String) (port : UInt16) (tls : Bool) :
    Attached (a.carryOut (.create c host port tls)).1 := by
  obtain ⟨hstop, hnone⟩ := h.stopped c
  refine hstop.replace hnone rfl (fun d hd => ⟨?_, rfl⟩) fun s hs => ?_
  · exact (Assoc.get?_insert ..).trans (if_neg (Ne.symm hd))
  · obtain rfl := Option.some.inj ((Assoc.get?_insert_self ..).symm.trans hs)
    rfl

theorem remove (h : Attached a) (c : String) : Attached (a.carryOut (.remove c)).1 := by
  obtain ⟨hstop, hnone⟩ := h.stopped c
  refine hstop.replace hnone rfl (fun d hd => ⟨?_, ?_⟩) fun s hs => ?_
  · exact (Assoc.get?_erase ..).trans (if_neg (Ne.symm hd))
  · exact congrArg (Option.map Standing.generation)
      ((Assoc.get?_erase ..).trans (if_neg (Ne.symm hd)))
  · exact nomatch ((Assoc.get?_erase ..).trans (if_pos rfl)).symm.trans hs

/-- A new connection takes the place of the one that was closed for it. -/
theorem openLink (h : Attached a) {c : String} {t : Slot} {l : Link}
    (hnone : ∀ {k m}, a.GoesOn k m → m.clientId ≠ c) (hc : l.clientId = c)
    (ht : t.link = some a.links.length) (hlinks : b.links = a.links ++ [l])
    (hslots : b.slots = a.slots.insert c t) (hnew : b.generation? c = some l.generation)
    (hother : ∀ d, d ≠ c → b.generation? d = a.generation? d)
    (hsize : ∀ {d s k}, a.slots.get? d = some s → s.link = some k → k < a.links.length) :
    Attached b := by
  have hlast : b.links[a.links.length]? = some l := by simp [hlinks]
  constructor
  · rintro k m ⟨hm, hlive⟩
    rw [hlinks] at hm
    rw [hslots, Assoc.get?_insert]
    obtain ⟨rfl, rfl⟩ | hm := Laid.new_or_old hm
    · exact ⟨t, if_pos hc.symm, ht⟩
    · have hgoes : a.GoesOn k m := ⟨hm, hlive⟩
      rw [if_neg (Ne.symm (hnone hgoes))]
      exact h.kept hgoes
  · intro d s k m hs hk hm
    rw [hslots, Assoc.get?_insert] at hs
    split at hs
    · next hcd =>
      obtain rfl := Option.some.inj hs
      obtain rfl := Option.some.inj (ht.symm.trans hk)
      obtain rfl := Option.some.inj (hlast.symm.trans hm)
      exact hcd ▸ hnew
    · next hcd =>
      rw [hother d (Ne.symm hcd)]
      rw [hlinks, List.getElem?_append_left (hsize hs hk)] at hm
      exact h.latest hs hk hm

/-- A request to connect keeps the connections with their slots, unless it ends the worker. -/
theorem connect (h : Attached a) (hlaid : Laid a) {c : String} {s : Slot} (p : ConnectParameters)
    (hs : a.slots.get? c = some s) (hw : (a.connect c s p).working = true) :
    Attached (a.connect c s p) := by
  have hstop : a.stopped c = a.stop c s := by
    unfold Adapter.stopped
    rw [hs]
  obtain ⟨hatt, hnone⟩ := hstop ▸ h.stopped c
  have hlaid' := (hlaid.stop hs).1
  unfold Adapter.connect at hw ⊢
  dsimp only at hw ⊢
  generalize a.stop c s = b at *
  split at hw
  · exact hatt
  · next standing _ =>
    split at hw
    · cases hw
    · next hkeep =>
      rw [if_neg hkeep]
      refine hatt.openLink
        (l := ⟨c, standing.generation + 1, s.book, s.host, s.port, { parameters := p }⟩)
        (t := { s with link := some b.links.length }) hnone rfl rfl rfl rfl ?_ (fun d hd => ?_)
        fun {d t k} ht hk => ?_
      · exact congrArg (Option.map Standing.generation) (Assoc.get?_insert_self ..)
      · exact congrArg (Option.map Standing.generation)
          ((Assoc.get?_insert ..).trans (if_neg (Ne.symm hd)))
      · obtain ⟨l, hl, -⟩ := hlaid'.slot_link ht hk
        exact (List.getElem?_eq_some_iff.1 hl).1

theorem disconnect (h : Attached a) {c : String} {s : Slot} (hs : a.slots.get? c = some s) :
    Attached (a.disconnect c s).1 := by
  have hstop : a.stopped c = a.stop c s := by
    unfold Adapter.stopped
    rw [hs]
  have hend (generation : Nat) (e : Event.Disconnected) :
      Attached ((a.stop c s).reportEnd c generation e).1 :=
    (hstop ▸ (h.stopped c).1).steady (.reportEnd ..)
  unfold Adapter.disconnect
  split
  · split
    · split
      · next b hb => exact h.steady (.offer hb)
      · next b hb =>
        obtain rfl := eq_of_offer_false hb
        exact hend ..
    · exact hend ..
  · exact h

theorem carryOut (h : Attached a) (hlaid : Laid a) {r : Request}
    (hw : (a.carryOut r).1.working = true) : Attached (a.carryOut r).1 := by
  cases r with
  | create c host port tls => exact h.create c host port tls
  | remove c => exact h.remove c
  | connect c p =>
    simp only [Adapter.carryOut] at hw ⊢
    split at hw
    · next s hs => exact h.connect hlaid p hs hw
    · exact h
  | disconnect c =>
    simp only [Adapter.carryOut]
    split
    · next s hs => exact h.disconnect hs
    · exact h
  | subscribe id c topic qos =>
    simp only [Adapter.carryOut]
    split
    · exact h.steady (.subscribe ..)
    · exact h
  | unsubscribe id c topic =>
    simp only [Adapter.carryOut]
    split
    · exact h.steady (.unsubscribe ..)
    · exact h

/-- While the worker runs, every turn keeps the connections with their slots. -/
theorem next (h : Attached a) (hlaid : Laid a) {t : Turn} (hw : (a.next t).working = true) :
    Attached (a.next t) := by
  cases t with
  | request r =>
    obtain ⟨hs, -, hl, -⟩ := answer_parts r a
    refine ⟨fun {k l} hk => ?_, fun {c s k l} hc hk hm => ?_⟩
    · have hgoes : a.GoesOn k l := ⟨hl ▸ hk.1, hk.2⟩
      obtain ⟨s, hget, hlink⟩ := h.kept hgoes
      exact ⟨s, (congrArg (Assoc.get? · _) hs).trans hget, hlink⟩
    · have hget : a.slots.get? c = some s := hs ▸ hc
      exact generation?_answer r (h.latest hget hk (hl ▸ hm))
  | work =>
    change a.work.1.working = true at hw
    change Attached a.work.1
    obtain ⟨hwork, -⟩ | ⟨r, rest, -, -, hwork⟩ := a.work_cases
    · rw [hwork]
      exact h
    · rw [hwork] at hw ⊢
      have hrest : Attached { a with commands := rest } := ⟨h.kept, h.latest⟩
      exact hrest.carryOut (hlaid.restrict rfl rfl id) hw
  | connection link s => exact h.onLink link s

end Attached

/-- After every run in which the worker keeps running, the connections are with their slots. -/
theorem attached_after (turns : List Turn) (hw : (after {} turns).working = true) :
    Attached (after {} turns) := by
  induction turns using List.reverseRecOn with
  | nil => exact ⟨fun hl => (nomatch hl.1), nofun⟩
  | append_singleton turns t ih =>
    rw [after_append] at hw ⊢
    have hbefore := (next_client ⟨after {} turns, t⟩ "" hw).1
    exact (ih hbefore).next (sound_after turns).toLaid hw

end Adapter

end MqttRelay.Native
