import MqttRelay.Native.Adapter
import MqttRelay.Proofs.History

/-!
# Runs of the adapter

Callers make requests, the worker carries out one of those that wait, and every connection
opens, writes, receives packets and breaks down in its own time. A run is any list of such
turns, in any order: what is not possible at its time changes nothing.

Results:
* `Connection.writeAll_eq_respond`: writing all that waits is one of the things that may happen
  to a connection.
* `Connection.respond_of_ended`: nothing moves a connection that has ended.
* `Adapter.answer_parts`: callers leave slots, books and links alone.
* `Adapter.resubscribe_of`, `Adapter.handleAll_of`: what is kept by each part of what a connection
  brings about is kept by the whole.
* `Adapter.stretches_eq_append_cons`: what comes before a stretch of a run leads to the adapter
  in which it begins.
-/

namespace MqttRelay

namespace Native

/-! ## Connections -/

/-- What moves a connection. -/
inductive Stimulus where
  /-- It gets to open, and the broker can be reached or not. -/
  | opening (reachable : Bool)
  /-- It gets to write some of the requests that wait. -/
  | writing (count : Nat)
  /-- A packet arrives. -/
  | packet (p : Packet)
  /-- The network or the broker breaks it. -/
  | loss
  deriving DecidableEq, Inhabited, Repr

namespace Connection

/-- What a connection does when something moves it. -/
def respond (s : Stimulus) (c : Connection) : Connection × List Happening :=
  match s with
  | .opening reachable => if c.stage = .opening then c.connect reachable else (c, [])
  | .writing count =>
    if c.stage = .live then writeEach (c.queue.take count) { c with queue := c.queue.drop count }
    else (c, [])
  | .packet p => c.receive p
  | .loss => if c.stage = .ended then (c, []) else (c, [failure "I/O: connection closed by peer"])

/-- Writing all that waits is to write as many requests as wait. -/
theorem writeAll_eq_respond (c : Connection) :
    c.writeAll = c.respond (.writing c.queue.length) := by
  simp [writeAll, respond]

/-- Nothing moves a connection that has ended. -/
theorem respond_of_ended {c : Connection} (h : c.stage = .ended) (s : Stimulus) :
    c.respond s = (c, []) := by
  cases s with
  | opening reachable => simp [respond, h]
  | writing count => simp [respond, h]
  | packet p => cases p <;> simp [respond, receive, h]
  | loss => simp [respond, h]

end Connection

/-! ## Callers -/

namespace Adapter

/-- The adapter after a request was entered: a creation makes its client known, if it is not. -/
def enter (r : Request) (a : Adapter) : Adapter :=
  match r with
  | .create clientId .. =>
    if a.knows clientId then a
    else { a with standings := a.standings.insert clientId {} }
  | _ => a

theorem answer_eq (r : Request) (a : Adapter) :
    a.answer r =
      if (a.enter r).knows r.clientId then
        if (a.enter r).working then
          ({ a.enter r with commands := (a.enter r).commands ++ [r] }, {})
        else (a.enter r, { fault := some (.workerUnavailable r.operation) })
      else (a.enter r, { fault := some (.unknownClient r.operation r.clientId) }) := by
  cases r <;> rfl

/-- A caller leaves slots, books and links alone. -/
theorem answer_parts (r : Request) (a : Adapter) :
    (a.answer r).1.slots = a.slots ∧ (a.answer r).1.books = a.books ∧
      (a.answer r).1.links = a.links ∧ (a.answer r).2.events = [] := by
  have henter : (a.enter r).slots = a.slots ∧ (a.enter r).books = a.books ∧
      (a.enter r).links = a.links := by
    unfold enter
    split
    · split <;> exact ⟨rfl, rfl, rfl⟩
    · exact ⟨rfl, rfl, rfl⟩
  obtain ⟨hs, hb, hl⟩ := henter
  rw [answer_eq]
  split
  · split <;> exact ⟨hs, hb, hl, rfl⟩
  · exact ⟨hs, hb, hl, rfl⟩

/-! ## The worker -/

/-- The adapter after the connection of a client was closed, if the client has a slot; a
creation and a removal begin with it. -/
def stopped (clientId : String) (a : Adapter) : Adapter :=
  match a.slots.get? clientId with
  | some s => a.stop clientId s
  | none => a

theorem stopped_of {P : Adapter → Prop} {clientId : String} {a : Adapter} (h : P a)
    (hs : ∀ s, a.slots.get? clientId = some s → P (a.stop clientId s)) :
    P (a.stopped clientId) := by
  unfold stopped
  split
  · next s hget => exact hs s hget
  · exact h

/-! ## Connections of links -/

/-- A request that is accepted waits on the connection of its link; one that is not changes
nothing. -/
theorem offer_cases (a : Adapter) (link : Nat) (o : Outgoing) :
    (∃ l c, a.links[link]? = some l ∧ l.connection.offer o = some c ∧
        a.offer link o = (a.setConnection link c, true)) ∨
      a.offer link o = (a, false) := by
  unfold offer
  split
  · exact Or.inr rfl
  · next l hl =>
    split
    · exact Or.inr rfl
    · next c hc => exact Or.inl ⟨l, c, hl, hc, rfl⟩

theorem eq_of_offer_false {a b : Adapter} {link : Nat} {o : Outgoing}
    (h : a.offer link o = (b, false)) : b = a := by
  obtain ⟨l, c, -, -, hoffer⟩ | hoffer := a.offer_cases link o
  · rw [hoffer] at h
    cases h
  · exact (Prod.mk.inj (hoffer.symm.trans h)).1.symm

/-- What every accepted request keeps, with the note of its topic, is kept when all recorded topics
are asked for anew. -/
theorem resubscribe_of {P : Adapter → Prop} {link n : Nat} {a : Adapter} (h : P a)
    (hask : ∀ {b c : Adapter} {f : String × Qos}, b.offer link (.subscribe f.1 f.2) = (c, true) →
      P b → P (c.setBook n ((c.book n).enqueue f.1))) : P (a.resubscribe link n) := by
  unfold resubscribe
  generalize (a.book n).table.filters = filters
  induction filters generalizing a with
  | nil => exact h
  | cons f filters ih =>
    rw [List.foldl_cons]
    split
    · next c hc => exact ih (hask hc h)
    · next c hc => exact ih (eq_of_offer_false hc ▸ h)

/-- What is kept by whatever happens, and when the connection is closed, is kept by all that
happens. -/
theorem handleAll_of {P : Adapter → Prop} {link : Nat} {hs : List Happening} {a : Adapter}
    (h : P a) (hhandle : ∀ {b : Adapter}, ∀ x ∈ hs, P b → P (b.handle link x).1)
    (hclose : ∀ {b : Adapter}, P b → P (b.closeLink link)) : P (a.handleAll link hs).1 := by
  induction hs generalizing a with
  | nil => exact h
  | cons x hs ih =>
    have hfirst : P (a.handle link x).1 := hhandle x List.mem_cons_self h
    unfold handleAll
    split
    · next b events hb =>
      rw [hb] at hfirst
      exact ih hfirst fun y hy => hhandle y (List.mem_cons_of_mem x hy)
    · next b events hb =>
      rw [hb] at hfirst
      exact hclose hfirst

end Adapter

/-! ## Turns -/

/-- What happens to the adapter at one time. -/
inductive Turn where
  /-- A caller makes a request. -/
  | request (r : Request)
  /-- The worker carries out the first request that waits. -/
  | work
  /-- Something moves the connection of a link. -/
  | connection (link : Nat) (s : Stimulus)
  deriving DecidableEq, Inhabited, Repr

/-- What comes of a turn: the adapter after it, and the events that it delivers. -/
def Turn.act (t : Turn) (a : Adapter) : Adapter × List Emission :=
  match t with
  | .request r => ((a.answer r).1, (a.answer r).2.events)
  | .work => a.work
  | .connection link s => a.onLink link (·.respond s)

/-- One stretch of a run: the adapter in which it begins, and the turn. -/
structure Stretch where
  before : Adapter
  turn : Turn

namespace Stretch

/-- The adapter after the stretch. -/
def after (s : Stretch) : Adapter := (s.turn.act s.before).1

/-- The events that the stretch delivers. -/
def events (s : Stretch) : List Emission := (s.turn.act s.before).2

end Stretch

namespace Adapter

/-- The adapter after a turn. -/
def next (a : Adapter) (t : Turn) : Adapter := (t.act a).1

/-- The adapter after a list of turns. -/
def after (a : Adapter) (turns : List Turn) : Adapter := turns.foldl next a

/-- The stretches of a run, in order. -/
def stretches : List Turn → Adapter → List Stretch
  | [], _ => []
  | t :: ts, a => ⟨a, t⟩ :: stretches ts (a.next t)

theorem after_append (a : Adapter) (ts us : List Turn) :
    a.after (ts ++ us) = (a.after ts).after us := List.foldl_append

theorem stretches_append (a : Adapter) (ts us : List Turn) :
    a.stretches (ts ++ us) = a.stretches ts ++ (a.after ts).stretches us := by
  induction ts generalizing a with
  | nil => rfl
  | cons t ts ih => exact congrArg (⟨a, t⟩ :: ·) (ih (a.next t))

/-- What comes before a stretch of a run leads to the adapter in which it begins. -/
theorem stretches_eq_append_cons {a : Adapter} {turns : List Turn} {s : Stretch}
    {past later : List Stretch} (h : a.stretches turns = past ++ s :: later) :
    ∃ ts us, turns = ts ++ s.turn :: us ∧ past = a.stretches ts ∧ s.before = a.after ts ∧
      later = s.after.stretches us := by
  induction past generalizing a turns with
  | nil =>
    cases turns with
    | nil => cases h
    | cons t turns =>
      obtain ⟨rfl, rfl⟩ := List.cons.inj h
      exact ⟨[], turns, rfl, rfl, rfl, rfl⟩
  | cons r past ih =>
    cases turns with
    | nil => cases h
    | cons t turns =>
      obtain ⟨hr, hrest⟩ := List.cons.inj h
      obtain ⟨ts, us, rfl, rfl, hs, rfl⟩ := ih hrest
      exact ⟨t :: ts, us, rfl, by rw [← hr]; rfl, hs, rfl⟩

/-- What holds in the beginning and is kept by every turn holds after every run. -/
theorem holds_after {P : Adapter → Prop} {a : Adapter} (ha : P a)
    (hnext : ∀ b t, P b → P (b.next t)) (turns : List Turn) : P (a.after turns) := by
  induction turns generalizing a with
  | nil => exact ha
  | cons t turns ih => exact ih (hnext a t ha)

end Adapter

end Native

end MqttRelay
