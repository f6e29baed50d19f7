import MqttRelay.Proofs.Native.Attachment

/-!
# What superseded connections still handle

A connection that is closed may go on handling what it had received before. It is told from the
latest one of its client by its generation alone, and generations are counted from the time at
which the client became known: a client that is removed and created anew begins with the first
one again.

* `Backlog` — the adapter, and what each connection has received and not handled.
* `Moment` — what may happen next; receiving and handling are moments of their own, so that
  anything may come between them.
* `Passage.supersedes` — a later request to connect the same client, or to remove it, is carried
  out.

Results:
* `Backlog.exists_moments`: runs in which whatever is received is handled at once are among these.
* `Adapter.generation?_carryOut`, `Adapter.openings_carryOut`: connections that begin are numbered
  in order, and a removal alone takes the number away.
* `Backlog.generation_after`: after every run, the generation of a client is the number of
  connections that were begun since its last removal.
* `Backlog.silent_iff`: what is handled over a superseded connection has no effect, unless the
  client was removed since it was opened, is known again, and began exactly as many connections
  since as had been begun when it was opened.
* `Backlog.heard_after_removal`: a client that is removed, created and connected anew takes what
  its first connection had received for the new one's.
-/

namespace MqttRelay.Native

/-! ## Generations and connections -/

namespace Adapter

/-- The clients and generations of all connections that were ever opened, in order. -/
def openings (a : Adapter) : List (String × Nat) := a.links.map fun l => (l.clientId, l.generation)

/-- Whether carrying a request out begins a connection of the client: the client is known, and the
worker holds a slot of it. -/
def begins (c : String) (r : Request) (a : Adapter) : Bool :=
  match r with
  | .connect d _ => d == c && a.holds c && a.knows c
  | _ => false

theorem isSome_generation? (a : Adapter) (c : String) : (a.generation? c).isSome = a.knows c := by
  rw [generation?, Option.isSome_map]
  rfl

/-- Nobody's generation changes, and no connection is opened. -/
structure SameAges (a b : Adapter) : Prop where
  generation : ∀ c, b.generation? c = a.generation? c
  openings : b.openings = a.openings

namespace SameAges

variable {a b : Adapter}

theorem refl (a : Adapter) : SameAges a a := ⟨fun _ => rfl, rfl⟩

theorem trans {c : Adapter} (h₁ : SameAges a b) (h₂ : SameAges b c) : SameAges a c :=
  ⟨fun d => (h₂.generation d).trans (h₁.generation d), h₂.openings.trans h₁.openings⟩

theorem of_steady (h : Steady a b) : SameAges a b := by
  refine ⟨h.generation, ?_⟩
  have hfaces := congrArg (List.map fun f : String × Nat × Nat × Stage => (f.1, f.2.1)) h.faces
  rw [List.map_map, List.map_map] at hfaces
  exact hfaces

/-- A link may get another connection. -/
theorem modify (a : Adapter) (link : Nat) (f : Connection → Connection) :
    SameAges a { a with
      links := a.links.modify link fun l => { l with connection := f l.connection } } := by
  refine ⟨fun _ => rfl, List.ext_getElem? fun k => ?_⟩
  rw [Adapter.openings, Adapter.openings, List.getElem?_map, List.getElem?_map,
    List.getElem?_modify]
  cases a.links[k]? with
  | none => rfl
  | some l => by_cases hk : link = k <;> simp [hk]

theorem setConnection (a : Adapter) (link : Nat) (c : Connection) :
    SameAges a (a.setConnection link c) := modify a link fun _ => c

theorem closeLink (a : Adapter) (link : Nat) : SameAges a (a.closeLink link) :=
  modify a link Connection.close

theorem stop (a : Adapter) (c : String) (s : Slot) : SameAges a (a.stop c s) := by
  unfold Adapter.stop
  split
  · exact refl a
  · next link _ => exact ⟨(closeLink a link).generation, (closeLink a link).openings⟩

theorem stopped (a : Adapter) (c : String) : SameAges a (a.stopped c) :=
  stopped_of (refl a) fun s _ => stop a c s

theorem disconnect (c : String) (s : Slot) (a : Adapter) :
    SameAges a (a.disconnect c s).1 := by
  unfold Adapter.disconnect
  split
  · next standing link _ _ =>
    split
    · split
      · next b hb => exact of_steady (Steady.offer hb)
      · next b hb =>
        exact ((of_steady (Steady.offer hb)).trans (stop b c s)).trans
          (of_steady (Steady.reportEnd _ c standing.generation { reason := .disconnectionError }))
    · exact (stop a c s).trans
        (of_steady (Steady.reportEnd _ c standing.generation { reason := .normal }))
  · exact refl a

end SameAges

/-- A connection that begins gets the next generation. -/
theorem connect_ages (c : String) (s : Slot) (p : ConnectParameters) (a : Adapter) :
    (∀ d, (a.connect c s p).generation? d =
      if c = d then (a.generation? c).map (· + 1) else a.generation? d) ∧
    ((a.connect c s p).openings = a.openings ∨
      ∃ g, (a.connect c s p).generation? c = some g ∧
        (a.connect c s p).openings = a.openings ++ [(c, g)]) := by
  obtain ⟨hgen, hopen⟩ := SameAges.stop a c s
  unfold connect
  dsimp only
  generalize a.stop c s = b at *
  split
  · next hnone =>
    have hc : a.generation? c = none := by rw [← hgen c, generation?, hnone]; rfl
    refine ⟨fun d => ?_, Or.inl hopen⟩
    split
    · next hd => rw [← hd, hgen, hc]; rfl
    · exact hgen d
  · next standing hs =>
    have hc : a.generation? c = some standing.generation := by rw [← hgen c, generation?, hs]; rfl
    have hnew (d : String) : ((b.standings.insert c ⟨.connecting, standing.generation + 1⟩).get?
        d).map (·.generation) =
          if c = d then (a.generation? c).map (· + 1) else a.generation? d := by
      rw [Assoc.get?_insert]
      split
      · rw [hc]; rfl
      · exact hgen d
    split
    · exact ⟨hnew, Or.inl hopen⟩
    · refine ⟨hnew, Or.inr ⟨standing.generation + 1, ?_, ?_⟩⟩
      · exact (hnew c).trans (by rw [if_pos rfl, hc]; rfl)
      · rw [← hopen]
        exact List.map_append

/-- A removal takes the generation of its client away, a connection that begins takes the next one,
and nothing else that the worker carries out changes any. -/
theorem generation?_carryOut (r : Request) (a : Adapter) (c : String) :
    (a.carryOut r).1.generation? c =
      if r = .remove c then none
      else if a.begins c r then (a.generation? c).map (· + 1) else a.generation? c := by
  cases r with
  | create d host port tls => exact (SameAges.stopped a d).generation c
  | remove d =>
    have herase : (a.carryOut (.remove d)).1.generation? c =
        if d = c then none else (a.stopped d).generation? c := by
      refine (congrArg (Option.map Standing.generation) (Assoc.get?_erase ..)).trans ?_
      split <;> rfl
    rw [herase]
    by_cases hd : d = c
    · simp [hd]
    · simp [hd, begins, (SameAges.stopped a d).generation c]
  | connect d p =>
    simp only [carryOut, reduceCtorEq, if_false, begins]
    split
    · next s hs =>
      rw [(connect_ages d s p a).1 c]
      by_cases hd : d = c
      · subst hd
        by_cases hk : a.knows d = true
        · simp [holds_of_get? hs, hk]
        · have hnone : a.generation? d = none := by
            rw [← Option.not_isSome_iff_eq_none, isSome_generation?]
            exact hk
          simp [hnone]
      · simp [hd]
    · next hs =>
      have hno : a.holds d = false := by rw [holds, Assoc.contains, hs]; rfl
      by_cases hd : d = c
      · simp [← hd, hno]
      · simp [hd]
  | disconnect d =>
    simp only [carryOut]
    split
    · exact (SameAges.disconnect ..).generation c
    · rfl
  | subscribe id d topic qos =>
    simp only [carryOut]
    split
    · exact (Steady.subscribe ..).generation c
    · rfl
  | unsubscribe id d topic =>
    simp only [carryOut]
    split
    · exact (Steady.unsubscribe ..).generation c
    · rfl

/-- Carrying a request out opens no connection, or the one that begins, under the generation that
its client has then. -/
theorem openings_carryOut (r : Request) (a : Adapter) :
    (a.carryOut r).1.openings = a.openings ∨
      ∃ c g, a.begins c r = true ∧ (a.carryOut r).1.generation? c = some g ∧
        (a.carryOut r).1.openings = a.openings ++ [(c, g)] := by
  cases r with
  | create d host port tls => exact Or.inl (SameAges.stopped a d).openings
  | remove d => exact Or.inl (SameAges.stopped a d).openings
  | connect d p =>
    have hgen := generation?_carryOut (.connect d p) a d
    simp only [carryOut] at hgen ⊢
    split
    · next s hs =>
      rw [hs] at hgen
      obtain h | ⟨g, hg, h⟩ := (connect_ages d s p a).2
      · exact Or.inl h
      · refine Or.inr ⟨d, g, ?_, hg, h⟩
        have hknows : a.knows d = true := by
          rw [← isSome_generation?]
          rw [(connect_ages d s p a).1 d, if_pos rfl] at hg
          obtain ⟨n, hn, -⟩ := Option.map_eq_some_iff.1 hg
          rw [hn]
          rfl
        simp [begins, holds_of_get? hs, hknows]
    · exact Or.inl rfl
  | disconnect d =>
    simp only [carryOut]
    split
    · exact Or.inl (SameAges.disconnect ..).openings
    · exact Or.inl rfl
  | subscribe id d topic qos =>
    simp only [carryOut]
    split
    · exact Or.inl (SameAges.of_steady (Steady.subscribe ..)).openings
    · exact Or.inl rfl
  | unsubscribe id d topic =>
    simp only [carryOut]
    split
    · exact Or.inl (SameAges.of_steady (Steady.unsubscribe ..)).openings
    · exact Or.inl rfl

/-! ## Callers and the worker -/

/-- A creation makes a client known with generation 0, if it is not; no other request changes a
generation. -/
theorem generation?_answer_eq (r : Request) (a : Adapter) (c : String) :
    (a.answer r).1.generation? c =
      if r.creates c = true ∧ a.knows c = false then some 0 else a.generation? c := by
  have henter : (a.answer r).1.generation? c = (a.enter r).generation? c := by
    rw [answer_eq]
    split
    · split <;> rfl
    · rfl
  rw [henter]
  cases r with
  | create d host port tls =>
    rw [enter]
    by_cases hk : a.knows d = true
    · rw [if_pos hk]
      by_cases hd : d = c
      · simp [← hd, hk]
      · simp [Request.creates, hd]
    · rw [if_neg hk, generation?, Assoc.get?_insert]
      by_cases hd : d = c
      · simp [Request.creates, ← hd, hk]
      · simp [Request.creates, hd, generation?]
  | _ => simp [enter, Request.creates]

/-- The request that the worker carries out next. -/
def due? (a : Adapter) : Option Request := if a.working then a.commands.head? else none

/-- The worker carries out the request that is due, or does nothing. -/
theorem work_eq_due (a : Adapter) :
    a.work = match a.due? with
      | none => (a, [])
      | some r => { a with commands := a.commands.tail }.carryOut r := by
  unfold work due?
  cases a.commands with
  | nil => cases a.working <;> rfl
  | cons r rest => cases a.working <;> rfl

/-- The client is known, and the worker has a slot of it as long as it runs. -/
structure Keeps (c : String) (a : Adapter) : Prop where
  known : a.knows c = true
  held : a.working = true → a.holds c = true

namespace Keeps

variable {a b : Adapter} {c : String}

theorem same (h : Keeps c a) (hs : SameClients a b) : Keeps c b where
  known := (hs.knows c).trans h.known
  held hw := (hs.holds c).trans (h.held (hs.working ▸ hw))

theorem carryOut (h : Keeps c a) {r : Request} (hr : r ≠ .remove c) : Keeps c (a.carryOut r).1 := by
  obtain ⟨hknows, hrest⟩ := carryOut_clients r a
  refine ⟨by simp [hknows, h.known, hr], fun hw => ?_⟩
  obtain ⟨-, hworks, hholds⟩ | ⟨hstop, -⟩ := hrest
  · rw [hholds, h.held (hworks ▸ hw)]
    by_cases hc : r.creates c = true
    · exact Request.leaves_of_creates hc true
    · exact Request.leaves_of_other (Bool.eq_false_iff.2 hc) hr true
  · rw [hstop] at hw
    cases hw

theorem answer (h : Keeps c a) (r : Request) : Keeps c (a.answer r).1 := by
  obtain ⟨hw, hs, hk, -⟩ := answer_clients r a
  refine ⟨by rw [hk, h.known, Bool.true_or], fun hworks => ?_⟩
  rw [holds, hs]
  exact h.held (hw ▸ hworks)

end Keeps

end Adapter

/-! ## Backlogs -/

/-- The adapter, and what each connection has received and not handled yet, in order. -/
structure Backlog where
  adapter : Adapter := {}
  waiting : Nat → List Happening := fun _ => []

/-- What may happen at one time. -/
inductive Moment where
  /-- A caller makes a request. -/
  | request (r : Request)
  /-- The worker carries out the first request that waits. -/
  | work
  /-- Something moves the connection of a link, and what comes of it waits to be handled. -/
  | move (link : Nat) (s : Stimulus)
  /-- A link handles the first of what waits, be its connection closed or not. -/
  | handle (link : Nat)
  deriving DecidableEq, Inhabited, Repr

namespace Backlog

/-- Something moves the connection of a link. -/
def move (link : Nat) (s : Stimulus) (x : Backlog) : Backlog :=
  match x.adapter.links[link]? with
  | none => x
  | some l =>
    let (c, happenings) := l.connection.respond s
    ⟨x.adapter.setConnection link c,
      Function.update x.waiting link (x.waiting link ++ happenings)⟩

/-- A link handles the first of what waits. When its connection is over, it is closed and gives up
the rest. -/
def handle (link : Nat) (x : Backlog) : Backlog × List Emission :=
  match x.waiting link with
  | [] => (x, [])
  | h :: rest =>
    match x.adapter.handle link h with
    | (a, events, true) => (⟨a, Function.update x.waiting link rest⟩, events)
    | (a, events, false) => (⟨a.closeLink link, Function.update x.waiting link []⟩, events)

end Backlog

/-- What comes of a moment, and the events that it delivers. -/
def Moment.act (m : Moment) (x : Backlog) : Backlog × List Emission :=
  match m with
  | .request r => ({ x with adapter := (x.adapter.answer r).1 }, (x.adapter.answer r).2.events)
  | .work => ({ x with adapter := x.adapter.work.1 }, x.adapter.work.2)
  | .move link s => (x.move link s, [])
  | .handle link => x.handle link

/-- One passage of a run: what there was before it, and the moment. -/
structure Passage where
  before : Backlog
  moment : Moment

namespace Passage

/-- What there is after the passage. -/
def after (s : Passage) : Backlog := (s.moment.act s.before).1

/-- The events that the passage delivers. -/
def events (s : Passage) : List Emission := (s.moment.act s.before).2

/-- The request that the worker carries out. -/
def carried? (s : Passage) : Option Request :=
  if s.moment = .work then s.before.adapter.due? else none

/-- A removal of the client is carried out. -/
def removes (c : String) (s : Passage) : Bool := s.carried? == some (.remove c)

/-- A request to connect the client is carried out. -/
def connects (c : String) (s : Passage) : Bool :=
  s.carried?.any fun
    | .connect d _ => d == c
    | _ => false

/-- A connection of the client begins. -/
def begins (c : String) (s : Passage) : Bool := s.carried?.any (s.before.adapter.begins c)

/-- A creation of the client is requested, which is not known. -/
def enters (c : String) (s : Passage) : Bool :=
  match s.moment with
  | .request r => r.creates c && !s.before.adapter.knows c
  | _ => false

/-- Whatever connection the client had is superseded. -/
def supersedes (c : String) (s : Passage) : Bool := s.connects c || s.removes c

end Passage

namespace Backlog

/-- What there is after a moment. -/
def next (x : Backlog) (m : Moment) : Backlog := (m.act x).1

/-- What there is after a run. -/
def after (x : Backlog) (moments : List Moment) : Backlog := moments.foldl next x

/-- The passages of a run, in order. -/
def passages (x : Backlog) : List Moment → List Passage
  | [] => []
  | m :: ms => ⟨x, m⟩ :: (x.next m).passages ms

theorem after_append (x : Backlog) (ms ns : List Moment) :
    x.after (ms ++ ns) = (x.after ms).after ns := List.foldl_append

theorem passages_append (x : Backlog) (ms ns : List Moment) :
    x.passages (ms ++ ns) = x.passages ms ++ (x.after ms).passages ns := by
  induction ms generalizing x with
  | nil => rfl
  | cons m ms ih => exact congrArg (⟨x, m⟩ :: ·) (ih (x.next m))

/-- How many connections of a client were begun since its last removal. -/
def begun (c : String) (history : List Passage) : Nat :=
  history.foldl (fun n s => if s.removes c then 0 else if s.begins c then n + 1 else n) 0

theorem begun_append_singleton (c : String) (history : List Passage) (s : Passage) :
    begun c (history ++ [s]) =
      if s.removes c then 0 else if s.begins c then begun c history + 1 else begun c history :=
  List.foldl_append

end Backlog

/-! ## Turns -/

namespace Backlog

/-- A link with nothing to handle stays as it is. -/
theorem after_handles_nil {link : Nat} {x : Backlog} (h : x.waiting link = []) (n : Nat) :
    x.after (List.replicate n (.handle link)) = x := by
  induction n with
  | zero => rfl
  | succ n ih =>
    have hnext : x.next (.handle link) = x := by
      rw [next, Moment.act, handle, h]
    rw [List.replicate_succ, after, List.foldl_cons, hnext]
    exact ih

/-- A link that handles all that waits does at once what it does one by one. -/
theorem after_handles (link : Nat) (x : Backlog) :
    x.after (List.replicate (x.waiting link).length (.handle link)) =
      ⟨(x.adapter.handleAll link (x.waiting link)).1, Function.update x.waiting link []⟩ := by
  generalize hw : x.waiting link = hs
  induction hs generalizing x with
  | nil =>
    have hsame : Function.update x.waiting link [] = x.waiting := by
      rw [← hw, Function.update_eq_self]
    rw [hsame]
    rfl
  | cons h rest ih =>
    have hnext : x.next (.handle link) = (x.handle link).1 := rfl
    rw [List.length_cons, List.replicate_succ, after, List.foldl_cons, hnext, handle, hw]
    dsimp only
    rw [Adapter.handleAll]
    rcases Adapter.handle link h x.adapter with ⟨a, events, goesOn⟩
    cases goesOn with
    | true =>
      have hrest := ih ⟨a, Function.update x.waiting link rest⟩ (Function.update_self ..)
      rw [Function.update_idem] at hrest
      exact hrest
    | false => exact after_handles_nil (Function.update_self ..) _

/-- Every run of turns is a run of moments, in which whatever is received is handled at once. -/
theorem exists_moments (turns : List Turn) : ∃ moments,
    after {} moments = ⟨Adapter.after {} turns, fun _ => []⟩ := by
  induction turns using List.reverseRecOn with
  | nil => exact ⟨[], rfl⟩
  | append_singleton turns t ih =>
    obtain ⟨moments, hbefore⟩ := ih
    rw [Adapter.after_append]
    generalize Adapter.after {} turns = a at *
    suffices h : ∃ more, after ⟨a, fun _ => []⟩ more = ⟨a.next t, fun _ => []⟩ by
      obtain ⟨more, hmore⟩ := h
      exact ⟨moments ++ more, by rw [after_append, hbefore]; exact hmore⟩
    cases t with
    | request r => exact ⟨[.request r], rfl⟩
    | work => exact ⟨[.work], rfl⟩
    | connection link s =>
      cases hl : a.links[link]? with
      | none => exact ⟨[], by simp [Adapter.next, Turn.act, Adapter.onLink, hl, after]⟩
      | some l =>
        let y : Backlog := ⟨a.setConnection link (l.connection.respond s).1,
          Function.update (fun _ => []) link (l.connection.respond s).2⟩
        have hmove : (Backlog.mk a fun _ => []).next (.move link s) = y := by
          simp only [next, Moment.act, move, hl]
          rfl
        refine ⟨.move link s :: List.replicate (y.waiting link).length (.handle link), ?_⟩
        rw [after, List.foldl_cons, hmove]
        refine (after_handles link y).trans ?_
        have hwaiting : y.waiting link = (l.connection.respond s).2 :=
          Function.update_self link _ fun _ => []
        rw [hwaiting]
        simp only [Adapter.next, Turn.act, Adapter.onLink, hl]
        refine congrArg (Backlog.mk _) ?_
        exact (Function.update_idem ..).trans (Function.update_eq_self link fun _ => [])

end Backlog

/-! ## One passage -/

namespace Backlog

open Adapter

/-- Receiving leaves the ages and the clients alone. -/
theorem same_move (link : Nat) (s : Stimulus) (x : Backlog) :
    SameAges x.adapter (x.move link s).adapter ∧ SameClients x.adapter (x.move link s).adapter := by
  unfold move
  split
  · exact ⟨.refl _, .refl _⟩
  · exact ⟨.setConnection .., .setConnection ..⟩

/-- So does handling what was received. -/
theorem same_handle (link : Nat) (x : Backlog) :
    SameAges x.adapter (x.handle link).1.adapter ∧
      SameClients x.adapter (x.handle link).1.adapter := by
  unfold handle
  split
  · exact ⟨.refl _, .refl _⟩
  · next h rest _ =>
    have hages := SameAges.of_steady (Steady.handle link h x.adapter)
    have hclients := SameClients.handle link h x.adapter
    split
    · next a events heq =>
      rw [heq] at hages hclients
      exact ⟨hages, hclients⟩
    · next a events heq =>
      rw [heq] at hages hclients
      exact ⟨hages.trans (.closeLink ..), hclients.trans (.closeLink ..)⟩

end Backlog

namespace Passage

open Adapter

variable {c : String}

/-- The worker carries out what is due. -/
theorem after_of_carried {s : Passage} {r : Request} (h : s.carried? = some r) :
    s.before.adapter.working = true ∧ s.after.adapter =
      ({ s.before.adapter with commands := s.before.adapter.commands.tail }.carryOut r).1 := by
  obtain ⟨x, m⟩ := s
  unfold carried? at h
  split at h
  · next hm =>
    dsimp only at hm h
    subst hm
    have hworks : x.adapter.working = true := by
      by_contra hw
      simp [due?, hw] at h
    exact ⟨hworks, by rw [after, Moment.act]; dsimp only; rw [work_eq_due, h]⟩
  · cases h

/-- Where the worker carries nothing out, a passage opens no connection, and changes a generation
only if it makes a client known. -/
theorem after_of_idle {s : Passage} (h : s.carried? = none) (c : String) :
    (s.after.adapter.generation? c =
        if s.enters c then some 0 else s.before.adapter.generation? c) ∧
      s.after.adapter.openings = s.before.adapter.openings ∧
      (s.before.adapter.Keeps c → s.after.adapter.Keeps c) := by
  obtain ⟨x, m⟩ := s
  cases m with
  | request r =>
    refine ⟨(generation?_answer_eq r x.adapter c).trans (by simp [enters]), ?_, (·.answer r)⟩
    exact congrArg (List.map _) (answer_parts r x.adapter).2.2.1
  | work =>
    have hsame : x.adapter.work = (x.adapter, []) := by
      rw [work_eq_due, show x.adapter.due? = none from h]
    rw [after, Moment.act, hsame]
    exact ⟨rfl, rfl, id⟩
  | move link stimulus =>
    obtain ⟨hages, hclients⟩ := Backlog.same_move link stimulus x
    exact ⟨hages.generation c, hages.openings, (·.same hclients)⟩
  | handle link =>
    obtain ⟨hages, hclients⟩ := Backlog.same_handle link x
    exact ⟨hages.generation c, hages.openings, (·.same hclients)⟩

/-- What a passage makes of the generation of a client. -/
theorem generation?_after (s : Passage) (c : String) :
    s.after.adapter.generation? c =
      if s.removes c then none
      else if s.begins c then (s.before.adapter.generation? c).map (· + 1)
      else if s.enters c then some 0 else s.before.adapter.generation? c := by
  cases h : s.carried? with
  | none => simpa [removes, begins, h] using (after_of_idle h c).1
  | some r =>
    have henters : s.enters c = false := by
      unfold enters
      split
      · next q hq => simp [carried?, hq] at h
      · rfl
    rw [(after_of_carried h).2, generation?_carryOut]
    simp only [removes, begins, h, henters, beq_iff_eq, Option.some.injEq, Option.any_some]
    rfl

/-- A passage opens no connection, or the one that begins, under its client's generation. -/
theorem openings_after (s : Passage) :
    s.after.adapter.openings = s.before.adapter.openings ∨
      ∃ c g, s.begins c = true ∧ s.after.adapter.generation? c = some g ∧
        s.after.adapter.openings = s.before.adapter.openings ++ [(c, g)] := by
  cases h : s.carried? with
  | none => exact Or.inl (after_of_idle h "").2.1
  | some r =>
    rw [(after_of_carried h).2]
    refine (openings_carryOut r _).imp id ?_
    rintro ⟨c, g, hb, hrest⟩
    exact ⟨c, g, by rw [begins, h]; exact hb, hrest⟩

/-- A client that is not removed stays known and keeps its slot. -/
theorem keeps_after {s : Passage} (h : s.before.adapter.Keeps c) (hr : s.removes c = false) :
    s.after.adapter.Keeps c := by
  cases hc : s.carried? with
  | none => exact (after_of_idle hc c).2.2 h
  | some r =>
    rw [(after_of_carried hc).2]
    have hrest : Keeps c { s.before.adapter with commands := s.before.adapter.commands.tail } :=
      ⟨h.known, h.held⟩
    refine hrest.carryOut ?_
    rintro rfl
    simp [removes, hc] at hr

/-- A request to connect such a client begins a connection. -/
theorem begins_of_connects {s : Passage} (h : s.before.adapter.Keeps c) (hs : s.connects c = true) :
    s.begins c = true := by
  cases hr : s.carried? with
  | none => simp [connects, hr] at hs
  | some r =>
    obtain ⟨hworks, -⟩ := after_of_carried hr
    cases r with
    | connect d p =>
      have hd : d = c := by simpa [connects, hr] using hs
      simp [begins, hr, Adapter.begins, hd, h.known, h.held hworks]
    | _ => simp [connects, hr] at hs

/-- A client whose connection begins is known, and keeps its slot as long as the worker runs. -/
theorem keeps_of_begins {s : Passage} (h : s.begins c = true) : s.before.adapter.Keeps c := by
  cases hr : s.carried? with
  | none => simp [begins, hr] at h
  | some r =>
    cases r with
    | connect d p =>
      have hboth : (d = c ∧ s.before.adapter.holds c = true) ∧ s.before.adapter.knows c = true := by
        simpa [begins, hr, Adapter.begins] using h
      exact ⟨hboth.2, fun _ => hboth.1.2⟩
    | _ => simp [begins, hr, Adapter.begins] at h

theorem removes_of_begins {s : Passage} (h : s.begins c = true) : s.removes c = false := by
  cases hr : s.carried? with
  | none => simp [begins, hr] at h
  | some r => cases r <;> simp_all [begins, removes, Adapter.begins]

end Passage

/-! ## Runs -/

namespace Backlog

open Adapter

/-- What there is after a run from the beginning. -/
abbrev run (moments : List Moment) : Backlog := after {} moments

/-- The passages of a run from the beginning. -/
abbrev history (moments : List Moment) : List Passage := passages {} moments

/-- After every run, the generation of a client is the number of connections that were begun since
its last removal; of a client that is not known none was. -/
theorem generation_after (moments : List Moment) (c : String) :
    ((run moments).adapter.generation? c).getD 0 = begun c (history moments) := by
  induction moments using List.reverseRecOn with
  | nil => rfl
  | append_singleton moments m ih =>
    have hstep := Passage.generation?_after ⟨run moments, m⟩ c
    rw [run, history, after_append, passages_append]
    change ((Passage.after ⟨run moments, m⟩).adapter.generation? c).getD 0 =
      begun c (history moments ++ [⟨run moments, m⟩])
    rw [begun_append_singleton, hstep, ← ih]
    split
    · rfl
    · split
      · next hbegins =>
        have hknown := (Passage.keeps_of_begins hbegins).known
        rw [← isSome_generation?] at hknown
        obtain ⟨g, hg⟩ := Option.isSome_iff_exists.1 hknown
        rw [hg]
        rfl
      · split
        · next henters =>
          have hnone : (run moments).adapter.knows c = false := by
            unfold Passage.enters at henters
            split at henters
            · simpa using (Bool.and_eq_true_iff.1 henters).2
            · cases henters
          rw [← isSome_generation?, Option.isSome_eq_false_iff, Option.isNone_iff_eq_none] at hnone
          rw [hnone]
          rfl
        · rfl

/-- Connections that were opened stay among those that were. -/
theorem openings_prefix (x : Backlog) (moments : List Moment) :
    x.adapter.openings <+: (x.after moments).adapter.openings := by
  induction moments generalizing x with
  | nil => exact List.prefix_rfl
  | cons m moments ih =>
    refine List.IsPrefix.trans ?_ (ih (x.next m))
    obtain h | ⟨c, g, -, -, h⟩ := Passage.openings_after ⟨x, m⟩
    · exact h ▸ List.prefix_rfl
    · exact h ▸ List.prefix_append ..

/-- A link stays, under its client and its generation. -/
theorem exists_link_after {x : Backlog} {k : Nat} {l : Link} (hl : x.adapter.links[k]? = some l)
    (moments : List Moment) :
    ∃ n, (x.after moments).adapter.links[k]? = some n ∧ n.clientId = l.clientId ∧
      n.generation = l.generation := by
  have hthen : x.adapter.openings[k]? = some (l.clientId, l.generation) := by
    rw [openings, List.getElem?_map, hl]
    rfl
  have hopening : (x.after moments).adapter.openings[k]? = some (l.clientId, l.generation) := by
    obtain ⟨further, hfurther⟩ := openings_prefix x moments
    rw [← hfurther, List.getElem?_append_left (List.getElem?_eq_some_iff.1 hthen).1]
    exact hthen
  rw [openings, List.getElem?_map] at hopening
  obtain ⟨n, hn, hpair⟩ := Option.map_eq_some_iff.1 hopening
  exact ⟨n, hn, Prod.mk.inj hpair⟩

/-- As long as a client is not removed its generation does not decrease, and it increases with
every request to connect. -/
theorem generation_rises {x : Backlog} {c : String} {g : Nat} (hk : x.adapter.Keeps c)
    (hg : x.adapter.generation? c = some g) (moments : List Moment)
    (hr : ∀ s ∈ x.passages moments, s.removes c = false) :
    ∃ n, (x.after moments).adapter.generation? c = some n ∧ g ≤ n ∧
      ((∃ s ∈ x.passages moments, s.connects c = true) → g < n) := by
  induction moments generalizing x g with
  | nil => exact ⟨g, hg, Nat.le_refl g, fun ⟨s, hs, _⟩ => nomatch hs⟩
  | cons m moments ih =>
    have hkeep : (Passage.mk x m).removes c = false := hr _ List.mem_cons_self
    have hrest : ∀ s ∈ (x.next m).passages moments, s.removes c = false :=
      fun s hs => hr s (List.mem_cons_of_mem _ hs)
    have hknown : (Passage.mk x m).enters c = false := by
      unfold Passage.enters
      split
      · simp [hk.known]
      · rfl
    have hnext : (x.next m).adapter.generation? c =
        some (if (Passage.mk x m).begins c then g + 1 else g) := by
      refine (Passage.generation?_after ⟨x, m⟩ c).trans ?_
      rw [hkeep, hknown, hg]
      cases (Passage.mk x m).begins c <;> rfl
    obtain ⟨n, hn, hle, hlt⟩ := ih (Passage.keeps_after hk hkeep) hnext hrest
    refine ⟨n, hn, ?_, ?_⟩
    · split at hle <;> omega
    · rintro ⟨s, hs, hconnects⟩
      obtain rfl | hs := List.mem_cons.1 hs
      · rw [if_pos (Passage.begins_of_connects hk hconnects)] at hle
        omega
      · have := hlt ⟨s, hs, hconnects⟩
        split at this <;> omega

/-- A connection is opened under the generation that its client has then: the number of those begun
since its last removal, itself included. -/
theorem generation_of_opening {earlier : List Moment} {m : Moment} {k : Nat} {l : Link}
    (hnew : (run earlier).adapter.links[k]? = none)
    (hlink : (run (earlier ++ [m])).adapter.links[k]? = some l) :
    (run (earlier ++ [m])).adapter.Keeps l.clientId ∧
      (run (earlier ++ [m])).adapter.generation? l.clientId = some l.generation := by
  have hrun : run (earlier ++ [m]) = Passage.after ⟨run earlier, m⟩ := after_append ..
  rw [hrun] at hlink ⊢
  have hopening : (Passage.after ⟨run earlier, m⟩).adapter.openings[k]? =
      some (l.clientId, l.generation) := by
    rw [openings, List.getElem?_map, hlink]
    rfl
  have hbefore : (run earlier).adapter.openings[k]? = none := by
    rw [openings, List.getElem?_map, hnew]
    rfl
  obtain h | ⟨c, g, hbegins, hg, h⟩ := Passage.openings_after ⟨run earlier, m⟩
  · rw [h, hbefore] at hopening
    cases hopening
  · rw [h, List.getElem?_append_right (List.getElem?_eq_none_iff.1 hbefore),
      List.getElem?_singleton] at hopening
    split at hopening
    · obtain ⟨rfl, rfl⟩ := Prod.mk.inj (Option.some.inj hopening)
      exact ⟨Passage.keeps_after (Passage.keeps_of_begins hbegins)
        (Passage.removes_of_begins hbegins), hg⟩
    · cases hopening

/-! ## What is handled late -/

/-- Whatever a link handles has no effect. -/
def Silent (x : Backlog) (link : Nat) : Prop :=
  ∀ h, x.adapter.handle link h = (x.adapter, [], false)

/-- A silent link delivers nothing, and leaves statuses and subscriptions as they are. -/
theorem Silent.handle {x : Backlog} {link : Nat} (h : x.Silent link) :
    (x.handle link).2 = [] ∧ (x.handle link).1.adapter.standings = x.adapter.standings ∧
      (x.handle link).1.adapter.books = x.adapter.books := by
  unfold Backlog.handle
  split
  · exact ⟨rfl, rfl, rfl⟩
  · next e rest _ =>
    rw [h e]
    exact ⟨rfl, rfl, rfl⟩

/-- A link is silent unless its generation is its client's. -/
theorem silent_iff_not_current {x : Backlog} {k : Nat} {l : Link}
    (hl : x.adapter.links[k]? = some l) :
    x.Silent k ↔ x.adapter.generation? l.clientId ≠ some l.generation := by
  rw [ne_eq, ← isCurrent_iff]
  constructor
  · intro h hcurrent
    have hmessage := h (.published "" "" .atMostOnce)
    simp [Adapter.handle, hl, hcurrent] at hmessage
  · intro h e
    exact x.adapter.handle_of_superseded k e l hl (Bool.eq_false_iff.2 h)

/-- After every run, a connection that a later request to connect or to remove its client superseded
is silent, and delivers nothing and changes no status and no subscription, unless the client was
removed since the connection was opened, is known again, and as many connections of it were begun
since its last removal as had been when the connection was opened, itself included. -/
theorem silent_iff (earlier later : List Moment) (m : Moment) {k : Nat} {l : Link}
    (hnew : (run earlier).adapter.links[k]? = none)
    (hlink : (run (earlier ++ [m])).adapter.links[k]? = some l)
    (hsuperseded : ∃ s ∈ (run (earlier ++ [m])).passages later,
      s.supersedes l.clientId = true) :
    let x := run (earlier ++ m :: later)
    (x.Silent k ↔ ¬ ((∃ s ∈ (run (earlier ++ [m])).passages later, s.removes l.clientId = true) ∧
      x.adapter.knows l.clientId = true ∧
      begun l.clientId (history (earlier ++ m :: later)) =
        begun l.clientId (history (earlier ++ [m])))) ∧
    (x.Silent k → (x.handle k).2 = [] ∧
      (x.handle k).1.adapter.standings = x.adapter.standings ∧
      (x.handle k).1.adapter.books = x.adapter.books) := by
  intro x
  obtain ⟨hkeeps, hopened⟩ := generation_of_opening hnew hlink
  have hx : x = (run (earlier ++ [m])).after later := by
    rw [← after_append, List.append_assoc, List.singleton_append]
  have hfirst := generation_after (earlier ++ [m]) l.clientId
  have hlast := generation_after (earlier ++ m :: later) l.clientId
  rw [hopened, Option.getD_some] at hfirst
  obtain ⟨n, hn, hpair⟩ := exists_link_after hlink later
  rw [← hx] at hn
  refine ⟨?_, Silent.handle⟩
  rw [silent_iff_not_current hn, hpair.1, hpair.2, not_iff_not]
  constructor
  · intro hcurrent
    refine ⟨?_, ?_, ?_⟩
    · -- without a removal the generation has grown
      by_contra hnone
      obtain ⟨g, hg, hle, hlt⟩ := generation_rises hkeeps hopened later
        fun s hs => Bool.eq_false_iff.2 fun hr => hnone ⟨s, hs, hr⟩
      obtain ⟨s, hs, hsup⟩ := hsuperseded
      obtain hconnects | hremoves := (Bool.or_eq_true _ _).mp hsup
      · have hgrown := hlt ⟨s, hs, hconnects⟩
        rw [← hx, hcurrent] at hg
        exact absurd (Option.some.inj hg) (Nat.ne_of_lt hgrown)
      · exact hnone ⟨s, hs, hremoves⟩
    · rw [← isSome_generation?, hcurrent]
      rfl
    · rw [← hlast, ← hfirst, hcurrent]
      rfl
  · rintro ⟨-, hknown, hcount⟩
    rw [← isSome_generation?] at hknown
    obtain ⟨g, hg⟩ := Option.isSome_iff_exists.1 hknown
    rw [← hlast, ← hfirst, hg, Option.getD_some] at hcount
    rw [hg, hcount]

/-- A client is created, its request to connect is made, and the worker comes to it. -/
def untilConnect : List Moment :=
  [.request (.create "c" "h" 1883 false), .work, .request (.connect "c" ⟨30, true, "", ""⟩)]

/-- Its connection is acknowledged, a subscription is written on it, and it receives the answer, a
message and its end, none of which is handled. -/
def untilLoss : List Moment :=
  [.move 0 (.opening true), .move 0 (.packet (.connack 0)), .handle 0,
    .request (.subscribe ⟨"s"⟩ "c" "t" .atMostOnce), .work, .move 0 (.writing 1), .handle 0,
    .move 0 (.packet (.suback 1 [0])), .move 0 (.packet (.publish [116] [109] .atMostOnce 0)),
    .move 0 .loss]

/-- The client is connected once more. -/
def connectAgain : List Moment := [.request (.connect "c" ⟨30, true, "", ""⟩), .work]

/-- The client is removed, and created anew. -/
def createAnew : List Moment :=
  [.request (.remove "c"), .work, .request (.create "c" "h" 1883 false), .work]

/-- A connection that the next one supersedes is silent, with all that it has received. -/
theorem silent_of_connectAgain :
    let x := run (untilConnect ++ .work :: (untilLoss ++ connectAgain))
    (x.waiting 0).length = 3 ∧ x.Silent 0 := by
  refine ⟨by decide, ?_⟩
  refine (silent_iff untilConnect (untilLoss ++ connectAgain) .work
    (l := ⟨"c", 1, 0, "h", 1883, { parameters := ⟨30, true, "", ""⟩ }⟩) (by decide) (by decide)
    (by decide)).1.2 fun h => ?_
  exact absurd h.1 (by decide)

/-- A client that is removed, created and connected anew takes what its first connection had
received for the new one's: the answer settles a subscription, the message is delivered, and the
loss of the first connection disconnects the client while the new one is being opened. -/
theorem heard_after_removal :
    let y := run (untilConnect ++ [.work])
    let x := y.after (untilLoss ++ createAnew ++ connectAgain)
    let handled := [Moment.handle 0, .handle 0, .handle 0]
    ((y.passages (untilLoss ++ createAnew ++ connectAgain)).any (·.removes "c") = true ∧
      (y.passages (untilLoss ++ createAnew ++ connectAgain)).any (·.connects "c") = true) ∧
    (x.adapter.slots.get? "c").map (·.link) = some (some 1) ∧
    x.adapter.status "c" = .connecting ∧
    (x.passages handled).map (fun s => s.events.map (·.key)) =
      [[.subscription ⟨"s"⟩ .subscribed], [.subscription ⟨"s"⟩ .message],
        [.client "c" .disconnected]] ∧
    (x.after handled).adapter.book 0 ≠ x.adapter.book 0 ∧
    (x.after handled).adapter.status "c" = .disconnected := by
  decide

end Backlog

end MqttRelay.Native
