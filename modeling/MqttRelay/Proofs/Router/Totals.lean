import Mathlib.Algebra.GroupWithZero.Nat
import MqttRelay.Proofs.Assoc
import MqttRelay.Proofs.Router.Emission

/-!
# What is counted of emits

Every emit counts its panics as they happen and what it delivered at its end, when the emits that
its handlers made in turn have counted theirs already. Whatever the nesting, a counter grows by
what each emit adds to it, the same for every emit, and so the totals balance.

* `Emission` — an emit that came to its end, with the calls it made.
* `Counter` — a number that is read off the metrics, and what an emission adds to it.

Results:
* `Metrics.read_count_delivered`, `Metrics.read_count_panicked`: what one occurrence adds.
* `Accounted.dispatch`, `Accounted.emit`, `Accounted.execute`: what a dispatch, an emit and a
  program add, if handlers add what the emits made by them do.
* `totals_balance`: the counters after a run that began with none.
-/

namespace MqttRelay

namespace Metrics

/-! ## Counters -/

/-- What is read off the metrics about deliveries. -/
inductive Counter where
  | delivered
  | panics
  /-- The deliveries under one name of a kind. -/
  | kind (label : String)
  /-- The deliveries under all names of kinds. -/
  | kinds

/-- The number that a counter shows. -/
def read (m : Metrics) : Counter → Nat
  | .delivered => m.delivered
  | .panics => m.panics
  | .kind label => (m.byKind.get? label).getD 0
  | .kinds => m.kindTotal

/-- Adding to the count of a name sets it to its sum, in its place in the order of names. -/
theorem addTo_eq_insert {counts : Assoc Nat} (h : counts.Ordered) (label : String) (n : Nat) :
    addTo label n counts = counts.insert label ((counts.get? label).getD 0 + n) := by
  induction counts with
  | nil => simp [addTo, Assoc.insert]
  | cons c counts ih =>
    obtain ⟨hc, hcounts⟩ := List.pairwise_cons.1 h
    unfold addTo Assoc.insert
    split
    · next hlt =>
      -- No name that stands later is this one.
      have hnone : Assoc.get? (c :: counts) label = none := by
        refine Assoc.get?_eq_none_of_notMem fun hm => ?_
        obtain ⟨p, hp, rfl⟩ := List.mem_map.1 hm
        rcases List.mem_cons.1 hp with rfl | hp
        · exact lt_irrefl _ hlt
        · exact lt_asymm hlt (hc p hp)
      rw [hnone]
      simp
    · split
      · next heq => simp [Assoc.get?_cons, heq]
      · next hne => rw [Assoc.get?_cons, if_neg (Ne.symm hne), ih hcounts]

/-- What a delivery adds to a counter. -/
def Counter.ofDelivery (kind : Option Event.Kind) (n : Nat) : Counter → Nat
  | .delivered => n
  | .panics => 0
  | .kind label => if kindLabel kind = label then n else 0
  | .kinds => n

theorem Counter.ofDelivery_zero (kind : Option Event.Kind) (c : Counter) :
    c.ofDelivery kind 0 = 0 := by
  cases c <;> simp [ofDelivery]

theorem read_count_delivered {m : Metrics} (h : m.byKind.Ordered) (kind : Option Event.Kind)
    (n : Nat) (c : Counter) :
    (m.count (.delivered kind n)).read c = m.read c + c.ofDelivery kind n := by
  cases c with
  | delivered => rfl
  | panics => rfl
  | kinds => exact (m.count_delivered kind n).2
  | kind label =>
    unfold read count Counter.ofDelivery
    dsimp only
    rw [addTo_eq_insert h, Assoc.get?_insert]
    split
    · next heq => simp [heq]
    · rfl

/-- What panics add to a counter. -/
def Counter.ofPanics (n : Nat) : Counter → Nat
  | .panics => n
  | _ => 0

theorem read_count_panicked (m : Metrics) (c : Counter) :
    (m.count .panicked).read c = m.read c + c.ofPanics 1 := by
  cases c <;> rfl

/-- The counters grow by some amounts, and the names of kinds stay in order. -/
def Grows (amount : Counter → Nat) (m after : Metrics) : Prop :=
  m.byKind.Ordered → after.byKind.Ordered ∧ ∀ c, after.read c = m.read c + amount c

namespace Grows

variable {a b : Counter → Nat} {m n k : Metrics}

theorem refl (m : Metrics) : Grows (fun _ => 0) m m := fun h => ⟨h, fun _ => rfl⟩

theorem trans (h₁ : Grows a m n) (h₂ : Grows b n k) : Grows (fun c => a c + b c) m k := by
  intro hm
  obtain ⟨hn, hfirst⟩ := h₁ hm
  obtain ⟨hk, hsecond⟩ := h₂ hn
  exact ⟨hk, fun c => by rw [hsecond, hfirst, Nat.add_assoc]⟩

theorem congr (h : Grows a m n) (hab : ∀ c, a c = b c) : Grows b m n := funext hab ▸ h

theorem delivered (m : Metrics) (kind : Option Event.Kind) (n : Nat) :
    Grows (fun c => c.ofDelivery kind n) m (m.count (.delivered kind n)) := by
  refine fun hm => ⟨?_, read_count_delivered hm kind n⟩
  unfold count
  dsimp only
  rw [addTo_eq_insert hm]
  exact hm.insert _ _

theorem panicked (m : Metrics) : Grows (fun c => c.ofPanics 1) m (m.count .panicked) :=
  fun hm => ⟨hm, m.read_count_panicked⟩

end Grows

end Metrics

namespace Hub

open Metrics (Counter Grows)

variable {S H : Type}

/-! ## Emissions -/

/-- An emit that came to its end: the calls that it made, in order, and the number that it
answered. -/
structure Emission (H : Type) where
  event : String
  calls : List (Call H)
  answer : Nat

namespace Emission

/-- The emission of an event. -/
def of (act : Act S H) (event : String) (payload : Event.Payload) (h : Hub S H) : Emission H where
  event := event
  calls := (dispatch act payload (h.router.listeners event) h).2
  answer := (Hub.emit act event payload h).2

/-- The number of calls that panicked. -/
def panics (e : Emission H) : Nat := e.calls.countP (!·.returned)

/-- The name under which an emission is counted: that of the kind of the first listener called
which was registered with a key. -/
def label (e : Emission H) : String :=
  match e.calls.findSome? fun c => c.listener.kind with
  | some kind => kind.label
  | none => "native"

/-- What an emission adds to a counter. -/
def adds (e : Emission H) : Counter → Nat
  | .delivered => e.answer
  | .panics => e.panics
  | .kind label => if e.label = label then e.answer else 0
  | .kinds => e.answer

theorem adds_eq (e : Emission H) (c : Counter) :
    e.adds c = c.ofDelivery (countedKind e.calls) e.answer + c.ofPanics e.panics := by
  cases c with
  | delivered => rfl
  | panics => exact (Nat.zero_add _).symm
  | kinds => rfl
  | kind label =>
    have hlabel : e.label = Metrics.kindLabel (countedKind e.calls) := by
      unfold Emission.label countedKind
      split <;> next h => rw [h]; rfl
    rw [adds, hlabel]
    rfl

/-- What emissions add to a counter together. -/
def total (es : List (Emission H)) (c : Counter) : Nat := (es.map (·.adds c)).sum

theorem total_append (es fs : List (Emission H)) (c : Counter) :
    total (es ++ fs) c = total es c + total fs c := by
  simp [total]

theorem total_kind (label : String) (es : List (Emission H)) :
    total es (.kind label) = ((es.filter (·.label = label)).map (·.answer)).sum := by
  induction es with
  | nil => rfl
  | cons e es ih =>
    unfold total at ih ⊢
    rw [List.map_cons, List.sum_cons, ih, List.filter_cons, adds]
    by_cases h : e.label = label <;> simp [h]

end Emission

/-- The emissions of a program and, before each of them, those of the handlers that it called,
given which emissions handlers make. -/
def Program.emissions (act : Act S H) (inside : H → Event.Payload → Hub S H → List (Emission H)) :
    Program S H → Hub S H → List (Emission H)
  | .finish _, _ => []
  | .look next, h => (next h).emissions act inside h
  | .keep f rest, h => rest.emissions act inside { h with store := f h.store }
  | .change c rest, h => rest.emissions act inside { h with router := h.router.change c }
  | .emit event payload next, h =>
    ((turns act payload (h.router.listeners event) h).flatMap fun t =>
      inside t.1.handler payload t.2) ++
    .of act event payload h ::
      (next (Hub.emit act event payload h).2).emissions act inside
        (Hub.emit act event payload h).1

/-- The emissions of a handler that runs a program, and of all handlers called meanwhile, as deep
as they nest. -/
def nestedEmissions (program : H → Event.Payload → Program S H) :
    Nat → H → Event.Payload → Hub S H → List (Emission H)
  | 0 => fun _ _ _ => []
  | depth + 1 => fun handler payload =>
    (program handler payload).emissions (nested program depth) (nestedEmissions program depth)

/-! ## What emissions add -/

section Adding

variable {act : Act S H} {inside : H → Event.Payload → Hub S H → List (Emission H)}

/-- Handlers add to the counters what the emissions do that they make. -/
def Accounted (act : Act S H) (inside : H → Event.Payload → Hub S H → List (Emission H)) : Prop :=
  ∀ handler payload h,
    Grows (Emission.total (inside handler payload h)) h.metrics (act handler payload h).1.metrics

variable (hact : Accounted act inside)

include hact

/-- A call adds its panic to what the handler adds. -/
theorem Accounted.call (l : Listener H) (payload : Event.Payload) (h : Hub S H) :
    Grows (fun c => Emission.total (inside l.handler payload h) c +
        c.ofPanics (if (Hub.call act l payload h).2 then 0 else 1))
      h.metrics (Hub.call act l payload h).1.metrics := by
  have hl := hact l.handler payload h
  unfold Hub.call
  dsimp only
  split
  · exact hl.congr fun c => by cases c <;> rfl
  · exact hl.trans (.panicked _)

/-- A dispatch adds its panics to what the handlers add that have a turn. -/
theorem Accounted.dispatch (payload : Event.Payload) (ls : List (Listener H)) (h : Hub S H) :
    Grows (fun c =>
        Emission.total
            ((turns act payload ls h).flatMap fun t => inside t.1.handler payload t.2) c +
          c.ofPanics ((Hub.dispatch act payload ls h).2.countP (!·.returned)))
      h.metrics (Hub.dispatch act payload ls h).1.metrics := by
  induction ls generalizing h with
  | nil => exact (Grows.refl _).congr fun c => by cases c <;> rfl
  | cons l ls ih =>
    unfold turns Hub.dispatch
    split
    · refine ((hact.call l payload h).trans (ih _)).congr fun c => ?_
      rw [List.flatMap_cons, Emission.total_append, List.countP_cons]
      cases c <;> cases (Hub.call act l payload h).2 <;> simp [Counter.ofPanics] <;> omega
    · exact ih h

/-- An emit adds what its emission does to what the handlers add that it calls. -/
theorem Accounted.emit (event : String) (payload : Event.Payload) (h : Hub S H) :
    Grows (fun c =>
        Emission.total ((turns act payload (h.router.listeners event) h).flatMap fun t =>
          inside t.1.handler payload t.2) c + (Emission.of act event payload h).adds c)
      h.metrics (Hub.emit act event payload h).1.metrics := by
  have hd := hact.dispatch payload (h.router.listeners event) h
  have hadds (c : Counter) := (Emission.of act event payload h).adds_eq c
  unfold Hub.emit
  dsimp only
  split
  · next hzero =>
    -- An emit that delivers nothing is not counted, and would add nothing.
    refine hd.congr fun c => ?_
    rw [hadds]
    have hanswer : (Emission.of act event payload h).answer = 0 := hzero
    rw [hanswer, Counter.ofDelivery_zero, Nat.zero_add]
    rfl
  · refine (hd.trans (.delivered _ _ _)).congr fun c => ?_
    rw [hadds, Nat.add_assoc, Nat.add_comm (c.ofDelivery _ _)]
    rfl

/-- A program adds what its emissions do, and those of the handlers that they called. -/
theorem Accounted.execute (program : Program S H) (h : Hub S H) :
    Grows (Emission.total (program.emissions act inside h)) h.metrics
      (Hub.execute act program h).1.metrics := by
  induction program generalizing h with
  | finish returned => exact Grows.refl _
  | look next ih => exact ih h h
  | keep f rest ih => exact ih _
  | change c rest ih => exact ih _
  | emit event payload next ih =>
    refine ((hact.emit event payload h).trans (ih _ _)).congr fun c => ?_
    rw [Program.emissions, Emission.total_append]
    simp [Emission.total, Nat.add_assoc]

end Adding

theorem accounted_nested (program : H → Event.Payload → Program S H) (depth : Nat) :
    Accounted (nested program depth) (nestedEmissions program depth) := by
  induction depth with
  | zero => exact fun _ _ _ => Grows.refl _
  | succ depth ih => exact fun handler payload h => ih.execute (program handler payload) h

/-! ## Totals -/

/-- After a run that began with the counters at zero, whatever its handlers do and however deep
their emits nest: the deliveries are the sum of the numbers that all emits answered, and so are the
deliveries of all kinds together; the panics are the calls that panicked; and under each name of a
kind stand the deliveries of the emits whose first called listener with a key has that kind, or
that called none, for the native ones. -/
theorem totals_balance (program : H → Event.Payload → Program S H) (depth : Nat)
    (run : Program S H) (router : Router H) (metrics : Metrics) (store : S) :
    let start : Hub S H := ⟨router, metrics.count .reset, store⟩
    let act := nested program depth
    let emissions := run.emissions act (nestedEmissions program depth) start
    let counted := (execute act run start).1.metrics
    counted.delivered = (emissions.map (·.answer)).sum ∧
    counted.kindTotal = (emissions.map (·.answer)).sum ∧
    counted.panics = (emissions.map fun e => e.calls.countP (!·.returned)).sum ∧
    ∀ label, (counted.byKind.get? label).getD 0 =
      ((emissions.filter (·.label = label)).map (·.answer)).sum := by
  intro start act emissions counted
  obtain ⟨-, hread⟩ := (accounted_nested program depth).execute run start List.Pairwise.nil
  have hzero (c : Counter) : start.metrics.read c = 0 := by cases c <;> rfl
  have htotal (c : Counter) : counted.read c = Emission.total emissions c := by
    rw [hread, hzero, Nat.zero_add]
  refine ⟨htotal .delivered, htotal .kinds, htotal .panics, fun label => ?_⟩
  exact (htotal (.kind label)).trans (Emission.total_kind label emissions)

/-- A handler that delivers an event in turn and then panics, and one that does nothing. -/
def relay : Bool → Event.Payload → Program Unit Bool
  | true, _ => .emit "b" default fun _ => .finish false
  | false, _ => .finish true

/-- The panic is that of the outer emit, and the delivery that of the one inside it. -/
example :
    let run : Program Unit Bool := .change (.add "a" (some .connected) true)
      (.change (.add "b" none false) (.emit "a" default fun _ => .finish true))
    let counted := (execute (nested relay 2) run ⟨Router.empty, {}, ()⟩).1.metrics
    counted.delivered = 1 ∧ counted.panics = 1 ∧ counted.byKind = [("native", 1)] := by
  decide +kernel

end Hub

end MqttRelay
