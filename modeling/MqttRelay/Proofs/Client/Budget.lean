import Mathlib.Algebra.GroupWithZero.Nat
import MqttRelay.Proofs.Client.Refusals
import MqttRelay.Proofs.Client.Succession

/-!
# A budget of retries

A connection is lost, and whatever is tried to get another one is refused on the spot. The client
tries as often as its options allow, each time after the delay that belongs to the attempt, and
then gives up.

* `State.GoesOn` — what a failure leads to: the next attempt is scheduled, or the client gives up.
* `Spent` — a task that does nothing any more.
* `Stage` — a client made so many attempts since it lost its connection, and either the next one
  waits for its time or nothing waits.
* `Exposed` — a connected client in a world in which connections are refused.

Results:
* `State.goesOn_of_lost`, `State.goesOn_of_failed`: the loss of a connection and the failure of an
  attempt lead on.
* `Stage.run`: each task leads to the same stage or to the next, and there is less to do.
* `Stage.settle`, `Stage.advance`: so the client makes all its attempts as time goes on.
* `spends_budget`: as many as allowed, each at its time, and then it has given up.
-/

namespace MqttRelay

/-! ## Delays -/

namespace Retry

/-- A source after a number of words were drawn from it. -/
def Random.after : Nat → Random → Random
  | 0, r => r
  | k + 1, r => (Random.after k r).next.2

/-- The word that is drawn from a source after a number of others. -/
def Random.word (k : Nat) (r : Random) : UInt64 := (r.after k).next.1

namespace Policy

/-- The delay before the attempt after `k` others of a cycle, in milliseconds, with the random
term of the word that is drawn for it. -/
def pause (p : Policy) (random : Random) (k : Nat) : Nat :=
  (delay p.firstMs (UInt32.ofNat (k + 1)) p.maxSecs
    (jitterTerm p.jitterMs (random.word k))).toNat

/-- When a cycle has made `k` attempts that failed at once: each attempt is made after its delay
from the failure before it. -/
def instant (p : Policy) (random : Random) (start : Nat) : Nat → Nat
  | 0 => start
  | k + 1 => p.instant random start k + p.pause random k

theorem exists_drawDelay (p : Policy) (random : Random) (k : Nat) :
    ∃ delay rest, p.drawDelay (UInt32.ofNat (k + 1)) (random.after k) = (delay, rest) ∧
      delay.toNat = p.pause random k ∧ rest = random.after (k + 1) :=
  ⟨_, _, rfl, rfl, rfl⟩

theorem instant_le (p : Policy) (random : Random) (start : Nat) {j k : Nat} (h : j ≤ k) :
    p.instant random start j ≤ p.instant random start k := by
  induction h with
  | refl => exact Nat.le_refl _
  | step _ ih => exact Nat.le_trans ih (Nat.le_add_right ..)

/-- A cycle goes on exactly as long as it has made fewer attempts than allowed. -/
theorem decide_of_budget {p : Policy} {most : UInt32} (hp : p.enabled = true)
    (hmost : p.maxAttempts = some most) {k : Nat} (hk : k ≤ most.toNat) :
    decide (UInt32.ofNat k) p =
      if k < most.toNat then .proceed (UInt32.ofNat (k + 1)) else .exhausted := by
  have hsize : most.toNat < 4294967296 := most.toNat_lt
  have hvalue : (UInt32.ofNat k).toNat = k :=
    UInt32.toNat_ofNat_of_lt' (by simp only [UInt32.size]; omega)
  unfold decide
  simp only [hp, hmost, Bool.not_true, Bool.false_eq_true, if_false, UInt32.le_iff_toNat_le, hvalue]
  by_cases h : k < most.toNat
  · have hnot : ¬ most.toNat ≤ k := by omega
    have hlast : UInt32.ofNat k ≠ 0xFFFFFFFF := fun he => by
      have := congrArg UInt32.toNat he
      rw [hvalue] at this
      have hmax : (0xFFFFFFFF : UInt32).toNat = 4294967295 := rfl
      omega
    simp only [hnot, if_false, hlast, h, if_true]
    rw [UInt32.ofNat_add]
    rfl
  · simp [h, show most.toNat ≤ k by omega]

end Policy

end Retry

namespace Client

/-! ## The state of a client that goes on trying -/

namespace State

/-- The client waits for the `k`-th attempt since its connection was lost in the state `lost`. -/
structure Awaits (lost : State Nat) (k : Nat) (s : State Nat) : Prop where
  options : s.options = lost.options
  status : s.status ≠ .connected
  interceptor : s.interceptor = none
  removed : s.removed = false
  count : s.retry.count = UInt32.ofNat k
  timer : s.retry.timer = true
  generation : s.retry.generation = lost.retry.generation + k
  inCycle : s.retry.inCycle = true
  random : s.random = lost.random.after k

/-- The client has given up after this many attempts. -/
structure GivenUp (lost : State Nat) (most : UInt32) (s : State Nat) : Prop where
  timer : s.retry.timer = false
  inCycle : s.retry.inCycle = false
  count : s.retry.count = most
  status : s.status = if most = 0 then .disconnected else .connecting
  generation : lost.retry.generation < s.retry.generation

/-- What comes of the loss of a connection, or of the failure of the last of `k` attempts: the next
attempt is scheduled, or the cycle is given up. -/
def GoesOn (lost : State Nat) (most : UInt32) (k : Nat) (r : State Nat × List Effect) : Prop :=
  ∃ o, (o = .connectionLost ∨ o = .connectFailed) ∧
    if k < most.toNat then
      lost.Awaits (k + 1) r.1 ∧
        r.2 = [.count o, .schedule (lost.retry.generation + (k + 1))
          ((Retry.Policy.ofOptions lost.options).pause lost.random k), .count .retryScheduled]
    else lost.GivenUp most r.1 ∧ r.2 = [.count o, .count .cycleAbandoned]

variable {lost s : State Nat} {most : UInt32} {k : Nat}

theorem GoesOn.not_reset {r : State Nat × List Effect} (h : GoesOn lost most k r) :
    Effect.count .reset ∉ r.2 := by
  obtain ⟨o, rfl | rfl, h⟩ := h <;> split at h <;> simp [h.2]

/-- The client may make this many attempts in a cycle. -/
structure Allows (lost : State Nat) (most : UInt32) : Prop where
  reconnects : lost.options.reconnects = true
  most : lost.options.retryCount = some most

/-- The plan of a client that may make this many attempts and has made `k` of them. -/
theorem plan_of_budget (h : s.Allows most) (hk : k ≤ most.toNat)
    (hcount : s.retry.count = UInt32.ofNat k) {delay : UInt64} {random : Retry.Random}
    (hdrawn : (Retry.Policy.ofOptions s.options).drawDelay (UInt32.ofNat (k + 1)) s.random =
      (delay, random)) :
    s.plan true =
      if k < most.toNat then
        ({ s with
            retry := { s.retry.cancelTimer with count := UInt32.ofNat (k + 1), timer := true }
            random := random },
          [.schedule (s.retry.generation + 1) delay.toNat, .count .retryScheduled])
      else (s.endCycle, [.count .cycleAbandoned]) := by
  have hdecide := Retry.Policy.decide_of_budget (p := .ofOptions s.options) h.reconnects h.most hk
  rw [plan, hcount, hdecide]
  split
  · next attempt hproceed =>
    split at hproceed
    · next hlt =>
      obtain rfl := Retry.Decision.proceed.inj hproceed
      rw [if_pos hlt, hdrawn]
      rfl
    · cases hproceed
  · next hexhausted =>
    split at hexhausted
    · cases hexhausted
    · next hlt => rw [if_neg hlt]
  · next hdisabled => split at hdisabled <;> cases hdisabled

/-- What comes of a failure, once it is entered. -/
theorem goesOn_plan (h : lost.Allows most) (hk : k ≤ most.toNat)
    (hoptions : s.options = lost.options)
    (hstatus : s.status = if k = 0 then .disconnected else .connecting)
    (hinterceptor : s.interceptor = none) (hremoved : s.removed = false)
    (hcount : s.retry.count = UInt32.ofNat k)
    (hgeneration : s.retry.generation = lost.retry.generation + k)
    (hinCycle : s.retry.inCycle = true) (hrandom : s.random = lost.random.after k)
    {o : Metrics.Occurrence} (ho : o = .connectionLost ∨ o = .connectFailed) :
    GoesOn lost most k ((s.plan true).1, .count o :: (s.plan true).2) := by
  refine ⟨o, ho, ?_⟩
  have hs : s.Allows most := ⟨hoptions ▸ h.reconnects, hoptions ▸ h.most⟩
  obtain ⟨delay, random, hdrawn, hdelay, hnext⟩ :=
    Retry.Policy.exists_drawDelay (.ofOptions s.options) lost.random k
  rw [plan_of_budget hs hk hcount (hrandom ▸ hdrawn)]
  split
  · refine ⟨⟨hoptions, ?_, hinterceptor, hremoved, rfl, rfl, ?_, hinCycle, hnext⟩, ?_⟩
    · dsimp only
      rw [hstatus]
      split <;> exact nofun
    · simp [RetryState.cancelTimer, hgeneration, Nat.add_assoc]
    · dsimp only
      rw [hdelay, hgeneration, hoptions, Nat.add_assoc]
  · next hge =>
    obtain rfl : k = most.toNat := by omega
    refine ⟨⟨rfl, rfl, ?_, ?_, ?_⟩, rfl⟩
    · rw [endCycle, RetryState.endCycle, RetryState.cancelTimer]
      exact hcount.trans UInt32.ofNat_toNat
    · refine hstatus.trans ?_
      simp only [← UInt32.toNat_inj, UInt32.toNat_zero]
    · change lost.retry.generation < s.retry.generation + 1
      omega

/-- The loss of a connection. -/
theorem goesOn_of_lost (h : lost.Allows most) (hsound : lost.Sound)
    (hstatus : lost.status = .connected) (hinterceptor : lost.interceptor = none)
    (reason : ReasonCode) : GoesOn lost most 0 (lost.ended true reason) := by
  have hremoved : lost.removed = false := by
    by_contra hr
    have := (hsound.ofRemoved (by simpa using hr)).1
    rw [hstatus] at this
    cases this
  obtain ⟨-, hcount⟩ := hsound.ofConnected hstatus
  have hended : lost.ended true reason =
      (((lost.noted reason true).plan true).1,
        .count .connectionLost :: ((lost.noted reason true).plan true).2) := by
    simp only [ended, hremoved, hstatus, Disconnect.kind, h.reconnects, if_true, noted]
    rfl
  rw [hended]
  refine goesOn_plan (s := lost.noted reason true) h (Nat.zero_le _) rfl ?_ hinterceptor hremoved
    hcount rfl rfl rfl (.inl rfl)
  simp [noted, hstatus, Status.afterDisconnected]

/-- A client whose attempt is made. -/
def trying (s : State Nat) : State Nat :=
  { s with retry := { s.retry with timer := false }, status := .connecting }

/-- The attempt that was waited for is made. -/
theorem fired_of_awaits (h : lost.Awaits k s) :
    s.fired (lost.retry.generation + k) =
      { state := s.trying
        effects := [.count .attempted]
        ask := some (.connect lost.options.parameters .retry) } := by
  simp [fired, answered, issue, h.removed, h.generation, h.status, h.interceptor, h.options,
    Options.mergeOpt, Status.mayConnect, trying]

/-- The failure of the attempt that was made. -/
theorem goesOn_of_failed (h : lost.Allows most) (hs : lost.Awaits (k + 1) s)
    (hk : k < most.toNat) (reason : ReasonCode) :
    GoesOn lost most (k + 1) (s.trying.ended true reason) := by
  obtain ⟨hoptions, -, hinterceptor, hremoved, hcount, -, hgeneration, hinCycle, hrandom⟩ := hs
  have hended : s.trying.ended true reason =
      (((s.trying.noted reason true).plan true).1,
        .count .connectFailed :: ((s.trying.noted reason true).plan true).2) := by
    simp only [ended, trying, hremoved, Disconnect.kind, hinCycle, noted]
    rfl
  rw [hended]
  exact goesOn_plan (s := s.trying.noted reason true) h hk hoptions rfl hinterceptor hremoved
    hcount hgeneration rfl hrandom (.inr rfl)

end State

open Native

variable {A : Type}

/-! ## Tasks -/

/-- A task that does nothing any more: a timer that was superseded, or a look at a construction that
came to its end. -/
def Spent (start : World Recorder A) (client generation : Nat) : Task → Prop
  | .fire d g =>
    if d = client then g ≤ generation
    else ∀ m, start.client? d = some m → m.state.removed = true ∨ m.state.retry.generation ≠ g
  | .await n => ∀ c, start.store.creations[n]? = some c → c.ended = true
  | _ => False

/-- A client that is set to the state that it has stays as it is. -/
theorem setState_self {w : World Recorder A} {client : Nat} {m : Member}
    (hm : w.client? client = some m) : w.setState client m.state = w := by
  have hclients : w.store.clients.modify client (fun k => { k with state := m.state }) =
      w.store.clients := by
    refine List.ext_getElem? fun d => ?_
    rw [List.getElem?_modify]
    by_cases hd : client = d
    · subst hd
      rw [show w.store.clients[client]? = some m from hm]
      simp
    · simp [hd]
  rw [World.setState, World.update, System.modifyClient, hclients]

/-- A superseded timer does nothing. -/
theorem fire_of_superseded {x : Surroundings Recorder A} {w : World Recorder A} {d g : Nat}
    (h : ∀ m, w.client? d = some m → m.state.removed = true ∨ m.state.retry.generation ≠ g) :
    Surroundings.run.fire x d g w = w := by
  unfold Surroundings.run.fire Outside.drive
  split
  · cases hm : w.client? d with
    | none => rfl
    | some m =>
      have hfired : m.state.fired g = { state := m.state } := by
        unfold State.fired
        rw [if_pos]
        obtain hr | hg := h m hm
        · simp [hr]
        · simp [hg]
      simp only [State.step, hfired]
      change ((w.pin d).setState d m.state).unpin d = w
      rw [setState_self (w := w.pin d) hm]
      simp [World.pin, World.unpin, World.update]
  · rfl

/-- A spent task does nothing. -/
theorem run_of_spent {x : Surroundings Recorder A} {start w : World Recorder A}
    {client generation : Nat} (haside : Aside client start w)
    (hclient : ∀ m, w.client? client = some m → generation < m.state.retry.generation) {t : Task}
    (ht : Spent start client generation t) : x.run t w = w := by
  cases t with
  | fire d g =>
    refine fire_of_superseded fun m hm => ?_
    simp only [Spent] at ht
    by_cases hd : d = client
    · rw [if_pos hd] at ht
      have := hclient m (hd ▸ hm)
      exact .inr (by omega)
    · rw [if_neg hd] at ht
      exact ht m ((haside.others d hd).symm.trans hm)
  | await n =>
    change w.await n = w
    unfold World.await
    rw [haside.creations]
    cases hc : start.store.creations[n]? with
    | none => simp
    | some c =>
      have hlook := World.look_of_ended n w c (by rw [haside.creations]; exact hc) (ht c hc)
      simp only [hlook]
  | _ => exact ht.elim

/-- A task that falls asleep stands among those that sleep, in the order of their times. -/
theorem insertSleeping_spec (due : Nat) (t : Task) {l : List (Nat × Task)}
    (h : l.Pairwise fun p q => p.1 ≤ q.1) :
    ∃ a b, l = a ++ b ∧ System.insertSleeping due t l = a ++ (due, t) :: b ∧
      (System.insertSleeping due t l).Pairwise fun p q => p.1 ≤ q.1 := by
  induction l with
  | nil => exact ⟨[], [], rfl, rfl, List.pairwise_singleton ..⟩
  | cons p l ih =>
    obtain ⟨hp, hl⟩ := List.pairwise_cons.1 h
    unfold System.insertSleeping
    split
    · next hlt =>
      refine ⟨[], p :: l, rfl, rfl, List.pairwise_cons.2 ⟨fun q hq => ?_, h⟩⟩
      obtain rfl | hq := List.mem_cons.1 hq
      · exact Nat.le_of_lt hlt
      · exact Nat.le_trans (Nat.le_of_lt hlt) (hp q hq)
    · next hge =>
      obtain ⟨a, b, rfl, hinsert, hsorted⟩ := ih hl
      refine ⟨p :: a, b, rfl, by rw [hinsert]; rfl, List.pairwise_cons.2 ⟨fun q hq => ?_, hsorted⟩⟩
      rw [hinsert] at hq
      obtain hq | hq := List.mem_append.1 hq
      · exact hp q (List.mem_append_left _ hq)
      · obtain rfl | hq := List.mem_cons.1 hq
        · exact Nat.le_of_not_lt hge
        · exact hp q (List.mem_append_right _ hq)

/-- How the next attempt of a client waits for its time, while all else that waits is spent. -/
inductive Waits (spent : Task → Prop) (client generation time : Nat) (s : System Recorder A) : Prop
  /-- Its turn will come: its timer has still to be started, or has fired. -/
  | turn (a b : List Task) (t : Task) (delay : Nat) (hready : s.ready = a ++ t :: b)
      (htask : t = .retry client generation delay ∨ t = .fire client generation ∧ delay = 0)
      (htime : time = s.now + delay) (hspent : ∀ u ∈ a ++ b, spent u)
      (hothers : ∀ p ∈ s.sleeping, spent p.2)
  /-- Its timer runs. -/
  | asleep (a b : List (Nat × Task))
      (hsleeping : s.sleeping = a ++ (time, .fire client generation) :: b)
      (htime : s.now ≤ time) (hspent : ∀ p ∈ a ++ b, spent p.2) (hothers : ∀ t ∈ s.ready, spent t)

namespace Waits

variable {spent : Task → Prop} {client generation time : Nat} {s : System Recorder A}

/-- The task whose turn it is is spent, or it is the one that is waited for. -/
theorem pop (h : Waits spent client generation time s) {t : Task} {ts : List Task}
    (hready : s.ready = t :: ts) :
    (spent t ∧ Waits spent client generation time { s with ready := ts }) ∨
      ∃ delay, (t = .retry client generation delay ∨ t = .fire client generation ∧ delay = 0) ∧
        time = s.now + delay ∧
        ∀ u ∈ ({ s with ready := ts } : System Recorder A).tasks, spent u := by
  obtain ⟨a, b, u, delay, hlist, htask, htime, hspent, hothers⟩ |
    ⟨a, b, hsleeping, htime, hspent, hothers⟩ := h
  · rw [hready] at hlist
    obtain _ | ⟨t', a⟩ := a
    · obtain ⟨rfl, rfl⟩ := List.cons.inj hlist
      refine .inr ⟨delay, htask, htime, fun v hv => ?_⟩
      obtain hv | hv := List.mem_append.1 hv
      · exact hspent v hv
      · obtain ⟨p, hp, rfl⟩ := List.mem_map.1 hv
        exact hothers p hp
    · obtain ⟨rfl, rfl⟩ := List.cons.inj hlist
      exact .inl ⟨hspent _ (by simp),
        .turn a b u delay rfl htask htime (fun v hv => hspent v (List.mem_cons_of_mem _ hv))
          hothers⟩
  · rw [hready] at hothers
    exact .inl ⟨hothers t (by simp),
      .asleep a b hsleeping htime hspent fun u hu => hothers u (List.mem_cons_of_mem _ hu)⟩

/-- The timer of the attempt is started. -/
theorem sleep (hspent : ∀ t ∈ s.tasks, spent t) (hsorted : s.sleeping.Pairwise fun p q => p.1 ≤ q.1)
    (delay : Nat) :
    Waits spent client generation (s.now + delay) (s.sleep delay (.fire client generation)) := by
  obtain ⟨a, b, hlist, hinsert, -⟩ :=
    insertSleeping_spec (s.now + delay) (.fire client generation) hsorted
  refine .asleep a b hinsert (Nat.le_add_right ..) (fun p hp => hspent p.2 ?_) fun t ht => ?_
  · exact List.mem_append_right _ (List.mem_map_of_mem (hlist ▸ hp))
  · exact hspent t (List.mem_append_left _ ht)

/-- While nothing has its turn, the first task to be due is due no later than the attempt. -/
theorem exists_due (h : Waits spent client generation time s) (hready : s.ready = [])
    (hsorted : s.sleeping.Pairwise fun p q => p.1 ≤ q.1) :
    ∃ due t rest, s.sleeping = (due, t) :: rest ∧ due ≤ time := by
  obtain ⟨a, b, u, delay, hlist, -⟩ | ⟨a, b, hlist, -⟩ := h
  · simp [hready] at hlist
  obtain _ | ⟨p, a⟩ := a
  · exact ⟨time, _, b, hlist, Nat.le_refl _⟩
  · rw [hlist] at hsorted
    exact ⟨p.1, p.2, _, hlist,
      (List.pairwise_cons.1 hsorted).1 (time, .fire client generation) (by simp)⟩

/-- The clock stops where a task is due, and those that are due are woken. -/
theorem wake (h : Waits spent client generation time s) (hready : s.ready = []) {due : Nat}
    {t : Task} {rest : List (Nat × Task)} (hsleeping : s.sleeping = (due, t) :: rest)
    (hsorted : s.sleeping.Pairwise fun p q => p.1 ≤ q.1) {now : Nat} (hnow : now = max s.now due) :
    Waits spent client generation time
      { s with
        now := now
        ready := s.ready ++ (s.sleeping.filter (·.1 ≤ now)).map (·.2)
        sleeping := s.sleeping.filter fun p => !(p.1 ≤ now) } := by
  have hdue : due ≤ time := by
    obtain ⟨_, _, _, hfirst, hle⟩ := h.exists_due hready hsorted
    rw [hsleeping] at hfirst
    cases hfirst
    exact hle
  obtain ⟨a, b, u, delay, hlist, -⟩ | ⟨a, b, hlist, htime, hspent, -⟩ := h
  · simp [hready] at hlist
  have hcases : ∀ p ∈ s.sleeping, p.1 = time ∨ spent p.2 := fun p hp => by
    rw [hlist] at hp
    obtain hp | hp := List.mem_append.1 hp
    · exact .inr (hspent p (List.mem_append_left _ hp))
    · obtain rfl | hp := List.mem_cons.1 hp
      · exact .inl rfl
      · exact .inr (hspent p (List.mem_append_right _ hp))
  by_cases hwakes : time ≤ now
  · refine .turn ((a.filter (·.1 ≤ now)).map (·.2)) ((b.filter (·.1 ≤ now)).map (·.2))
      (.fire client generation) 0 ?_ (.inr ⟨rfl, rfl⟩) ?_ ?_ ?_
    · simp [hready, hlist, hwakes]
    · dsimp only
      omega
    · simp only [← List.map_append, ← List.filter_append, List.mem_map, List.mem_filter]
      rintro _ ⟨p, ⟨hp, -⟩, rfl⟩
      exact hspent p hp
    · intro p hp
      obtain ⟨hp, hlate⟩ := List.mem_filter.1 hp
      refine (hcases p hp).resolve_left fun htime => ?_
      simp [htime, hwakes] at hlate
  · refine .asleep (a.filter fun p => !(p.1 ≤ now)) (b.filter fun p => !(p.1 ≤ now)) ?_ ?_ ?_ ?_
    · simp [hlist, hwakes]
    · dsimp only
      omega
    · simp only [← List.filter_append, List.mem_filter]
      exact fun p hp => hspent p hp.1
    · simp only [hready, List.nil_append, List.mem_map, List.mem_filter]
      rintro _ ⟨p, ⟨hp, hearly⟩, rfl⟩
      refine (hcases p hp).resolve_left fun htime => ?_
      simp [htime, hwakes] at hearly

end Waits

/-! ## Rounds -/

/-- When a client that loses its connection at a time makes its `k`-th attempt. -/
def Member.instant (m : Member) (start k : Nat) : Nat :=
  (Retry.Policy.ofOptions m.state.options).instant m.state.random start k

/-- The first attempts that a client makes after it lost its connection at a time, each with the
time at which it is made. -/
def Member.attempts (m : Member) (start count : Nat) : List (Nat × Request) :=
  (List.range count).map fun k =>
    (m.instant start (k + 1), .connect m.identity.clientId m.state.options.parameters)

/-- A client lost its connection in the world `start` and made `k` attempts since, all of which
failed. -/
structure Stage (start : World Recorder A) (client : Nat) (m : Member) (most : UInt32) (k : Nat)
    (w : World Recorder A) : Prop extends Aside client start w where
  bound : k ≤ most.toNat
  requests : requestsIn w.store.journal =
    requestsIn start.store.journal ++ m.attempts start.store.now k
  scheduled : w.metrics.scheduled = start.metrics.scheduled + min (k + 1) most.toNat
  abandoned : w.metrics.abandoned =
    start.metrics.abandoned + if k < most.toNat then 0 else 1
  sorted : w.store.sleeping.Pairwise fun p q => p.1 ≤ q.1
  course : ∃ s, w.client? client = some { m with state := s } ∧
    if k < most.toNat then
      m.state.Awaits (k + 1) s ∧
        Waits (Spent start client m.state.retry.generation) client
          (m.state.retry.generation + (k + 1)) (m.instant start.store.now (k + 1)) w.store
    else
      m.state.GivenUp most s ∧
        ∀ t ∈ w.store.tasks, Spent start client m.state.retry.generation t

/-- A client whose connection was lost in the world `start` makes its `k`-th attempt by these
requests, which fails; the loss itself counts as the failure of an attempt that needed none. -/
structure Failing (start : World Recorder A) (client : Nat) (m : Member) (k : Nat) (s : State Nat)
    (requests : List Request) (w : World Recorder A) : Prop extends Aside client start w where
  member : w.client? client = some { m with state := s }
  spent : ∀ t ∈ w.store.tasks, Spent start client m.state.retry.generation t
  sorted : w.store.sleeping.Pairwise fun p q => p.1 ≤ q.1
  now : w.store.now = m.instant start.store.now k
  requests : requestsIn w.store.journal ++ requests.map (w.store.now, ·) =
    requestsIn start.store.journal ++ m.attempts start.store.now k
  scheduled : w.metrics.scheduled = start.metrics.scheduled + k
  abandoned : w.metrics.abandoned = start.metrics.abandoned

/-- How many turns a task takes at most: a retry has a turn before it sleeps and one after. -/
def Task.turns : Task → Nat
  | .retry .. => 2
  | _ => 1

/-- How many turns are left for the tasks there are, and for a client that may make this many
attempts and made `k`. -/
def work (most : UInt32) (k : Nat) (s : System Recorder A) : Nat :=
  (s.tasks.map Task.turns).sum + 2 * (most.toNat - k)

/-- A task whose turn has come takes turns. -/
theorem work_cons (most : UInt32) (k : Nat) {w : World Recorder A} {t : Task} {ts : List Task}
    (hready : w.store.ready = t :: ts) :
    work most k w.store =
      work most k (w.update fun s => { s with ready := ts }).store + t.turns := by
  simp only [work, World.update, System.tasks, hready, List.cons_append, List.map_cons,
    List.sum_cons]
  omega

/-- A task that sleeps takes turns. -/
theorem work_sleep (most : UInt32) (k : Nat) (s : System Recorder A) (delay : Nat) (t : Task) :
    work most k (s.sleep delay t) = work most k s + t.turns := by
  have hsum (due : Nat) (l : List (Nat × Task)) :
      (((System.insertSleeping due t l).map (·.2)).map Task.turns).sum =
        ((l.map (·.2)).map Task.turns).sum + t.turns := by
    induction l with
    | nil => simp [System.insertSleeping]
    | cons p l ih =>
      unfold System.insertSleeping
      split
      · simp only [List.map_cons, List.sum_cons]
        omega
      · simp only [List.map_cons, List.sum_cons, ih]
        omega
  simp only [work, System.sleep, System.tasks, List.map_append, List.sum_append, hsum]
  omega

/-- A task that is woken takes the turns that it took before. -/
theorem work_wakeDue (most : UInt32) (k : Nat) (w : World Recorder A) :
    work most k (Surroundings.wakeDue w).store = work most k w.store := by
  have hperm : (Surroundings.wakeDue w).store.tasks.Perm w.store.tasks := by
    simp only [Surroundings.wakeDue, World.update, System.tasks, List.append_assoc,
      ← List.map_append]
    exact List.Perm.append_left _ ((List.filter_append_perm _ _).map _)
  rw [work, (hperm.map _).sum_nat, work]

theorem Task.turns_pos (t : Task) : 0 < t.turns := by
  cases t <;> simp [turns]

/-- A client is connected, may make this many attempts without asking an interceptor, and is moved
when its connection is lost; connections are refused for a reason, callbacks ask for nothing, and
nothing else waits. The state of a client is sound in every orderly world. -/
structure Exposed (x : Surroundings Recorder A) (w : World Recorder A) (client : Nat) (m : Member)
    (most : UInt32) (reason : ReasonCode) : Prop where
  layer : x.layer = Recorder.layer
  silent : x.Silent
  behavior : w.store.native.behavior = .refuse reason
  failing : Native.Operation.connect ∉ w.store.native.failing
  runtime : w.store.runtime = true
  member : w.client? client = some m
  connected : m.state.status = .connected
  interceptor : m.state.interceptor = none
  allows : m.state.Allows most
  sound : m.state.Sound
  keeps : w.store.keeps client = true
  follows : Follows client m.identity.clientId w.router
  spent : ∀ t ∈ w.store.tasks, Spent w client m.state.retry.generation t
  sorted : w.store.sleeping.Pairwise fun p q => p.1 ≤ q.1

namespace Stage

variable {start u v w : World Recorder A} {client : Nat} {m : Member} {most : UInt32} {k : Nat}

/-- The failure leads to the next stage. -/
theorem of_failing {s : State Nat} {requests : List Request}
    (h : Failing start client m k s requests u) (hbound : k ≤ most.toNat)
    {r : State Nat × List Effect} (hr : m.state.GoesOn most k r) (attempted : List Effect)
    (hattempted : ∀ e ∈ attempted, e = .count .attempted)
    (hb : Becomes client u v r.1 (attempted ++ r.2) requests) :
    Stage start client m most k v ∧ v.store.now = u.store.now ∧
      work most k v.store ≤ work most k u.store + 2 := by
  have hnone : attempted.filterMap (Effect.task? client) = [] :=
    List.filterMap_eq_nil_iff.2 fun e he => by rw [hattempted e he]; rfl
  have hcount {e : Effect} (he : e ≠ .count .attempted) :
      (attempted ++ r.2).count e = r.2.count e := by
    rw [List.count_append, List.count_eq_zero_of_not_mem fun hmem => he (hattempted e hmem),
      Nat.zero_add]
  have hready := hb.ready
  rw [List.filterMap_append, hnone, List.nil_append] at hready
  have hscheduled := hb.scheduled
  rw [hcount (by decide), h.scheduled] at hscheduled
  have habandoned := hb.abandoned
  rw [hcount (by decide), h.abandoned] at habandoned
  have hspent (t : Task) (ht : t ∈ u.store.tasks) := h.spent t ht
  have hmember := hb.member _ h.member
  obtain ⟨o, ho, hr⟩ := hr
  split at hr
  · next hlt =>
    obtain ⟨hawaits, heffects⟩ := hr
    rw [heffects] at hready hscheduled habandoned
    obtain ⟨delay, hdelay⟩ : ∃ delay, delay =
        (Retry.Policy.ofOptions m.state.options).pause m.state.random k := ⟨_, rfl⟩
    have hlater : m.instant start.store.now (k + 1) = u.store.now + delay := by
      rw [hdelay, h.now]
      rfl
    rw [← hdelay] at hready
    replace hready : v.store.ready =
        u.store.ready ++ [.retry client (m.state.retry.generation + (k + 1)) delay] := hready
    refine ⟨⟨h.toAside.trans hb.toAside, hbound, ?_, ?_, ?_, ?_, r.1, hmember, ?_⟩, hb.now, ?_⟩
    · exact hb.requests.trans h.requests
    · rw [hscheduled]
      obtain rfl | rfl := ho <;> simp <;> omega
    · rw [habandoned, if_pos hlt]
      obtain rfl | rfl := ho <;> simp
    · exact hb.sleeping ▸ h.sorted
    · rw [if_pos hlt]
      refine ⟨hawaits, .turn u.store.ready [] _ delay hready (.inl rfl) ?_ ?_ ?_⟩
      · rw [hlater, hb.now]
      · intro t ht
        exact hspent t (List.mem_append_left _ (by simpa using ht))
      · intro p hp
        rw [hb.sleeping] at hp
        exact hspent p.2 (List.mem_append_right _ (List.mem_map_of_mem hp))
    · simp [work, System.tasks, hready, hb.sleeping, Task.turns]
      omega
  · next hge =>
    obtain ⟨hgiven, heffects⟩ := hr
    rw [heffects] at hready hscheduled habandoned
    replace hready : v.store.ready = u.store.ready := hready.trans (List.append_nil _)
    refine ⟨⟨h.toAside.trans hb.toAside, hbound, ?_, ?_, ?_, ?_, r.1, hmember, ?_⟩, hb.now, ?_⟩
    · exact hb.requests.trans h.requests
    · rw [hscheduled]
      obtain rfl | rfl := ho <;> simp <;> omega
    · rw [habandoned, if_neg hge]
      obtain rfl | rfl := ho <;> simp
    · exact hb.sleeping ▸ h.sorted
    · rw [if_neg hge]
      refine ⟨hgiven, fun t ht => hspent t ?_⟩
      rw [System.tasks, hready, hb.sleeping] at ht
      exact ht
    · simp [work, System.tasks, hready, hb.sleeping]

variable {x : Surroundings Recorder A} {reason : ReasonCode}

/-- The loss of the connection leads to the first stage. -/
theorem of_exposed (h : Exposed x start client m most reason) (payload : Event.Payload)
    (hv : v = (x.deliver ⟨.client m.identity.clientId .disconnected, payload⟩ start).1) :
    Stage start client m most 0 v ∧ v.store.now = start.store.now ∧
      work most 0 v.store ≤ work most 0 start.store + 2 := by
  have hgoes := State.goesOn_of_lost h.allows h.sound h.connected h.interceptor
    (payload.decodeD Event.Disconnected.read {}).reason
  have hb := Surroundings.becomes_deliver h.silent h.member h.keeps h.follows payload
    (by rw [h.runtime]) hgoes.not_reset
  rw [← hv] at hb
  have hfailing : Failing start client m 0 m.state [] start :=
    ⟨Aside.refl client start, h.member, h.spent, h.sorted, rfl, rfl, rfl, rfl⟩
  exact of_failing hfailing (Nat.zero_le _) hgoes [] (by simp) hb

/-- The client is ahead of all timers that are spent. -/
theorem generation_lt (h : Stage start client m most k w) {n : Member}
    (hn : w.client? client = some n) : m.state.retry.generation < n.state.retry.generation := by
  obtain ⟨s, hs, hcourse⟩ := h.course
  obtain rfl := Option.some.inj (hn.symm.trans hs)
  split at hcourse
  · have := hcourse.1.generation
    dsimp only
    omega
  · exact hcourse.1.generation

/-- A task whose turn has come is taken out of the queue. -/
theorem pop {t : Task} {ts : List Task} (hready : w.store.ready = t :: ts)
    (h : Stage start client m most k w) :
    (x.run t (w.update fun s => { s with ready := ts }) =
        w.update (fun s => { s with ready := ts }) ∧
      Stage start client m most k (w.update fun s => { s with ready := ts })) ∨
    ∃ s delay, k < most.toNat ∧ w.client? client = some { m with state := s } ∧
      m.state.Awaits (k + 1) s ∧
      (t = .retry client (m.state.retry.generation + (k + 1)) delay ∨
        t = .fire client (m.state.retry.generation + (k + 1)) ∧ delay = 0) ∧
      m.instant start.store.now (k + 1) = w.store.now + delay ∧
      ∀ u ∈ (w.update fun s => { s with ready := ts }).store.tasks,
        Spent start client m.state.retry.generation u := by
  have haside : Aside client start (w.update fun s => { s with ready := ts }) :=
    h.toAside.trans ⟨rfl, rfl, rfl, rfl, rfl, rfl, fun _ _ => rfl⟩
  have hrun (ht : Spent start client m.state.retry.generation t) :
      x.run t (w.update fun s => { s with ready := ts }) =
        w.update (fun s => { s with ready := ts }) :=
    run_of_spent haside (fun _ hn => h.generation_lt hn) ht
  obtain ⟨s, hs, hcourse⟩ := h.course
  split at hcourse
  · next hlt =>
    obtain ⟨hawaits, hwaits⟩ := hcourse
    obtain ⟨ht, hwaits⟩ | ⟨delay, ht, htime, hrest⟩ := hwaits.pop hready
    · refine .inl ⟨hrun ht, haside, h.bound, h.requests, h.scheduled, h.abandoned, h.sorted, s, hs,
        ?_⟩
      rw [if_pos hlt]
      exact ⟨hawaits, hwaits⟩
    · exact .inr ⟨s, delay, hlt, hs, hawaits, ht, htime, hrest⟩
  · next hge =>
    obtain ⟨hgiven, hspent⟩ := hcourse
    refine .inl ⟨hrun (hspent t (by simp [System.tasks, hready])), haside, h.bound, h.requests,
      h.scheduled, h.abandoned, h.sorted, s, hs, ?_⟩
    rw [if_neg hge]
    refine ⟨hgiven, fun t ht => hspent t ?_⟩
    rw [System.tasks, hready]
    exact List.mem_cons_of_mem _ ht

/-- The attempt that was waited for is made and fails. -/
theorem fire (he : Exposed x start client m most reason) (h : Stage start client m most k w)
    {s : State Nat} (hlt : k < most.toNat) (hs : w.client? client = some { m with state := s })
    (hawaits : m.state.Awaits (k + 1) s) (hnow : m.instant start.store.now (k + 1) = w.store.now)
    {ts : List Task} (hu : u = w.update fun s => { s with ready := ts })
    (hspent : ∀ t ∈ u.store.tasks, Spent start client m.state.retry.generation t)
    (hv : v = Surroundings.run.fire x client (m.state.retry.generation + (k + 1)) u) :
    Stage start client m most (k + 1) v ∧ v.store.now = w.store.now ∧
      work most (k + 1) v.store ≤ work most (k + 1) u.store + 2 := by
  subst hu
  have hgoes := State.goesOn_of_failed he.allows hawaits hlt
    ((Event.Disconnected.mk reason none).payload.decodeD Event.Disconnected.read {}).reason
  have haside : Aside client start (w.update fun s => { s with ready := ts }) :=
    h.toAside.trans ⟨rfl, rfl, rfl, rfl, rfl, rfl, fun _ _ => rfl⟩
  have hb := Surroundings.becomes_fire he.silent he.layer (haside.behavior.trans he.behavior)
    (haside.failing ▸ he.failing) hs (haside.keeps.trans he.keeps) (haside.router ▸ he.follows)
    (State.fired_of_awaits hawaits) (by rw [haside.runtime, he.runtime]) hgoes.not_reset
  rw [← hv] at hb
  have hscheduled := h.scheduled
  rw [Nat.min_eq_left (by omega)] at hscheduled
  have habandoned := h.abandoned
  rw [if_pos hlt] at habandoned
  have hfailing : Failing start client m (k + 1) s
      [.connect m.identity.clientId m.state.options.parameters]
      (w.update fun s => { s with ready := ts }) := by
    refine ⟨haside, hs, hspent, h.sorted, hnow.symm, ?_, hscheduled, habandoned⟩
    change requestsIn w.store.journal ++ [(w.store.now, _)] = _
    rw [h.requests, Member.attempts, Member.attempts, List.range_succ, List.map_append,
      List.append_assoc, ← hnow]
    rfl
  exact of_failing hfailing hlt hgoes [.count .attempted] (by simp) hb

/-- The timer of the attempt that is waited for is started. -/
theorem sleep (h : Stage start client m most k w) {s : State Nat} (hlt : k < most.toNat)
    (hs : w.client? client = some { m with state := s }) (hawaits : m.state.Awaits (k + 1) s)
    {delay : Nat} (htime : m.instant start.store.now (k + 1) = w.store.now + delay)
    {ts : List Task} (hu : u = w.update fun s => { s with ready := ts })
    (hspent : ∀ t ∈ u.store.tasks, Spent start client m.state.retry.generation t) :
    Stage start client m most k
      (u.update (·.sleep delay (.fire client (m.state.retry.generation + (k + 1))))) := by
  subst hu
  obtain ⟨_, _, _, _, hsorted⟩ := insertSleeping_spec (w.store.now + delay)
    (.fire client (m.state.retry.generation + (k + 1))) h.sorted
  refine ⟨h.toAside.trans ⟨rfl, rfl, rfl, rfl, rfl, rfl, fun _ _ => rfl⟩, h.bound, h.requests,
    h.scheduled, h.abandoned, hsorted, s, hs, ?_⟩
  rw [if_pos hlt, htime]
  exact ⟨hawaits, Waits.sleep hspent h.sorted delay⟩

/-- With each task there is less to do, and the clock stands. -/
theorem run (he : Exposed x start client m most reason) (h : Stage start client m most k w)
    {t : Task} {ts : List Task} (hready : w.store.ready = t :: ts) :
    ∃ j v, x.run t (w.update fun s => { s with ready := ts }) = v ∧
      Stage start client m most j v ∧ v.store.now = w.store.now ∧
      work most j v.store < work most k w.store := by
  obtain ⟨u, hu⟩ : ∃ u : World Recorder A, u = w.update fun s => { s with ready := ts } :=
    ⟨_, rfl⟩
  have hwork := work_cons most k hready
  have hpos := t.turns_pos
  obtain ⟨hrun, hstage⟩ | ⟨s, delay, hlt, hs, hawaits, ht, htime, hspent⟩ := h.pop hready (x := x)
  · exact ⟨k, _, hrun, hstage, rfl, by omega⟩
  rw [← hu] at hspent hwork ⊢
  by_cases hdelay : delay = 0
  · have hrun : x.run t u =
        Surroundings.run.fire x client (m.state.retry.generation + (k + 1)) u := by
      obtain rfl | ⟨rfl, -⟩ := ht
      · simp [Surroundings.run, hdelay]
      · rfl
    obtain ⟨hstage, hnow, hwork'⟩ :=
      h.fire he hlt hs hawaits (by rw [htime, hdelay, Nat.add_zero]) hu hspent hrun
    refine ⟨k + 1, _, rfl, hstage, hnow, ?_⟩
    simp only [work] at hwork hwork' ⊢
    omega
  · obtain rfl : t = .retry client (m.state.retry.generation + (k + 1)) delay :=
      ht.resolve_right fun hfire => hdelay hfire.2
    refine ⟨k, _, rfl, ?_, ?_, ?_⟩ <;> simp only [Surroundings.run, hdelay, if_false]
    · exact h.sleep hlt hs hawaits htime hu hspent
    · rw [hu]
      rfl
    · rw [World.update, work_sleep, hwork]
      exact Nat.add_lt_add_left Nat.one_lt_two _

/-- When all tasks whose turn had come are done, the clock stands where it stood. -/
theorem settle (he : Exposed x start client m most reason) (fuel : Nat)
    (h : Stage start client m most k w) (hfuel : work most k w.store ≤ fuel) :
    ∃ j, Stage start client m most j (x.settle fuel w) ∧ (x.settle fuel w).store.ready = [] ∧
      (x.settle fuel w).store.now = w.store.now ∧
      work most j (x.settle fuel w).store ≤ work most k w.store ∧
      (w.store.ready ≠ [] → work most j (x.settle fuel w).store < work most k w.store) := by
  induction fuel generalizing k w with
  | zero =>
    have hready : w.store.ready = [] := by
      cases hready : w.store.ready with
      | nil => rfl
      | cons t ts =>
        have := t.turns_pos
        have := work_cons most k hready
        omega
    exact ⟨k, h, hready, rfl, Nat.le_refl _, fun hne => absurd hready hne⟩
  | succ fuel ih =>
    unfold Surroundings.settle
    split
    · next hready => exact ⟨k, h, hready, rfl, Nat.le_refl _, fun hne => absurd hready hne⟩
    · next t ts hready =>
      obtain ⟨j, v, hrun, hstage, hnow, hwork⟩ := h.run he hready
      rw [hrun]
      obtain ⟨i, hi, hidle, hnow', hwork', -⟩ := ih hstage (by omega)
      exact ⟨i, hi, hidle, hnow'.trans hnow, by omega, fun _ => by omega⟩

/-- The clock stops where the next task is due, and the tasks that are due are woken. -/
theorem wake (h : Stage start client m most k w) (hready : w.store.ready = []) {due : Nat}
    {t : Task} {rest : List (Nat × Task)} (hsleeping : w.store.sleeping = (due, t) :: rest)
    (hv : v = Surroundings.wakeDue (w.update fun s => { s with now := max s.now due })) :
    Stage start client m most k v ∧ work most k v.store ≤ work most k w.store ∧
      v.store.ready ≠ [] := by
  obtain ⟨now, hnow⟩ : ∃ now, now = max w.store.now due := ⟨_, rfl⟩
  have hstore : v.store =
      { w.store with
        now := now
        ready := w.store.ready ++ (w.store.sleeping.filter (·.1 ≤ now)).map (·.2)
        sleeping := w.store.sleeping.filter fun p => !(p.1 ≤ now) } := by
    rw [hv, hnow]
    rfl
  have haside : Aside client w v := by
    rw [hv]
    exact ⟨rfl, rfl, rfl, rfl, rfl, rfl, fun _ _ => rfl⟩
  have hmetrics : v.metrics = w.metrics := by
    rw [hv]
    rfl
  refine ⟨⟨h.toAside.trans haside, h.bound, ?_, ?_, ?_, ?_, ?_⟩, ?_, ?_⟩
  · rw [hstore]
    exact h.requests
  · rw [hmetrics]
    exact h.scheduled
  · rw [hmetrics]
    exact h.abandoned
  · rw [hstore]
    exact h.sorted.filter _
  · obtain ⟨s, hs, hcourse⟩ := h.course
    refine ⟨s, ?_, ?_⟩
    · rw [World.client?, hstore]
      exact hs
    · split at hcourse
      · next hlt =>
        rw [if_pos hlt, hstore]
        exact ⟨hcourse.1, hcourse.2.wake hready hsleeping h.sorted hnow⟩
      · next hge =>
        rw [if_neg hge, hstore]
        refine ⟨hcourse.1, fun u hu => hcourse.2 u ?_⟩
        simp only [System.tasks, List.mem_append, List.mem_map, List.mem_filter] at hu ⊢
        obtain (hu | ⟨p, ⟨hp, -⟩, rfl⟩) | ⟨p, ⟨hp, -⟩, rfl⟩ := hu
        · exact .inl hu
        · exact .inr ⟨p, hp, rfl⟩
        · exact .inr ⟨p, hp, rfl⟩
  · rw [hv, work_wakeDue]
    exact Nat.le_refl _
  · have hfirst : due ≤ now := hnow ▸ Nat.le_max_right ..
    rw [hstore, hready, hsleeping, List.filter_cons_of_pos (by simpa using hfirst)]
    simp

/-- A client that waits for no attempt has made them all, whatever the time. -/
theorem moved (h : Stage start client m most k w) (hk : k = most.toNat) (target : Nat) :
    Stage start client m most most.toNat (w.update fun s => { s with now := target }) := by
  subst hk
  refine ⟨h.toAside.trans ⟨rfl, rfl, rfl, rfl, rfl, rfl, fun _ _ => rfl⟩, h.bound, h.requests,
    h.scheduled, h.abandoned, h.sorted, ?_⟩
  obtain ⟨s, hs, hcourse⟩ := h.course
  refine ⟨s, hs, ?_⟩
  rw [if_neg (Nat.lt_irrefl _)] at hcourse ⊢
  exact hcourse

/-- When the clock was moved on far enough, the client has made all its attempts. -/
theorem advance (he : Exposed x start client m most reason) (fuel target : Nat)
    (h : Stage start client m most k w) (hready : w.store.ready = [])
    (hfuel : work most k w.store ≤ fuel)
    (htarget : m.instant start.store.now most.toNat ≤ target) :
    Stage start client m most most.toNat (x.advance target fuel w) := by
  have hbound := h.bound
  induction fuel generalizing k w with
  | zero =>
    refine h.moved ?_ target
    simp only [work] at hfuel
    omega
  | succ fuel ih =>
    -- An attempt that is waited for is due before the clock stands where it is to be moved.
    have hover (hlate : ∀ due t rest, w.store.sleeping = (due, t) :: rest → target < due) :
        k = most.toNat := by
      obtain ⟨s, -, hcourse⟩ := h.course
      split at hcourse
      · next hlt =>
        obtain ⟨due, t, rest, hsleeping, hdue⟩ := hcourse.2.exists_due hready h.sorted
        have := hlate due t rest hsleeping
        have := Retry.Policy.instant_le (.ofOptions m.state.options) m.state.random
          start.store.now (show k + 1 ≤ most.toNat from hlt)
        simp only [Member.instant] at hdue htarget
        omega
      · omega
    unfold Surroundings.advance
    split
    · next due t rest hsleeping =>
      split
      · next hdue =>
        obtain ⟨v, hv⟩ : ∃ v, v =
            Surroundings.wakeDue (w.update fun s => { s with now := max s.now due }) := ⟨_, rfl⟩
        rw [← hv]
        obtain ⟨hwoken, hwork, hbusy⟩ := h.wake hready hsleeping hv
        obtain ⟨j, hsettled, hidle, -, -, hless⟩ := hwoken.settle he _ (Nat.le_trans hwork hfuel)
        have := hless hbusy
        exact ih hsettled hidle (by omega) hsettled.bound
      · next hdue =>
        refine h.moved (hover fun due' t' rest' hsleeping' => ?_) target
        rw [hsleeping] at hsleeping'
        cases hsleeping'
        omega
    · next hsleeping =>
      exact h.moved (hover fun due t rest hne => by simp [hsleeping] at hne) target

end Stage

/-- A client loses its connection, and every further attempt is refused on the spot. It makes as
many attempts as its options allow, each of them after its delay, and gives up; nothing but spent
tasks is left. -/
theorem spends_budget {x : Surroundings Recorder A} {w v : World Recorder A} {client : Nat}
    {m : Member} {most : UInt32} {reason : ReasonCode} (h : Exposed x w client m most reason)
    (payload : Event.Payload) (fuel target : Nat)
    (hfuel : w.store.tasks.length + 2 * most.toNat + 2 ≤ fuel)
    (htarget : m.instant w.store.now most.toNat ≤ target)
    (hv : v = x.advance target fuel
      (x.settle fuel (x.deliver ⟨.client m.identity.clientId .disconnected, payload⟩ w).1)) :
    requestsIn v.store.journal =
        requestsIn w.store.journal ++ m.attempts w.store.now most.toNat ∧
      (∃ s, v.client? client = some { m with state := s } ∧ s.retry.timer = false ∧
        s.retry.inCycle = false ∧ s.retry.count = most ∧
        s.status = if most = 0 then .disconnected else .connecting) ∧
      v.metrics.scheduled = w.metrics.scheduled + most.toNat ∧
      v.metrics.abandoned = w.metrics.abandoned + 1 ∧
      ∀ t ∈ v.store.tasks, Spent w client m.state.retry.generation t := by
  have hturns : (w.store.tasks.map Task.turns).sum = w.store.tasks.length := by
    have hone : ∀ t ∈ w.store.tasks, t.turns = 1 := fun t ht => by
      have hspent := h.spent t ht
      cases t <;> first | rfl | exact hspent.elim
    rw [List.map_congr_left (g := fun _ => 1) hone, List.map_const', List.sum_replicate_nat,
      Nat.mul_one]
  obtain ⟨hlost, -, hwork⟩ := Stage.of_exposed h payload rfl
  obtain ⟨k, hsettled, hidle, -, hwork', -⟩ :=
    hlost.settle h fuel (by simp only [work] at hwork ⊢; omega)
  have hover := hsettled.advance h fuel target hidle
    (by simp only [work] at hwork hwork' ⊢; omega) htarget
  rw [← hv] at hover
  obtain ⟨s, hs, hcourse⟩ := hover.course
  rw [if_neg (Nat.lt_irrefl _)] at hcourse
  obtain ⟨hgiven, hspent⟩ := hcourse
  refine ⟨hover.requests, ⟨s, hs, hgiven.timer, hgiven.inCycle, hgiven.count, hgiven.status⟩, ?_,
    ?_, hspent⟩
  · rw [hover.scheduled, Nat.min_eq_right (Nat.le_succ _)]
  · rw [hover.abandoned, if_neg (Nat.lt_irrefl _)]

/-! ## A budget of two -/

/-- A client that may make two attempts, without random delays, is connected, and further
connections are refused. -/
def refusing : World Recorder Unit :=
  let config : Config :=
    { clientId := "x", host := "broker.test", port := 1883
      options := { autoReconnect := some true, retryCount := some 2, backoffTime := some 1000,
                   jitter := some 0 } }
  let connected := [.create (.name "a") config, .perform (.connect 0 none)].foldl
    (fun w h => (Surroundings.quiet Recorder.layer).happen h w)
    { store := { native := { behavior := .accept }, app := () } }
  connected.update fun s => { s with native := { s.native with behavior := .refuse (.ofInt 135) } }

/-- The client that is connected. -/
def refusedMember : Member := (refusing.client? 0).get (by decide +kernel)

theorem exposed_refusing :
    Exposed (Surroundings.quiet Recorder.layer) refusing 0 refusedMember 2 (.ofInt 135) where
  layer := rfl
  silent _ _ w := Still.refl w
  behavior := by decide +kernel
  failing := by decide +kernel
  runtime := by decide +kernel
  member := by rw [refusedMember, Option.some_get]
  connected := by decide +kernel
  interceptor := by decide +kernel
  allows := ⟨by decide +kernel, by decide +kernel⟩
  sound := ⟨fun h => by revert h; decide +kernel, fun _ => by decide +kernel⟩
  keeps := by decide +kernel
  follows := ⟨[], ⟨3, some .disconnected, .lose 0⟩, [], by rfl, rfl, by decide +kernel, nofun⟩
  spent t ht := by
    have htasks : refusing.store.tasks = [.await 0] := by decide +kernel
    obtain rfl := List.mem_singleton.1 (htasks ▸ ht)
    intro c hc
    have hended : (refusing.store.creations[0]?).all (·.ended) = true := by decide +kernel
    rw [hc] at hended
    exact hended
  sorted := by decide +kernel

/-- The client makes its two attempts, the first after two seconds and the other after four more. -/
theorem spends_budget_of_two :
    let payload := (Event.Disconnected.mk .connectionError none).payload
    let x : Surroundings Recorder Unit := .quiet Recorder.layer
    let v := x.advance 6000 10
      (x.settle 10 (x.deliver ⟨.client "x" .disconnected, payload⟩ refusing).1)
    let parameters := refusedMember.state.options.parameters
    requestsIn v.store.journal = requestsIn refusing.store.journal ++
        [(2000, .connect "x" parameters), (6000, .connect "x" parameters)] ∧
      (v.client? 0).map (fun m => (m.state.retry.count, m.state.status)) =
        some (2, .connecting) := by
  intro payload x v parameters
  have hattempts : refusedMember.attempts 0 2 =
      [(2000, .connect "x" parameters), (6000, .connect "x" parameters)] := by
    decide +kernel
  obtain ⟨hrequests, ⟨s, hs, -, -, hcount, hstatus⟩, -⟩ :=
    spends_budget exposed_refusing payload 10 6000
      (by decide +kernel) (by decide +kernel) (show v = _ from rfl)
  refine ⟨?_, ?_⟩
  · rw [hrequests]
    exact congrArg _ hattempts
  · rw [hs, Option.map_some, hcount, hstatus]
    rfl

end Client

end MqttRelay
