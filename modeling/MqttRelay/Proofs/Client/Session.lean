import MqttRelay.Proofs.Client.Generation

/-!
# Sessions

A client together with what it started and has not heard of since: the timers that may fire and
the questions that interceptors may come back to. A run is any list of turns. A timer that was
never started does not fire, and a question that was never asked is not answered; apart from
that, everything happens in any order, and a superseded timer may still fire.

Results:
* `Session.sound_after`: what is out never belongs to a later generation than the present one,
  which has at most one timer or question out, and only in an open cycle.
* `Session.stretches_eq_append`: a part of a run is the run of a part of its turns.
-/

namespace MqttRelay.Client

variable {I : Type}

/-- What happens to a client at one time: an input, with a runtime to schedule on or without
one, or an interceptor that is installed or taken out. -/
inductive Turn (I : Type) where
  | input (runtime : Bool) (i : Input)
  | install (number : Nat) (interceptor : I)
  | uninstall (number : Nat)

namespace Turn

/-- The generation whose timer fires. -/
def timer? : Turn I → Option Nat
  | input _ i => i.timer?
  | _ => none

/-- The generation whose interceptor comes back. -/
def question? : Turn I → Option Nat
  | input _ i => i.question?
  | _ => none

/-- The generation whose timer fires or whose interceptor comes back. -/
def generation? (t : Turn I) : Option Nat := t.timer? <|> t.question?

/-- The state of a client after a turn. -/
def apply (s : State I) : Turn I → State I
  | input runtime i => (s.step runtime i).state
  | install number interceptor => s.install number interceptor
  | uninstall number => s.uninstall number

theorem question?_of_timer? {t : Turn I} {g : Nat} (h : t.timer? = some g) :
    t.question? = none := by
  cases t with
  | input runtime i => cases i <;> first | rfl | cases h
  | install number interceptor => rfl
  | uninstall number => rfl

end Turn

namespace State

/-- Every turn keeps a client sound. -/
theorem Sound.apply {s : State I} (h : s.Sound) (t : Turn I) : (t.apply s).Sound := by
  cases t with
  | input runtime i => exact h.step runtime i
  | install number interceptor => exact ⟨h.ofRemoved, h.ofConnected⟩
  | uninstall number =>
    dsimp only [Turn.apply, State.uninstall]
    split
    · split
      · exact ⟨h.ofRemoved, h.ofConnected⟩
      · exact h
    · exact h

end State

/-- A client with the generations of what it started and has not heard of since. -/
structure Session (I : Type) where
  state : State I
  /-- The timers that were started and have not fired. -/
  timers : List Nat := []
  /-- The questions to interceptors that were asked and have not come back. -/
  questions : List Nat := []

namespace Session

/-- A client that nothing has happened to yet. -/
def fresh (options : Options) (random : Retry.Random) : Session I :=
  { state := { options := options, random := random } }

/-- Whether a turn is possible: only a timer that runs fires, and only an interceptor that was
asked comes back. -/
def admits (x : Session I) (t : Turn I) : Bool :=
  t.timer?.all x.timers.contains && t.question?.all x.questions.contains

/-- What the client does at a turn. What is not possible does not happen. -/
def move (x : Session I) (t : Turn I) : Move I :=
  if x.admits t then
    match t with
    | .input runtime i => x.state.step runtime i
    | .install number interceptor => { state := x.state.install number interceptor }
    | .uninstall number => { state := x.state.uninstall number }
  else { state := x.state }

/-- The session after a turn. -/
def next (x : Session I) (t : Turn I) : Session I where
  state := (x.move t).state
  timers := t.timer?.elim x.timers x.timers.erase ++ (x.move t).timers
  questions := t.question?.elim x.questions x.questions.erase ++ (x.move t).questions

/-- The session after a list of turns. -/
def after (x : Session I) (turns : List (Turn I)) : Session I := turns.foldl next x

/-- All that is out: the timers and the questions. -/
def pending (x : Session I) : List Nat := x.timers ++ x.questions

/-- How much is out under the present generation. -/
def owed (x : Session I) : Nat := x.pending.count x.state.retry.generation

end Session

/-- One stretch of a run: the session in which it begins, and the turn. -/
structure Stretch (I : Type) where
  before : Session I
  turn : Turn I

namespace Stretch

/-- What the client does. -/
def move (s : Stretch I) : Move I := s.before.move s.turn

/-- The session after the stretch. -/
def after (s : Stretch I) : Session I := s.before.next s.turn

/-- Whence the connect request comes that is made, if one is. -/
def origin? (s : Stretch I) : Option Origin := s.move.origin?

end Stretch

namespace Session

/-- The stretches of a run, in order. -/
def stretches : List (Turn I) → Session I → List (Stretch I)
  | [], _ => []
  | t :: ts, x => ⟨x, t⟩ :: stretches ts (x.next t)

/-! ## One turn -/

theorem state_next (x : Session I) (t : Turn I) : (x.next t).state = (x.move t).state := rfl

theorem move_of_not_admits {x : Session I} {t : Turn I} (h : ¬ x.admits t = true) :
    x.move t = { state := x.state } := if_neg h

/-- What is not possible changes nothing. -/
theorem next_of_not_admits {x : Session I} {t : Turn I} (h : ¬ x.admits t = true) :
    x.next t = x := by
  have hm := move_of_not_admits h
  cases ht : t.timer? with
  | some g =>
    have hq := Turn.question?_of_timer? ht
    have hg : g ∉ x.timers := by simpa [admits, ht, hq] using h
    simp [next, hm, ht, hq, Move.timers, Move.questions, List.erase_of_not_mem hg]
  | none =>
    cases hq : t.question? with
    | some g =>
      have hg : g ∉ x.questions := by simpa [admits, ht, hq] using h
      simp [next, hm, ht, hq, Move.timers, Move.questions, List.erase_of_not_mem hg]
    | none => simp [admits, ht, hq] at h

/-- What fires or comes back was out. -/
theorem mem_pending_of_admits {x : Session I} {t : Turn I} {g : Nat} (h : x.admits t = true)
    (hg : t.generation? = some g) : g ∈ x.pending := by
  cases ht : t.timer? with
  | some k =>
    simp [Turn.generation?, ht] at hg
    simp [admits, ht, hg] at h
    exact List.mem_append_left _ h.1
  | none =>
    simp [Turn.generation?, ht] at hg
    simp [admits, ht, hg] at h
    exact List.mem_append_right _ h

/-- A turn takes what it is a turn of from what is out, and adds what the client starts. -/
theorem count_pending_next {x : Session I} {t : Turn I} (h : x.admits t = true) (g : Nat) :
    (x.next t).pending.count g + (if t.generation? = some g then 1 else 0) =
      x.pending.count g + (x.move t).timers.count g + (x.move t).questions.count g := by
  cases ht : t.timer? with
  | some k =>
    have hq := Turn.question?_of_timer? ht
    have hk : k ∈ x.timers := by simpa [admits, ht, hq] using h
    have hc := (List.perm_cons_erase hk).count_eq g
    rw [List.count_cons] at hc
    simp [next, pending, Turn.generation?, ht, hq] at hc ⊢
    omega
  | none =>
    cases hq : t.question? with
    | some k =>
      have hk : k ∈ x.questions := by simpa [admits, ht, hq] using h
      have hc := (List.perm_cons_erase hk).count_eq g
      rw [List.count_cons] at hc
      simp [next, pending, Turn.generation?, ht, hq] at hc ⊢
      omega
    | none =>
      simp [next, pending, Turn.generation?, ht, hq]
      omega

theorem mem_pending_next {x : Session I} {t : Turn I} {g : Nat} (h : g ∈ (x.next t).pending) :
    g ∈ x.pending ∨ g ∈ (x.move t).timers ∨ g ∈ (x.move t).questions := by
  by_cases ha : x.admits t = true
  · have hc := count_pending_next ha g
    have hp := List.count_pos_iff.2 h
    rw [← List.count_pos_iff, ← List.count_pos_iff, ← List.count_pos_iff]
    omega
  · rw [next_of_not_admits ha] at h
    exact Or.inl h

/-- Every possible turn supersedes, schedules or continues. -/
theorem move_shape {x : Session I} {t : Turn I} (h : x.admits t = true) :
    (x.move t).Supersedes x.state ∨ (x.move t).Schedules x.state ∨
      (x.move t).Continues x.state t.generation? := by
  unfold move
  rw [if_pos h]
  cases t with
  | input runtime i => exact x.state.step_shape runtime i
  | install number interceptor =>
    exact Or.inr (Or.inr ⟨rfl, rfl, Or.inl rfl, rfl, Or.inl rfl, nofun⟩)
  | uninstall number =>
    refine Or.inr (Or.inr ⟨?_, ?_, Or.inl ?_, rfl, Or.inl rfl, nofun⟩) <;>
      rw [State.uninstall_retry]

/-! ## What is out -/

/-- Under a new generation nothing is out but what the client starts at this turn. -/
theorem owed_next_le {x : Session I} {t : Turn I} (h : x.admits t = true)
    (hle : ∀ g ∈ x.pending, g ≤ x.state.retry.generation)
    (hg : (x.move t).state.retry.generation = x.state.retry.generation + 1) :
    (x.next t).owed ≤ (x.move t).timers.length + (x.move t).questions.length := by
  have hn : x.state.retry.generation + 1 ∉ x.pending := fun hp => by
    have := hle _ hp
    omega
  have hc := count_pending_next h (x.state.retry.generation + 1)
  rw [List.count_eq_zero_of_not_mem hn] at hc
  rw [owed, state_next, hg]
  have ht := List.count_le_length (a := x.state.retry.generation + 1) (l := (x.move t).timers)
  have hq := List.count_le_length (a := x.state.retry.generation + 1) (l := (x.move t).questions)
  omega

theorem owed_next_of_continues {x : Session I} {t : Turn I} (h : x.admits t = true)
    (hm : (x.move t).Continues x.state t.generation?) :
    (x.next t).owed + (if t.generation? = some x.state.retry.generation then 1 else 0) =
      x.owed + (x.move t).questions.length := by
  have hc := count_pending_next h x.state.retry.generation
  rw [owed, state_next, hm.generation, hc, hm.timers, owed]
  rcases hm.questions with hq | ⟨hq, -, -⟩ <;> simp [hq]

/-- The invariant of every run: what is out never belongs to a later generation than the
present one, and the present one has at most one timer or question out, in an open cycle. -/
structure Sound (x : Session I) : Prop where
  state : x.state.Sound
  le : ∀ g ∈ x.pending, g ≤ x.state.retry.generation
  owed_le : x.owed ≤ 1
  inCycle : 0 < x.owed → x.state.retry.inCycle = true

theorem sound_fresh (options : Options) (random : Retry.Random) :
    (fresh options random : Session I).Sound where
  state := ⟨nofun, nofun⟩
  le := nofun
  owed_le := Nat.zero_le 1
  inCycle := nofun

theorem state_move (x : Session I) (t : Turn I) :
    (x.move t).state = if x.admits t then t.apply x.state else x.state := by
  unfold move
  split
  · cases t <;> rfl
  · rfl

theorem Sound.move_state {x : Session I} (h : x.Sound) (t : Turn I) :
    (x.move t).state.Sound := by
  rw [state_move]
  split
  · exact h.state.apply t
  · exact h.state

/-- Every turn keeps a session sound. -/
theorem Sound.next {x : Session I} (h : x.Sound) (t : Turn I) : (x.next t).Sound := by
  by_cases ha : x.admits t = true
  · have hs : (x.next t).state.Sound := h.move_state t
    rcases move_shape ha with hm | hm | hm
    · have ho := owed_next_le ha h.le hm.generation
      rw [hm.timers, hm.questions, List.length_nil] at ho
      refine ⟨hs, fun g hg => ?_, by omega, by omega⟩
      rw [state_next, hm.generation]
      rcases mem_pending_next hg with hp | hp | hp
      · have := h.le g hp
        omega
      · simp [hm.timers] at hp
      · simp [hm.questions] at hp
    · have ho := owed_next_le ha h.le hm.generation
      rw [hm.timers, hm.questions] at ho
      refine ⟨hs, fun g hg => ?_, ho, fun _ => hm.inCycle⟩
      rw [state_next, hm.generation]
      rcases mem_pending_next hg with hp | hp | hp
      · have := h.le g hp
        omega
      · simp [hm.timers] at hp
        omega
      · simp [hm.questions] at hp
    · have ho := owed_next_of_continues ha hm
      have hle := h.owed_le
      refine ⟨hs, fun g hg => ?_, ?_, fun hpos => ?_⟩
      · rw [state_next, hm.generation]
        rcases mem_pending_next hg with hp | hp | hp
        · exact h.le g hp
        · simp [hm.timers] at hp
        · rcases hm.questions with hq | ⟨hq, -, -⟩ <;> simp [hq] at hp
          omega
      · rcases hm.questions with hq | ⟨hq, hof, -⟩
        · simp [hq] at ho
          omega
        · simp [hq, hof] at ho
          omega
      · -- What is still out was out before: a turn that gives the cycle up leaves nothing out.
        rcases hm.inCycle with hi | ⟨-, hof, hask⟩
        · rw [state_next, hi]
          apply h.inCycle
          rcases hm.questions with hq | ⟨hq, hof, -⟩
          · simp [hq] at ho
            omega
          · simp [hq, hof] at ho
            omega
        · simp [hof, Move.questions, hask] at ho
          omega
  · rw [next_of_not_admits ha]
    exact h

/-! ## Runs -/

theorem after_append (x : Session I) (ts us : List (Turn I)) :
    x.after (ts ++ us) = (x.after ts).after us := List.foldl_append

theorem stretches_append (x : Session I) (ts us : List (Turn I)) :
    x.stretches (ts ++ us) = x.stretches ts ++ (x.after ts).stretches us := by
  induction ts generalizing x with
  | nil => rfl
  | cons t ts ih => exact congrArg (⟨x, t⟩ :: ·) (ih (x.next t))

/-- A part of a run is the run of a part of its turns. -/
theorem stretches_eq_append {x : Session I} {turns : List (Turn I)} {past later : List (Stretch I)}
    (h : x.stretches turns = past ++ later) :
    ∃ ts us, turns = ts ++ us ∧ past = x.stretches ts ∧ later = (x.after ts).stretches us := by
  induction past generalizing x turns with
  | nil => exact ⟨[], turns, rfl, rfl, h.symm⟩
  | cons s past ih =>
    cases turns with
    | nil => cases h
    | cons t turns =>
      obtain ⟨hs, hrest⟩ := List.cons.inj h
      obtain ⟨ts, us, rfl, rfl, rfl⟩ := ih hrest
      exact ⟨t :: ts, us, rfl, by rw [← hs]; rfl, rfl⟩

/-- What comes before a stretch of a run leads to the session in which it begins. -/
theorem stretches_eq_append_cons {x : Session I} {turns : List (Turn I)} {s : Stretch I}
    {past later : List (Stretch I)} (h : x.stretches turns = past ++ s :: later) :
    ∃ ts us, turns = ts ++ s.turn :: us ∧ past = x.stretches ts ∧ s.before = x.after ts ∧
      later = s.after.stretches us := by
  obtain ⟨ts, us, rfl, rfl, hl⟩ := stretches_eq_append h
  cases us with
  | nil => cases hl
  | cons t us =>
    obtain ⟨rfl, rfl⟩ := List.cons.inj hl
    exact ⟨ts, us, rfl, rfl, rfl, rfl⟩

/-- Every run keeps a session sound. -/
theorem Sound.after {x : Session I} (h : x.Sound) (turns : List (Turn I)) :
    (x.after turns).Sound := by
  induction turns generalizing x with
  | nil => exact h
  | cons t turns ih => exact ih (h.next t)

/-- Every session that a run of a fresh client reaches is sound. -/
theorem sound_after (options : Options) (random : Retry.Random) (turns : List (Turn I)) :
    ((fresh options random).after turns).Sound :=
  (sound_fresh options random).after turns

end Session

end MqttRelay.Client
