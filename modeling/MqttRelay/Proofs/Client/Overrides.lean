import MqttRelay.Proofs.Client.Supersession
import MqttRelay.Proofs.History

/-!
# Where the options come from

The options of a client change in two ways: a connect brings overrides, and so does the interceptor
that is asked before a retry. The interceptor takes its time, and its answer counts only if its
retry was not superseded meanwhile. All other turns leave the options alone, and a connect request
resolves them as they are when it is made.

Results:
* `Options.get_foldl_merge`: a field of merged options is the one that was set last.
* `State.generation_step`, `State.options_step`: what one input does to the generation and to the
  options.
* `Session.Asked.next`: of the questions that are out, the one of the present generation is that
  whose retry was not superseded since it was asked.
* `Session.options_of_run`: the options of a client and the parameters of its connect requests.
-/

namespace MqttRelay

/-! ## Merged options -/

/-- A field of options, which a merge takes from the overrides if it is set there. -/
def Options.Lays {α : Type} (field : Options → Option α) : Prop :=
  ∀ options overrides, field (options.merge overrides) = (field overrides <|> field options)

/-- What is set last in a list of options, for a field of theirs. -/
def Options.latest {α : Type} (field : Options → Option α) (set : List Options) : Option α :=
  set.reverse.findSome? field

theorem Options.latest_append_singleton {α : Type} (field : Options → Option α)
    (set : List Options) (overrides : Options) :
    latest field (set ++ [overrides]) = (field overrides <|> latest field set) := by
  rw [latest, latest, List.reverse_append, List.reverse_singleton, List.singleton_append,
    List.findSome?_cons]
  cases field overrides <;> rfl

theorem Options.get_foldl_merge {α : Type} {field : Options → Option α} (h : Lays field)
    (options : Options) (overrides : List Options) :
    field (overrides.foldl merge options) = latest field (options :: overrides) := by
  induction overrides using List.reverseRecOn with
  | nil =>
    rw [List.foldl_nil, ← List.nil_append [options], latest_append_singleton]
    cases field options <;> rfl
  | append_singleton overrides o ih =>
    rw [List.foldl_append, List.foldl_cons, List.foldl_nil, h, ih, ← List.cons_append,
      latest_append_singleton]

namespace Client

variable {I : Type}

/-! ## One step -/

/-- Whether an input supersedes the retry that is under way: what the application asks for, an
acknowledged connection, the end of one after which the client plans ahead, and a refused retry. -/
def Input.supersedes (s : State I) : Input → Bool
  | .connect _ => !s.removed
  | .disconnect => !s.removed
  | .remove => true
  | .refused origin => origin = .retry && s.retry.inCycle
  | .acknowledged => !s.removed && s.status = .connecting
  | .ended _ => !s.removed &&
    (s.status = .connected && s.options.reconnects ||
      s.status = .connecting && s.retry.inCycle && !s.retry.timer)
  | .fired _ => false
  | .answered _ _ => false
  | .failed _ _ => false

/-- The overrides that an input lays over the options. -/
def Input.override? (s : State I) : Input → Option Options
  | .connect overrides => if s.removed then none else overrides
  | .answered generation overrides =>
    if s.removed || s.retry.generation != generation then none else overrides
  | _ => none

namespace State

theorem plan_generation (runtime : Bool) (s : State I) :
    (s.plan runtime).1.retry.generation = s.retry.generation + 1 := by
  rcases s.plan_cases runtime with ⟨-, _, _, _, -, h⟩ | ⟨-, _, _, _, -, h⟩ <;> rw [h] <;> rfl

theorem plan_options (runtime : Bool) (s : State I) :
    (s.plan runtime).1.options = s.options := by
  rcases s.plan_cases runtime with ⟨-, _, _, _, -, h⟩ | ⟨-, _, _, _, -, h⟩ <;> rw [h]

theorem uninstall_cases (number : Nat) (s : State I) :
    s.uninstall number = s ∨ s.uninstall number = { s with interceptor := none } := by
  unfold uninstall
  split
  · split
    · exact .inr rfl
    · exact .inl rfl
  · exact .inl rfl

theorem issue_state (origin : Origin) (s : State I) : (s.issue origin).state = s := by
  unfold issue
  split <;> rfl

theorem generation_ended (runtime : Bool) (reason : ReasonCode) (s : State I) :
    (s.ended runtime reason).1.retry.generation =
      s.retry.generation + if (Input.ended reason).supersedes s then 1 else 0 := by
  unfold ended
  by_cases hr : s.removed = true
  · simp [hr, Input.supersedes]
  · cases hs : s.status with
    | connecting =>
      cases hc : s.retry.inCycle <;> cases ht : s.retry.timer <;>
        simp [hr, hs, hc, ht, Disconnect.kind, Input.supersedes, plan_generation]
    | connected =>
      cases ho : s.options.reconnects <;>
        simp [hr, hs, ho, Disconnect.kind, Input.supersedes, plan_generation]
    | disconnected => simp [hr, hs, Disconnect.kind, Input.supersedes]

/-- Whatever supersedes a retry begins a new generation, and nothing else does. -/
theorem generation_step (runtime : Bool) (input : Input) (s : State I) :
    (s.step runtime input).state.retry.generation =
      s.retry.generation + if input.supersedes s then 1 else 0 := by
  cases input with
  | connect overrides =>
    by_cases hr : s.removed = true <;> simp [step, connect, issue_state, hr, Input.supersedes]
  | disconnect =>
    by_cases hr : s.removed = true <;> simp [step, disconnect, endCycle, hr, Input.supersedes]
  | remove => rfl
  | refused origin =>
    by_cases h : origin = .retry ∧ s.retry.inCycle = true <;>
      simp [step, quiet, refused, endCycle, h, Input.supersedes]
  | acknowledged =>
    by_cases hr : s.removed = true
    · simp [step, quiet, acknowledged, hr, Input.supersedes]
    · cases hs : s.status <;>
        simp [step, quiet, acknowledged, hr, hs, Status.afterConnected, Input.supersedes]
  | ended reason => exact s.generation_ended runtime reason
  | fired generation => exact (s.fired_shape generation).generation
  | answered generation overrides => exact (s.answered_shape generation overrides).generation
  | failed generation panicked => exact (s.failed_shape generation panicked).generation

theorem options_answered (generation : Nat) (overrides : Option Options) (s : State I) :
    (s.answered generation overrides).state.options =
      s.options.mergeOpt ((Input.answered generation overrides).override? s) := by
  unfold answered Input.override?
  dsimp only
  split
  · rfl
  · rw [issue_state]

/-- The overrides of an input are laid over the options, and nothing else changes them. -/
theorem options_step (runtime : Bool) (input : Input) (s : State I) :
    (s.step runtime input).state.options = s.options.mergeOpt (input.override? s) := by
  cases input with
  | connect overrides =>
    by_cases hr : s.removed = true <;>
      simp [step, connect, issue_state, hr, Input.override?, Options.mergeOpt]
  | disconnect =>
    simp only [step, disconnect]
    split <;> rfl
  | remove => rfl
  | refused origin =>
    simp only [step, quiet, refused]
    split <;> rfl
  | acknowledged =>
    simp only [step, quiet, acknowledged]
    split
    · rfl
    · split <;> rfl
  | ended reason =>
    simp only [step, quiet, ended]
    split
    · rfl
    · cases s.status <;> dsimp only [Disconnect.kind] <;> (try split) <;>
        simp [plan_options, Input.override?, Options.mergeOpt]
  | fired generation =>
    simp only [step, fired]
    split
    · rfl
    · split
      · rfl
      · split
        · rfl
        · rw [options_answered, Input.override?]
          split <;> rfl
  | answered generation overrides => exact s.options_answered generation overrides
  | failed generation panicked =>
    simp only [step, quiet, failed]
    split <;> rfl

/-- A connect request resolves the options as they are when it is made. -/
theorem parameters_of_issue {origin o : Origin} {s : State I} {p : ConnectParameters}
    (h : (s.issue origin).ask = some (.connect p o)) :
    p = (s.issue origin).state.options.parameters := by
  unfold issue at h ⊢
  split at h
  · cases h
  · next hc =>
    rw [if_neg hc]
    cases h
    rfl

theorem parameters_of_answered {generation : Nat} {overrides : Option Options} {s : State I}
    {p : ConnectParameters} {o : Origin}
    (h : (s.answered generation overrides).ask = some (.connect p o)) :
    p = (s.answered generation overrides).state.options.parameters := by
  unfold answered at h ⊢
  split at h
  · cases h
  · next hc =>
    rw [if_neg hc]
    exact parameters_of_issue h

theorem parameters_of_fired {generation : Nat} {s : State I} {p : ConnectParameters} {o : Origin}
    (h : (s.fired generation).ask = some (.connect p o)) :
    p = (s.fired generation).state.options.parameters := by
  unfold fired at h ⊢
  split at h
  · cases h
  · next hc =>
    rw [if_neg hc]
    dsimp only at h ⊢
    split at h
    · cases h
    · next hs =>
      rw [if_neg hs]
      cases hi : s.interceptor with
      | some i =>
        simp only [hi] at h
        cases h
      | none =>
        simp only [hi] at h ⊢
        exact parameters_of_answered h

theorem parameters_step {runtime : Bool} {input : Input} {s : State I} {p : ConnectParameters}
    {o : Origin} (h : (s.step runtime input).ask = some (.connect p o)) :
    p = (s.step runtime input).state.options.parameters := by
  cases input with
  | connect overrides =>
    simp only [step, connect] at h ⊢
    split at h
    · cases h
    · next hc =>
      rw [if_neg hc]
      exact parameters_of_issue h
  | disconnect =>
    simp only [step, disconnect] at h
    split at h <;> cases h
  | fired generation => exact parameters_of_fired h
  | answered generation overrides => exact parameters_of_answered h
  | _ => cases h

end State

/-! ## Stretches -/

namespace Stretch

/-- The stretch asks the interceptor before the retry of a generation. -/
def asks (g : Nat) (s : Stretch I) : Bool := s.move.questions.contains g

/-- The stretch supersedes the retry that is under way. -/
def supersedes (s : Stretch I) : Bool :=
  match s.turn with
  | .input _ i => i.supersedes s.before.state
  | _ => false

/-- The application gives the client up. -/
def removes (s : Stretch I) : Bool :=
  match s.turn with
  | .input _ .remove => true
  | _ => false

/-- The interceptor was asked before the retry of a generation, and nothing superseded it since. -/
abbrev Standing (g : Nat) (run : List (Stretch I)) : Prop :=
  Since (fun r : Stretch I => r.asks g = true) (fun r => r.supersedes = true) run

/-- The overrides that a stretch brings after those that are past: those of a connect, unless the
client was removed, and those of an interceptor that was asked, if nothing superseded its retry
since. -/
def override? (past : List (Stretch I)) (s : Stretch I) : Option Options :=
  match s.turn with
  | .input _ (.connect overrides) => if past.any removes then none else overrides
  | .input runtime (.answered g overrides) =>
    if s.before.admits (.input runtime (.answered g overrides)) = true ∧ Standing g past then
      overrides
    else none
  | _ => none

end Stretch

namespace Session

open Stretch (Standing)

/-- The overrides of a run after stretches that are past, in order. -/
def overridesFrom (past : List (Stretch I)) : List (Stretch I) → List Options
  | [] => []
  | s :: later => (s.override? past).toList ++ overridesFrom (past ++ [s]) later

/-- The overrides of a run, in order. -/
def overrides (run : List (Stretch I)) : List Options := overridesFrom [] run

theorem overridesFrom_append_singleton (past run : List (Stretch I)) (s : Stretch I) :
    overridesFrom past (run ++ [s]) =
      overridesFrom past run ++ (s.override? (past ++ run)).toList := by
  induction run generalizing past with
  | nil => simp [overridesFrom]
  | cons r run ih => simp [overridesFrom, ih]

theorem overrides_append_singleton (run : List (Stretch I)) (s : Stretch I) :
    overrides (run ++ [s]) = overrides run ++ (s.override? run).toList :=
  overridesFrom_append_singleton [] run s

/-! ## One turn -/

theorem generation_next (x : Session I) (t : Turn I) :
    (x.next t).state.retry.generation =
      x.state.retry.generation + if (Stretch.mk x t).supersedes then 1 else 0 := by
  by_cases ha : x.admits t = true
  · cases t with
    | input runtime input =>
      rw [state_next, move, if_pos ha]
      exact x.state.generation_step runtime input
    | install number interceptor => rfl
    | uninstall number =>
      rw [state_next, move, if_pos ha, State.uninstall_retry]
      rfl
  · rw [next_of_not_admits ha]
    cases t with
    | input runtime input =>
      cases input <;> first | rfl | exact absurd rfl ha
    | _ => rfl

theorem removed_next (x : Session I) (t : Turn I) :
    (x.next t).state.removed = (x.state.removed || (Stretch.mk x t).removes) := by
  rw [state_next, state_move]
  cases t with
  | input runtime input =>
    by_cases ha : x.admits (.input runtime input) = true
    · rw [if_pos ha, Bool.eq_iff_iff, Bool.or_eq_true]
      refine (State.removed_step_iff runtime input x.state).trans (or_congr_right ?_)
      cases input <;> simp [Stretch.removes]
    · rw [if_neg ha]
      cases input <;> first | exact (Bool.or_false _).symm | exact absurd rfl ha
  | install number interceptor => exact (Bool.or_false _).symm
  | uninstall number =>
    rw [if_pos (show x.admits (.uninstall number) = true from rfl)]
    rcases x.state.uninstall_cases number with h | h <;>
      simp [Turn.apply, h, Stretch.removes]

/-- The interceptor is asked before a retry of the present generation only, on a client that is not
removed. -/
theorem generation_of_asks {x : Session I} (h : x.Sound) {t : Turn I} {g : Nat}
    (hg : g ∈ (x.move t).questions) :
    (x.next t).state.retry.generation = g ∧ (x.next t).state.removed = false := by
  have ha : x.admits t = true := by
    by_contra ha
    rw [move_of_not_admits ha] at hg
    cases hg
  have hgen : (x.next t).state.retry.generation = g := by
    rcases move_shape ha with hm | hm | hm
    · rw [hm.questions] at hg
      cases hg
    · rw [hm.questions] at hg
      cases hg
    · rcases hm.questions with hq | ⟨hq, -, -⟩ <;> rw [hq] at hg
      · cases hg
      · rw [List.mem_singleton.1 hg, state_next, hm.generation]
  refine ⟨hgen, ?_⟩
  -- It waits for an answer, so that its cycle is open.
  have hout : g ∈ (x.next t).pending :=
    List.mem_append_right _ (List.mem_append_right _ hg)
  have hopen := (h.next t).inCycle (List.count_pos_iff.2 (hgen ▸ hout))
  cases hr : (x.next t).state.removed with
  | false => rfl
  | true => exact absurd (((h.next t).state.ofRemoved hr).2.symm.trans hopen) nofun

theorem supersedes_of_removes {x : Session I} {t : Turn I}
    (h : (Stretch.mk x t).removes = true) : (Stretch.mk x t).supersedes = true := by
  cases t with
  | input runtime input => cases input <;> first | rfl | cases h
  | _ => cases h

theorem parameters_move {x : Session I} {t : Turn I} {p : ConnectParameters} {o : Origin}
    (h : (x.move t).ask = some (.connect p o)) : p = (x.next t).state.options.parameters := by
  rw [state_next]
  unfold move at h ⊢
  split at h
  · next ha =>
    rw [if_pos ha]
    cases t with
    | input runtime input => exact State.parameters_step h
    | _ => cases h
  · cases h

/-! ## Questions that are out -/

/-- What is known after a run: whether the client was removed, and which retry stands. -/
structure Asked (x : Session I) (run : List (Stretch I)) : Prop where
  removed : x.state.removed = run.any Stretch.removes
  standing : ∀ g ∈ x.questions, x.state.retry.generation = g → Standing g run
  present : ∀ g, Standing g run → x.state.retry.generation = g ∧ x.state.removed = false

theorem asked_fresh (options : Options) (random : Retry.Random) :
    (fresh options random : Session I).Asked [] :=
  ⟨rfl, nofun, fun _ h => absurd h (not_since_nil _ _)⟩

section

variable {x : Session I} {run : List (Stretch I)} (h : x.Sound) (hk : x.Asked run)

include h hk

theorem Asked.standing_next (t : Turn I) (g : Nat) (hg : g ∈ (x.next t).questions)
    (hgen : (x.next t).state.retry.generation = g) : Standing g (run ++ [⟨x, t⟩]) := by
  rw [Standing, since_append_singleton]
  rcases List.mem_append.1 hg with hg | hg
  · -- It was out before, and belongs to no later generation than the one before.
    have hold : g ∈ x.questions := by
      cases hq : t.question? with
      | none => simpa [hq] using hg
      | some k => exact List.mem_of_mem_erase (by simpa [hq] using hg)
    have hle := h.le g (List.mem_append_right _ hold)
    rw [generation_next] at hgen
    split at hgen
    · omega
    · next hs => exact .inr ⟨hk.standing g hold hgen, hs⟩
  · exact .inl (by simpa [Stretch.asks, Stretch.move] using hg)

theorem Asked.present_next (t : Turn I) (g : Nat) (hg : Standing g (run ++ [⟨x, t⟩])) :
    (x.next t).state.retry.generation = g ∧ (x.next t).state.removed = false := by
  rw [Standing, since_append_singleton] at hg
  rcases hg with hasks | ⟨hold, hs⟩
  · exact generation_of_asks h (by simpa [Stretch.asks, Stretch.move] using hasks)
  · obtain ⟨hgen, hr⟩ := hk.present g hold
    have hremoves : (Stretch.mk x t).removes = false :=
      Bool.eq_false_iff.2 fun hr => hs (supersedes_of_removes hr)
    rw [generation_next, removed_next, hgen, hr, hremoves, if_neg hs]
    exact ⟨rfl, rfl⟩

theorem Asked.next (t : Turn I) : (x.next t).Asked (run ++ [⟨x, t⟩]) where
  removed := by simp [removed_next, hk.removed]
  standing := hk.standing_next h t
  present := hk.present_next h t

omit h in
/-- An answer is heard, of those that are possible, if its retry stands. -/
theorem Asked.override?_answered {runtime : Bool} {g : Nat} {overrides : Option Options}
    (ha : x.admits (.input runtime (.answered g overrides)) = true) :
    (Input.answered g overrides).override? x.state =
      (Stretch.mk x (.input runtime (.answered g overrides))).override? run := by
  have hg : g ∈ x.questions := by
    simpa [admits, Turn.timer?, Turn.question?, Input.timer?, Input.question?] using ha
  dsimp only [Input.override?, Stretch.override?]
  by_cases hs : Standing g run
  · obtain ⟨hgen, hr⟩ := hk.present g hs
    rw [if_neg (by simp [hgen, hr]), if_pos ⟨ha, hs⟩]
  · have hgen : x.state.retry.generation ≠ g := fun hgen => hs (hk.standing g hg hgen)
    rw [if_pos (by simp [hgen]), if_neg fun h => hs h.2]

omit h in
theorem Asked.options_next (t : Turn I) :
    (x.next t).state.options =
      x.state.options.mergeOpt ((Stretch.mk x t).override? run) := by
  by_cases ha : x.admits t = true
  · rw [state_next, state_move, if_pos ha]
    cases t with
    | input runtime input =>
      refine (x.state.options_step runtime input).trans (congrArg _ ?_)
      cases input with
      | connect overrides => simp only [Input.override?, Stretch.override?, hk.removed]
      | answered g overrides => exact hk.override?_answered ha
      | _ => rfl
    | install number interceptor => rfl
    | uninstall number =>
      rcases x.state.uninstall_cases number with h | h <;> rw [Turn.apply, h] <;> rfl
  · have hnone : (Stretch.mk x t).override? run = none := by
      cases t with
      | input runtime input =>
        cases input with
        | connect overrides => exact absurd rfl ha
        | answered g overrides => exact if_neg fun h => ha h.1
        | _ => rfl
      | _ => rfl
    rw [next_of_not_admits ha, hnone]
    rfl

end

/-! ## Runs -/

theorem asked_after (options : Options) (random : Retry.Random) (turns : List (Turn I)) :
    ((fresh options random).after turns).Asked ((fresh options random).stretches turns) := by
  induction turns using List.reverseRecOn with
  | nil => exact asked_fresh options random
  | append_singleton turns t ih =>
    rw [after_append, stretches_append]
    exact ih.next (sound_after options random turns) t

theorem options_after (options : Options) (random : Retry.Random) (turns : List (Turn I)) :
    ((fresh options random).after turns).state.options =
      (overrides ((fresh options random).stretches turns)).foldl Options.merge options := by
  induction turns using List.reverseRecOn with
  | nil => rfl
  | append_singleton turns t ih =>
    have hnext := (asked_after options random turns).options_next t
    rw [after_append, stretches_append]
    refine hnext.trans ?_
    rw [ih, stretches, stretches, overrides_append_singleton, List.foldl_append]
    cases (Stretch.mk ((fresh options random).after turns) t).override?
      ((fresh options random).stretches turns) <;> rfl

/-- The options of a client are those it began with, and laid over them in order of occurrence the
overrides of every connect on a client that is not removed and those of every interceptor that
comes back before its retry is superseded, and nothing else. A connect request, whoever makes it,
carries of each parameter what was set last among them, and its default if it never was. -/
theorem options_of_run (options : Options) (random : Retry.Random) (turns : List (Turn I)) :
    let run := (fresh options random).stretches turns
    ((fresh options random).after turns).state.options =
      (overrides run).foldl Options.merge options ∧
    ∀ past s later p origin, run = past ++ s :: later →
      s.move.ask = some (.connect p origin) →
      let laid := options :: overrides (past ++ [s])
      p.keepAlive = (Options.latest (·.keepAlive) laid).getD 60 ∧
      p.cleanSession = (Options.latest (·.cleanSession) laid).getD true ∧
      p.username = (Options.latest (·.username) laid).getD "" ∧
      p.password = (Options.latest (·.password) laid).getD "" := by
  intro run
  refine ⟨options_after options random turns, ?_⟩
  intro past s later p origin hrun hask laid
  obtain ⟨ts, us, -, rfl, hbefore, -⟩ := stretches_eq_append_cons hrun
  have hafter : ((fresh options random).after (ts ++ [s.turn])).state.options =
      (overrides ((fresh options random).stretches ts ++ [s])).foldl Options.merge options := by
    rw [options_after, stretches_append, ← hbefore]
    rfl
  rw [after_append, ← hbefore] at hafter
  obtain rfl := (parameters_move hask).trans (congrArg Options.parameters hafter)
  have hset {α : Type} {field : Options → Option α} (h : Options.Lays field) :
      field ((overrides ((fresh options random).stretches ts ++ [s])).foldl Options.merge options) =
        Options.latest field laid := Options.get_foldl_merge h options _
  refine ⟨?_, ?_, ?_, ?_⟩
  · exact congrArg (Option.getD · 60) (hset fun _ _ => rfl)
  · exact congrArg (Option.getD · true) (hset fun _ _ => rfl)
  · exact congrArg (Option.getD · "") (hset fun _ _ => rfl)
  · exact congrArg (Option.getD · "") (hset fun _ _ => rfl)

/-- A client whose connection was lost and whose interceptor is asked. -/
def asking : List (Turn Unit) :=
  [.install 1 (), .input true (.connect (some { username := some "anna", password := some "old" })),
    .input true .acknowledged, .input true (.ended .connectionError), .input true (.fired 3)]

/-- The application connects it again, with another keep-alive. -/
def connectingAgain : Stretch Unit where
  before := (fresh { autoReconnect := some true } .middle).after asking
  turn := .input true (.connect (some { keepAlive := some 5 }))

/-- The interceptor comes back with another password. -/
def comingBack : Turn Unit := .input true (.answered 3 (some { password := some "new" }))

/-- A connect while the interceptor is asked keeps the credentials of the first connect, and the
password that the interceptor comes back with is not taken. -/
theorem options_of_overtaken_run :
    let options : Options := { autoReconnect := some true }
    let past := (fresh options .middle).stretches asking
    let turns := asking ++ [connectingAgain.turn, comingBack]
    let run := (fresh options .middle).stretches turns
    run = past ++ connectingAgain :: connectingAgain.after.stretches [comingBack] ∧
    connectingAgain.move.ask = some (.connect ⟨5, true, "anna", "old"⟩ .application) ∧
    overrides run =
      [{ username := some "anna", password := some "old" }, { keepAlive := some 5 }] ∧
    ((fresh options .middle).after turns).state.options =
      (overrides run).foldl Options.merge options ∧
    "old" = (Options.latest (·.password)
      (options :: overrides (past ++ [connectingAgain]))).getD "" := by
  intro options past turns run
  obtain ⟨hoptions, hparameters⟩ := options_of_run options .middle turns
  have hrun : run = past ++ connectingAgain :: connectingAgain.after.stretches [comingBack] :=
    stretches_append _ asking [connectingAgain.turn, comingBack]
  have hask : connectingAgain.move.ask = some (.connect ⟨5, true, "anna", "old"⟩ .application) := by
    have hremoved : connectingAgain.before.state.removed = false := by decide +kernel
    have hmerged : (connectingAgain.before.state.options.mergeOpt
        (some { keepAlive := some 5 })).parameters = ⟨5, true, "anna", "old"⟩ := by decide +kernel
    show (connectingAgain.before.state.connect (some { keepAlive := some 5 })).ask = _
    simp [State.connect, State.issue, hremoved, Status.mayConnect, hmerged]
  exact ⟨hrun, hask, by decide +kernel, hoptions, (hparameters _ _ _ _ _ hrun hask).2.2.2⟩

end Session

end Client

end MqttRelay
