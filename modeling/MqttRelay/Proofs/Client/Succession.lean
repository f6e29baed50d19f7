import Mathlib.Data.List.Perm.Basic
import MqttRelay.Native.Recorder
import MqttRelay.Proofs.Client.Sharing

/-!
# One client after another

A shared client makes a client for every initialization that does not find one that it can give
out. Initializations wait for the lock and for the construction of their client, and meanwhile
anything may happen: other initializations, removals, registrations of callbacks, events and
operations on clients. However all this is interleaved, each client that the shared client obtained
was removed before there is another one.

Results:
* `OneAtATime.progress_meet`: what a single occasion does to a shared client.
* `Surroundings.obtained_removed_or_held`: of all the clients that were obtained, at most the one
  that is held was not removed.
-/

namespace MqttRelay.Client

open World Native

variable {N A : Type}

/-! ## Interleavings -/

/-- Whether something happens at once, and not in the turn of a task. Clients are made for a shared
client by its initializations only. -/
def Happening.isDirect : Happening N A → Bool
  | .turn _ => false
  | .setUp .. => false
  | .create (.shared ..) _ => false
  | _ => true

/-- What may come next. -/
inductive Occasion (N A : Type) where
  | happening (h : Happening N A) (direct : h.isDirect = true)
  /-- An initialization is called for, which has its first turn later. -/
  | callFor (shared : Nat) (label : String) (config : Config)
  /-- The task at a position among those whose turn has come has it. -/
  | turn (position : Nat)
  /-- Tasks wake whose time has come. -/
  | wake

/-- Takes out the task at a position among those whose turn has come. -/
def World.without (position : Nat) (w : World N A) : World N A :=
  w.update fun s => { s with ready := s.ready.eraseIdx position }

namespace Surroundings

/-- The world after an occasion. -/
def meet (x : Surroundings N A) (o : Occasion N A) (w : World N A) : World N A :=
  match o with
  | .happening h _ => x.happen h w
  | .callFor shared label config => w.update (·.enqueue (.setUp shared label config))
  | .turn position =>
    match w.store.ready[position]? with
    | some t => x.turn t (w.without position)
    | none => w
  | .wake => wakeDue w

/-- The world after one occasion after another. -/
def meetAll (x : Surroundings N A) (run : List (Occasion N A)) (w : World N A) : World N A :=
  run.foldl (fun w o => x.meet o w) w

end Surroundings

/-! ## What an occasion brings -/

/-- The client that a shared client obtains in the turn of a task. -/
def Outside.obtainsIn? (outside : Outside N A) (shared : Nat) (t : Task) (w : World N A) :
    Option Nat :=
  match w.turnOf? shared t, t with
  | some (label, config, v), _ => outside.obtainsInTurn? shared label config v
  | none, .await creation =>
    if (w.constructs? shared creation).isSome then w.handsOver? creation else none
  | none, _ => none

namespace Occasion

/-- The task that has its turn, and the world in which it has it. -/
def task? (o : Occasion N A) (w : World N A) : Option (Task × World N A) :=
  match o with
  | .turn position => (w.store.ready[position]?).map fun t => (t, w.without position)
  | _ => none

/-- The configuration of the client that a shared client begins to make. -/
def begins? (shared : Nat) (o : Occasion N A) (w : World N A) : Option Config :=
  (o.task? w).bind fun p => p.2.beginsIn? shared p.1

/-- The client that a shared client obtains. -/
def obtains? (outside : Outside N A) (shared : Nat) (o : Occasion N A) (w : World N A) :
    Option Nat :=
  (o.task? w).bind fun p => outside.obtainsIn? shared p.1 p.2

/-- Whether a shared client is removed. -/
def removes (shared : Nat) : Occasion N A → Bool
  | .happening (.removeShared number) _ => number == shared
  | _ => false

end Occasion

namespace Surroundings

/-- What occasions bring as one follows another, in order. -/
def gather {α : Type} (x : Surroundings N A) (brings? : Occasion N A → World N A → Option α) :
    List (Occasion N A) → World N A → List α
  | [], _ => []
  | o :: run, w => (brings? o w).toList ++ x.gather brings? run (x.meet o w)

/-- The clients that a shared client obtains. -/
def obtained (x : Surroundings N A) (shared : Nat) : List (Occasion N A) → World N A → List Nat :=
  x.gather (Occasion.obtains? x.toOutside shared)

/-- The configurations of the clients that a shared client begins to make. -/
def begun (x : Surroundings N A) (shared : Nat) : List (Occasion N A) → World N A → List Config :=
  x.gather (Occasion.begins? shared)

end Surroundings

namespace World

/-- What becomes of a shared client: the configuration of the client that begins to be made, and
the client that is obtained. -/
inductive Progress (shared : Nat) (mayRemove : Prop) (w after : World N A) :
    Option Config → Option Nat → Prop
  /-- Others are at work. -/
  | others (h : Respects shared mayRemove w after) : Progress shared mayRemove w after none none
  /-- An initialization ends with the client that was there. -/
  | stays (h : Ended shared (w.sharedClient? shared) w after) :
      Progress shared mayRemove w after none none
  /-- A construction ends, with a client or without. -/
  | ends (obtained : Option Nat) (none : w.sharedClient? shared = none)
      (made : ∀ client, obtained = some client →
        ∃ creation, w.constructs? shared creation = some client)
      (h : Ended shared obtained w after) : Progress shared mayRemove w after .none obtained
  /-- The client that was there has been removed, and another begins to be made. -/
  | begins (config : Config) (obtained : Option Nat) (v : World N A) (lasting : Lasting w v)
      (none : v.sharedClient? shared = none)
      (removed : ∀ client m, w.sharedClient? shared = some client → w.client? client = some m →
        v.isRemoved client = true)
      (kept : v.KeepsConfig shared mayRemove (some config))
      (created : Created shared mayRemove config obtained v after) :
      Progress shared mayRemove w after (some config) obtained

theorem Progress.of_elsewhere {shared : Nat} {mayRemove : Prop} {a b c : World N A}
    {obtained : Option Nat} (h : Progress shared mayRemove b c none obtained)
    (he : Elsewhere shared a b) : Progress shared mayRemove a c none obtained := by
  cases h with
  | others hr => exact .others ((Respects.of_elsewhere he).trans hr)
  | stays hended =>
    rw [he.client] at hended
    exact .stays (hended.of_lasting he.toLasting he.config)
  | ends _ hnone hmade hended =>
    refine .ends obtained (he.client.symm.trans hnone) (fun client hclient => ?_)
      (hended.of_lasting he.toLasting he.config)
    obtain ⟨creation, hc⟩ := hmade client hclient
    exact ⟨creation, (he.constructs creation).symm.trans hc⟩

/-- From one world to a later one a shared client gave up the clients it had, and of those that it
obtained it has one at most. -/
structure Turnover (shared : Nat) (obtained : List Nat) (w after : World N A) : Prop
    extends Lasting w after where
  kept : ∀ client, w.sharedClient? shared = some client ∨ client ∈ obtained →
    after.sharedClient? shared = some client ∨ after.isRemoved client = true
  source : ∀ client, after.sharedClient? shared = some client →
    w.sharedClient? shared = some client ∨ client ∈ obtained

namespace Turnover

variable {shared : Nat} {a b c : World N A}

theorem refl (w : World N A) : Turnover shared [] w w :=
  ⟨.refl w, fun _ h => .inl (h.resolve_right List.not_mem_nil), fun _ => .inl⟩

theorem trans {first second : List Nat} (h₁ : Turnover shared first a b)
    (h₂ : Turnover shared second b c) : Turnover shared (first ++ second) a c where
  toLasting := h₁.toLasting.trans h₂.toLasting
  kept client hclient := by
    rw [List.mem_append, ← or_assoc] at hclient
    rcases hclient with hbefore | hsecond
    · rcases h₁.kept client hbefore with hheld | hremoved
      · exact h₂.kept client (.inl hheld)
      · exact .inr (h₂.isRemoved hremoved)
    · exact h₂.kept client (.inr hsecond)
  source client hclient := by
    rw [List.mem_append, ← or_assoc]
    exact (h₂.source client hclient).imp_left (h₁.source client)

theorem respects {mayRemove : Prop} (hone : OneAtATime shared a)
    (h : Respects shared mayRemove a b) : Turnover shared [] a b := by
  refine ⟨h.toLasting, fun client hclient => ?_, fun client hclient => .inl ?_⟩
  · have hclient := hclient.resolve_right List.not_mem_nil
    obtain ⟨m, hm⟩ := hone.known client hclient
    exact h.hold.imp (fun hold => hold.1.trans hclient) fun hold => hold.2.2.2 client m hclient hm
  · rcases h.hold with ⟨hsame, -⟩ | ⟨-, hnone, -⟩
    · exact hsame.symm.trans hclient
    · cases hnone.symm.trans hclient

end Turnover

/-- At most one initialization holds the lock after what becomes of a shared client, and the
clients that were there before are gone. -/
theorem OneAtATime.progress {shared : Nat} {mayRemove : Prop} {w after : World N A}
    {begun : Option Config} {obtained : Option Nat} (h : OneAtATime shared w)
    (hp : Progress shared mayRemove w after begun obtained) :
    OneAtATime shared after ∧ Turnover shared obtained.toList w after := by
  cases hp with
  | others hr => exact ⟨h.respects hr, .respects h hr⟩
  | stays hended =>
    refine ⟨hended.toOneAtATime, hended.toLasting, fun client hclient => .inl ?_,
      fun client hclient => .inl ?_⟩
    · exact hended.client.trans (hclient.resolve_right List.not_mem_nil)
    · exact hended.client.symm.trans hclient
  | ends obtained hnone hmade hended =>
    refine ⟨hended.toOneAtATime, hended.toLasting, fun client hclient => .inl ?_,
      fun client hclient => .inr ?_⟩
    · rcases hclient with hclient | hclient
      · cases hnone.symm.trans hclient
      · exact hended.client.trans (Option.mem_toList.1 hclient)
    · exact Option.mem_toList.2 (hended.client.symm.trans hclient)
  | begins config obtained v hlasting hnone hremoved hkept hcreated =>
    refine ⟨hcreated.toOneAtATime, hlasting.trans hcreated.toLasting, fun client hclient => ?_,
      fun client hclient => .inr ?_⟩
    · rcases hclient with hclient | hclient
      · obtain ⟨m, hm⟩ := h.known client hclient
        exact .inr (hcreated.isRemoved (hremoved client m hclient hm))
      · exact .inl (hcreated.client.trans (Option.mem_toList.1 hclient))
    · exact Option.mem_toList.2 (hcreated.client.symm.trans hclient)

/-! ## A single occasion -/

section

variable {shared position : Nat} {t : Task} {w : World N A}

theorem turns_without (shared : Nat) (ht : w.store.ready[position]? = some t) :
    w.turns shared = (w.without position).turns shared + if t.proceeds shared then 1 else 0 := by
  obtain ⟨hlt, rfl⟩ := List.getElem?_eq_some_iff.1 ht
  have hperm := (List.getElem_cons_eraseIdx_perm hlt).countP_eq (·.proceeds shared)
  simp only [World.turns, System.tasks, without, update, List.countP_append, ← hperm,
    List.countP_cons]
  omega

theorem elsewhere_without (ht : w.store.ready[position]? = some t)
    (hp : t.proceeds shared = false) : Elsewhere shared w (w.without position) := by
  refine .of_clients rfl rfl rfl rfl ?_
  simp [turns_without shared ht, hp]

/-- The initialization that waits to go on has the turn. -/
theorem OneAtATime.hasTurn_without (h : OneAtATime shared w)
    (ht : w.store.ready[position]? = some t) (hp : t.proceeds shared = true) :
    HasTurn shared (w.without position) := by
  have hturns : w.turns shared = (w.without position).turns shared + 1 := by
    simpa [hp] using turns_without shared ht
  have hle := h.turns
  refine ⟨h.runtime, h.locked (by omega), by omega, fun creation => ?_, h.known⟩
  cases hc : w.constructs? shared creation with
  | none => exact hc
  | some client =>
    have := (h.constructs creation client hc).2.1
    omega

/-- An initialization that has its turn with a task has it there. -/
theorem OneAtATime.turnOf (h : OneAtATime shared w) (ht : w.store.ready[position]? = some t)
    {label : String} {config : Config} {v : World N A}
    (hv : (w.without position).turnOf? shared t = some (label, config, v)) :
    HasTurn shared v ∧ Lasting w v ∧ v.sharedClient? shared = w.sharedClient? shared ∧
      v.sharedConfig? shared = w.sharedConfig? shared ∧
      ∀ x : Surroundings N A, x.run t (w.without position) =
        Surroundings.watch (x.proceed shared label config v) := by
  cases t with
  | proceed number l c =>
    obtain ⟨⟨rfl, -⟩, hsame⟩ := Option.ite_none_right_eq_some.1 hv
    obtain ⟨rfl, rfl, rfl⟩ : l = label ∧ c = config ∧ w.without position = v := by
      simpa using hsame
    exact ⟨h.hasTurn_without ht (by simp [Task.proceeds]),
      ⟨fun _ m hm => ⟨m, hm, .refl m⟩, fun _ c hc => ⟨c, hc, rfl, rfl⟩⟩, rfl, rfl, fun _ => rfl⟩
  | setUp number l c =>
    obtain ⟨⟨rfl, hsome, hfree⟩, hsame⟩ := Option.ite_none_right_eq_some.1 hv
    obtain ⟨rfl, rfl, rfl⟩ : l = label ∧ c = config ∧ (w.without position).lock number = v := by
      simpa using hsame
    have hwithout : Elsewhere number w (w.without position) := elsewhere_without ht rfl
    obtain ⟨hclient, hconfig⟩ := (w.without position).lock_keeps number
    refine ⟨(h.elsewhere hwithout).lock hsome hfree,
      ⟨fun _ m hm => ⟨m, hm, .refl m⟩, fun _ c hc => ⟨c, hc, rfl, rfl⟩⟩, hclient, hconfig,
      fun x => ?_⟩
    obtain ⟨s, hs⟩ := Option.isSome_iff_exists.1 hsome
    have hlocked : s.locked = false := by simpa [isLocked, hs] using hfree
    simp only [Surroundings.run, Outside.setUp, hs, hlocked, Bool.false_eq_true, if_false]
    rfl
  | _ => cases hv

/-- An initialization that does not have its turn waits for it. -/
theorem elsewhere_setUp (x : Surroundings N A) {label : String} {config : Config}
    (h : w.turnOf? shared (.setUp shared label config) = none) :
    Elsewhere shared w (x.run (.setUp shared label config) w) := by
  refine Elsewhere.trans ?_ (.watch (x.setUp shared label config w))
  unfold Outside.setUp
  cases hs : w.shared? shared with
  | none => exact .refl w
  | some s =>
    have hlocked : s.locked = true := by simpa [turnOf?, hs, isLocked] using h
    simp only [hlocked, if_true]
    exact .modifyShared shared w fun _ _ => ⟨rfl, rfl, rfl⟩

end

/-- What becomes of a shared client when a construction for it is looked at. -/
theorem OneAtATime.progress_of_await {shared : Nat} {mayRemove : Prop} {w : World N A}
    (h : OneAtATime shared w) {creation client : Nat}
    (hc : w.constructs? shared creation = some client) :
    Progress shared mayRemove w (w.await creation) none (w.handsOver? creation) := by
  rcases h.await hc with ⟨hover, hsame⟩ | hended
  · rw [hover, hsame]
    exact .others (.of_elsewhere (.refl w))
  · refine .ends _ (h.constructs creation client hc).2.2.1 (fun made hmade => ?_) hended
    obtain rfl := handsOver?_eq hc hmade
    exact ⟨creation, hc⟩

section

variable {x : Surroundings N A} {shared : Nat} {mayRemove : Prop}
  (hx : x.KeepsTo (Awake (Respects shared mayRemove)))

include hx

/-- What happens at once is others' work. -/
theorem respects_happen {h : Happening N A} (hdirect : h.isDirect = true) {w : World N A}
    (hr : w.store.runtime = true) :
    Respects shared (mayRemove ∨ h = .removeShared shared) w (x.happen h w) := by
  have hR := (Respects.frame shared mayRemove : Frame (N := N) (A := A) shared _ _).awake
  have hothers {after : World N A} (h' : Awake (Respects shared mayRemove) w after) :
      Respects shared (mayRemove ∨ h = .removeShared shared) w after := (h'.2 hr).2.mono .inl
  cases h with
  | perform o => exact hothers (hR.perform hx.tell o (fun _ _ => trivial) w)
  | emit event payload => exact hothers (hR.emit hx.tell event payload w)
  | request r => exact hothers (hR.request hx.tell r w)
  | create requester config =>
    cases requester with
    | name label =>
      exact hothers (hR.create hx.tell (rfl : (Requester.name label).isOf shared = false) config w)
    | shared number label => cases hdirect
  | newShared => exact .of_elsewhere (.newShared w)
  | removeShared number =>
    by_cases hn : number = shared
    · subst hn
      exact (respects_removeShared hx.tell hr).mono fun _ => .inr rfl
    · exact hothers (hR.removeShared hx.tell hn fun _ _ => trivial)
  | register number interest callback => exact .of_elsewhere (.register number interest callback w)
  | deregister number id => exact .of_elsewhere (.deregister number id w)
  | beside native app now names => exact .of_elsewhere (.aside rfl rfl rfl rfl rfl rfl)
  | turn t => cases hdirect
  | setUp number label config => cases hdirect

/-- A task that brings no initialization on is others' work. -/
theorem respects_run {w : World N A} (hr : w.store.runtime = true) {position : Nat} {t : Task}
    (ht : w.store.ready[position]? = some t)
    (h : (w.without position).advances shared t = false) :
    Respects shared mayRemove w (x.run t (w.without position)) := by
  have hR := (Respects.frame shared mayRemove : Frame (N := N) (A := A) shared _ _).awake
  have hp : t.proceeds shared = false := by
    cases t with
    | proceed number label config => exact h
    | _ => rfl
  have hrun := ((hR.run hx h fun _ _ _ _ _ => trivial).2 hr).2
  exact (Respects.of_elsewhere (elsewhere_without ht hp)).trans hrun

/-- What becomes of a shared client when an initialization has its turn. -/
theorem OneAtATime.progress_of_turn {w : World N A} (h : OneAtATime shared w) {position : Nat}
    {t : Task} (ht : w.store.ready[position]? = some t) {label : String} {config : Config}
    {v : World N A} (hturn : (w.without position).turnOf? shared t = some (label, config, v)) :
    Progress shared mayRemove w (x.run t (w.without position))
      (if v.offers shared config then none else some config)
      (x.obtainsInTurn? shared label config v) := by
  obtain ⟨hv, hlasting, hclient, hconfig, hrun⟩ := h.turnOf ht hturn
  rw [hrun]
  have hwatch : Elsewhere shared (x.proceed shared label config v).1
      (Surroundings.watch (x.proceed shared label config v)) := .watch _
  rcases hv.proceed hx.tell label config with
    ⟨ho, hnone, hended⟩ | ⟨ho, u, hdropped, hkept, hcreated⟩
  · rw [ho, hnone]
    rw [hclient] at hended
    exact .stays ((hended.elsewhere hwatch).of_lasting hlasting hconfig)
  · rw [ho]
    refine .begins config _ u (hlasting.trans hdropped.toLasting) hdropped.client
      (fun client m hc hm => ?_) hkept (hcreated.elsewhere hwatch)
    obtain ⟨m', hm', -⟩ := hlasting.clients client m hm
    exact hdropped.removed client m' (hclient.trans hc) hm'

/-- What becomes of a shared client in the turn of a task. -/
theorem OneAtATime.progress_run {w : World N A} (h : OneAtATime shared w) {position : Nat}
    {t : Task} (ht : w.store.ready[position]? = some t) :
    Progress shared mayRemove w (x.run t (w.without position))
      ((w.without position).beginsIn? shared t)
      (x.obtainsIn? shared t (w.without position)) := by
  cases hturn : (w.without position).turnOf? shared t with
  | some p =>
    simp only [beginsIn?, Outside.obtainsIn?, hturn]
    exact h.progress_of_turn hx ht hturn
  | none =>
    have hbegins : (w.without position).beginsIn? shared t = none := by
      simp only [beginsIn?, hturn]
    rw [hbegins]
    -- Nothing is obtained unless a construction for the shared client is looked at.
    have hothers (hadvances : (w.without position).advances shared t = false)
        (hobtains : x.obtainsIn? shared t (w.without position) = none) :
        Progress shared mayRemove w (x.run t (w.without position)) none
          (x.obtainsIn? shared t (w.without position)) := by
      rw [hobtains]
      exact .others (respects_run hx h.runtime ht hadvances)
    cases t with
    | proceed number label config =>
      refine hothers (beq_eq_false_iff_ne.2 ?_) (by simp only [Outside.obtainsIn?, hturn])
      rintro rfl
      have hlocked : w.isLocked number = true := by
        refine h.locked (Nat.lt_of_lt_of_eq ?_ (turns_without number ht).symm)
        simp [Task.proceeds]
      obtain ⟨s, hs, -⟩ := (Option.any_eq_true _ _).1 hlocked
      have hs : (w.without position).shared? number = some s := hs
      simp [turnOf?, hs] at hturn
    | setUp number label config =>
      by_cases hn : number = shared
      · subst hn
        simp only [Outside.obtainsIn?, hturn]
        exact .others (.of_elsewhere ((elsewhere_without ht rfl).trans (elsewhere_setUp x hturn)))
      · exact hothers (beq_eq_false_iff_ne.2 hn) (by simp only [Outside.obtainsIn?, hturn])
    | await creation =>
      have hwithout : Elsewhere shared w (w.without position) := elsewhere_without ht rfl
      cases hc : (w.without position).constructs? shared creation with
      | none => exact hothers (by simp [advances, hc]) (by simp [Outside.obtainsIn?, hturn, hc])
      | some client =>
        simp only [Outside.obtainsIn?, hturn, hc, Option.isSome_some, if_true]
        exact ((h.elsewhere hwithout).progress_of_await hc).of_elsewhere hwithout
    | _ => exact hothers rfl (by simp only [Outside.obtainsIn?, hturn])

/-- What a single occasion does to a shared client: an initialization may come to its end or
make a client, and then others are at work. -/
theorem OneAtATime.progress_meet {w : World N A} (h : OneAtATime shared w) (o : Occasion N A) :
    ∃ mid, Progress shared (mayRemove ∨ o.removes shared) w mid (o.begins? shared w)
        (o.obtains? x.toOutside shared w) ∧
      Respects shared (mayRemove ∨ o.removes shared) mid (x.meet o w) := by
  have hothers {after : World N A} (hr : Respects shared (mayRemove ∨ o.removes shared) w after) :
      ∃ mid, Progress shared (mayRemove ∨ o.removes shared) w mid none none ∧
        Respects shared (mayRemove ∨ o.removes shared) mid after :=
    ⟨after, .others hr, .of_elsewhere (.refl after)⟩
  cases o with
  | happening happening direct =>
    refine hothers ((respects_happen hx direct h.runtime).mono (Or.imp_right ?_))
    rintro rfl
    exact beq_self_eq_true shared
  | callFor number label config =>
    exact hothers (.of_elsewhere (.enqueue rfl w))
  | wake => exact hothers (.of_elsewhere (.wakeDue w))
  | turn position =>
    have hnever : (mayRemove ∨ (Occasion.turn position : Occasion N A).removes shared) =
        mayRemove := by simp [Occasion.removes]
    simp only [hnever, Occasion.begins?, Occasion.obtains?, Occasion.task?, Surroundings.meet]
      at hothers ⊢
    cases ht : w.store.ready[position]? with
    | none => exact hothers (.of_elsewhere (.refl w))
    | some t =>
      have hrun := h.progress_run hx ht
      refine ⟨_, hrun, ?_⟩
      have hR := (Respects.frame shared mayRemove : Frame (N := N) (A := A) shared _ _).awake
      exact ((hR.question hx t (w.without position)).2 (h.progress hrun).1.runtime).2

/-! ## Runs -/

/-- After an occasion at most one initialization holds the lock, and clients gave way to others. -/
theorem OneAtATime.meet {w : World N A} (h : OneAtATime shared w) (o : Occasion N A) :
    OneAtATime shared (x.meet o w) ∧
      Turnover shared (o.obtains? x.toOutside shared w).toList w (x.meet o w) := by
  obtain ⟨mid, hp, hr⟩ := h.progress_meet hx o
  obtain ⟨hmid, hprogress⟩ := h.progress hp
  have hmeet := hprogress.trans (.respects hmid hr)
  rw [List.append_nil] at hmeet
  exact ⟨hmid.respects hr, hmeet⟩

/-- So it is after any run. -/
theorem OneAtATime.meetAll {w : World N A} (h : OneAtATime shared w) (run : List (Occasion N A)) :
    OneAtATime shared (x.meetAll run w) ∧
      Turnover shared (x.obtained shared run w) w (x.meetAll run w) := by
  induction run generalizing w with
  | nil => exact ⟨h, .refl w⟩
  | cons o run ih =>
    obtain ⟨hone, hmeet⟩ := h.meet hx o
    obtain ⟨hall, hrest⟩ := ih hone
    exact ⟨hall, hmeet.trans hrest⟩

end

end World

namespace Surroundings

open World

/-- However initializations of a shared client, removals, registrations and all else are
interleaved: of the clients that it ever obtained at most one was not removed, which is the one that
it holds, and it holds none that it did not obtain. -/
theorem obtained_removed_or_held {x : Surroundings N A} {shared : Nat}
    (hx : x.KeepsTo (Awake (Respects shared True))) {w : World N A} (hw : Unused w)
    (hr : w.store.runtime = true) (run : List (Occasion N A)) :
    let after := x.meetAll run w
    let obtained := x.obtained shared run w
    (∀ client ∈ obtained, ∀ other ∈ obtained, after.isRemoved client = false →
      after.isRemoved other = false → client = other) ∧
    (∀ client ∈ obtained, after.isRemoved client = false →
      after.sharedClient? shared = some client) ∧
    ∀ client, after.sharedClient? shared = some client → client ∈ obtained := by
  intro after obtained
  obtain ⟨-, hturnover⟩ := (OneAtATime.of_unused hw hr).meetAll hx run
  have hheld (client : Nat) (hclient : client ∈ obtained)
      (hlive : after.isRemoved client = false) : after.sharedClient? shared = some client :=
    (hturnover.kept client (.inr hclient)).resolve_right (by simp [after, hlive])
  refine ⟨fun client hc other ho hlive hlive' => ?_, hheld, fun client hclient => ?_⟩
  · exact Option.some.inj ((hheld client hc hlive).symm.trans (hheld other ho hlive'))
  · refine (hturnover.source client hclient).resolve_left ?_
    simp [sharedClient?, shared?, hw.shareds]

/-- Surroundings in which callbacks and interceptors do nothing. -/
def quiet (layer : Layer N) : Surroundings N A where
  layer := layer
  tell _ _ w := (w, true)
  consult _ _ w := (w, .decided (.proceed none))
  resume _ _ w := (w, .proceed none)

theorem keepsTo_quiet (layer : Layer N) {R : World N A → World N A → Prop}
    (hrefl : ∀ w, R w w) : (quiet layer : Surroundings N A).KeepsTo R :=
  ⟨fun _ _ => hrefl, fun _ _ => hrefl, fun _ _ => hrefl⟩

/-- A world in which nothing happened yet, with a native layer that answers later. -/
def unanswered : World Recorder Unit :=
  { store := { native := { initAnswer := none }, app := () } }

theorem unused_unanswered : Unused unanswered := ⟨⟨rfl, rfl, rfl, rfl, rfl⟩, rfl, rfl⟩

/-- A shared client is set up. -/
def makesShared : Occasion N A := .happening .newShared rfl

/-- The native layer reports that a client is there. -/
def reports (clientId : String) : Occasion N A :=
  .happening (.emit (Recorder.initialized clientId true).key.name
    (Recorder.initialized clientId true).payload) rfl

/-- While a client is made for one configuration, another one is asked for. -/
def replacing : List (Occasion Recorder Unit) :=
  [makesShared,
    .callFor 0 "a" { clientId := "c1", host := "broker.test", port := 1883 }, .turn 0,
    .callFor 0 "b" { clientId := "c2", host := "broker.test", port := 1883 }, .turn 0,
    reports "c1", .turn 0, .turn 0, reports "c2", .turn 0]

/-- The first client has been removed, and the second one is held. -/
theorem obtained_removed_or_held_of_replacing :
    let x : Surroundings Recorder Unit := quiet Recorder.layer
    let after := x.meetAll replacing unanswered
    x.obtained 0 replacing unanswered = [0, 1] ∧ after.isRemoved 0 = true ∧
      after.isRemoved 1 = false ∧ after.sharedClient? 0 = some 1 := by
  intro x after
  have hobtained : x.obtained 0 replacing unanswered = [0, 1] := by decide +kernel
  have hlive : after.isRemoved 1 = false := by decide +kernel
  have hframe := (Respects.frame 0 True : Frame (N := Recorder) (A := Unit) 0 _ _).awake
  obtain ⟨hone, hheld, -⟩ := obtained_removed_or_held (keepsTo_quiet Recorder.layer
    hframe.refl) unused_unanswered rfl replacing
  have hsecond : 1 ∈ x.obtained 0 replacing unanswered := by simp [hobtained]
  refine ⟨hobtained, ?_, hlive, hheld 1 hsecond hlive⟩
  by_contra hremoved
  exact absurd (hone 0 (by simp [x, hobtained]) 1 hsecond (by simpa using hremoved) hlive) nofun

end Surroundings

end MqttRelay.Client
