import MqttRelay.Proofs.Client.ElsewhereTasks
import MqttRelay.Proofs.Client.Realm

/-!
# The turns of a shared client

The lock of a shared client is held on behalf of one initialization at a time: of one that is in
the middle of its turn, of one whose construction goes on, or of one that waits to go on. While it
is held nobody else ends a construction or begins one, but the client may be removed at any time.
A client that a construction goes on for is not there before the earlier one was removed.

Results:
* `OneAtATime.respects`: whatever others do, at most one initialization holds the lock.
* `HasTurn.proceed`, `OneAtATime.await`: what an initialization does in its turn, and at the end of
  its construction.
* `respects_removeShared`: what the removal of a shared client does.
-/

namespace MqttRelay.Client

open Native

variable {N A : Type}

namespace World

/-! ## What others do -/

/-- What others do to a shared client: they neither begin an initialization nor bring one on. They
leave its client and its configuration as they are, or remove the client, if they may, and forget
the configuration. -/
structure Respects (shared : Nat) (mayRemove : Prop) (w after : World N A) : Prop
    extends Lasting w after where
  runtime : after.store.runtime = w.store.runtime
  locked : after.isLocked shared = w.isLocked shared
  constructs : ∀ creation, after.constructs? shared creation = w.constructs? shared creation
  turns : after.turns shared = w.turns shared
  hold : after.sharedClient? shared = w.sharedClient? shared ∧
      after.sharedConfig? shared = w.sharedConfig? shared ∨
    mayRemove ∧ after.sharedClient? shared = none ∧ after.sharedConfig? shared = none ∧
      ∀ client m, w.sharedClient? shared = some client → w.client? client = some m →
        after.isRemoved client = true

namespace Respects

variable {shared : Nat} {mayRemove : Prop}

theorem of_elsewhere {w after : World N A} (h : Elsewhere shared w after) :
    Respects shared mayRemove w after :=
  ⟨h.toLasting, h.runtime, h.locked, h.constructs, h.turns, .inl ⟨h.client, h.config⟩⟩

theorem trans {a b c : World N A} (h₁ : Respects shared mayRemove a b)
    (h₂ : Respects shared mayRemove b c) : Respects shared mayRemove a c := by
  refine ⟨h₁.toLasting.trans h₂.toLasting, h₂.runtime.trans h₁.runtime,
    h₂.locked.trans h₁.locked, fun k => (h₂.constructs k).trans (h₁.constructs k),
    h₂.turns.trans h₁.turns, ?_⟩
  rcases h₁.hold with ⟨hclient, hconfig⟩ | ⟨hmay, hclient, hconfig, hremoved⟩
  · rcases h₂.hold with ⟨hclient', hconfig'⟩ | ⟨hmay, hclient', hconfig', hremoved⟩
    · exact .inl ⟨hclient'.trans hclient, hconfig'.trans hconfig⟩
    · refine .inr ⟨hmay, hclient', hconfig', fun _ m hc hm => ?_⟩
      obtain ⟨m', hm', -⟩ := h₁.clients _ m hm
      exact hremoved _ m' (hclient.trans hc) hm'
  · refine .inr ⟨hmay, ?_, ?_, fun client m hc hm => h₂.isRemoved (hremoved client m hc hm)⟩
    · exact h₂.hold.elim (fun h => h.1.trans hclient) fun h => h.2.1
    · exact h₂.hold.elim (fun h => h.2.trans hconfig) fun h => h.2.2.1

theorem markRemoved (client : Nat) (w : World N A) :
    Respects shared mayRemove w (w.markRemoved client) :=
  ⟨lasting_markRemoved client w, rfl, rfl, fun _ => rfl, rfl, .inl ⟨rfl, rfl⟩⟩

/-- Others may give up any client. -/
theorem frame (shared : Nat) (mayRemove : Prop) :
    Frame shared (fun _ => True) (Respects shared mayRemove : World N A → World N A → Prop) :=
  ⟨of_elsewhere, fun _ => markRemoved _, trans, toLasting⟩

theorem mono {w after : World N A} {may : Prop} (h : Respects shared mayRemove w after)
    (himp : mayRemove → may) : Respects shared may w after :=
  { h with hold := h.hold.imp_right (And.imp_left himp) }

end Respects

/-- A relation that holds where work can be scheduled. Elsewhere an initialization cannot wait,
and what a callback does about it comes to its end at once. -/
def Awake (R : World N A → World N A → Prop) (w after : World N A) : Prop :=
  Lasting w after ∧ (w.store.runtime = true → after.store.runtime = true ∧ R w after)

theorem Frame.awake {shared : Nat} {mayGo : Nat → Prop} {R : World N A → World N A → Prop}
    (hR : Frame shared mayGo R) : Frame shared mayGo (Awake R) := by
  refine ⟨fun h => ⟨h.toLasting, fun hr => ⟨h.runtime.trans hr, hR.elsewhere h⟩⟩,
    fun hclient w => ⟨lasting_markRemoved _ w, fun hr => ⟨hr, hR.gone hclient w⟩⟩,
    fun h₁ h₂ => ⟨h₁.1.trans h₂.1, fun hr => ?_⟩, And.left⟩
  obtain ⟨hr', hab⟩ := h₁.2 hr
  obtain ⟨hr'', hbc⟩ := h₂.2 hr'
  exact ⟨hr'', hR.trans hab hbc⟩

/-! ## Who holds the lock -/

/-- An initialization of a shared client is in the middle of its turn: it holds the lock, and none
other waits for its construction or for going on. -/
structure HasTurn (shared : Nat) (w : World N A) : Prop where
  runtime : w.store.runtime = true
  locked : w.isLocked shared = true
  turns : w.turns shared = 0
  constructs : ∀ creation, w.constructs? shared creation = none
  known : ∀ client, w.sharedClient? shared = some client → ∃ m, w.client? client = some m

/-- The lock of a shared client is held for each construction that goes on and for each
initialization that waits to go on, of which there is one in all, and there is no client while a
construction goes on. -/
structure OneAtATime (shared : Nat) (w : World N A) : Prop where
  runtime : w.store.runtime = true
  turns : w.turns shared ≤ 1
  locked : 0 < w.turns shared → w.isLocked shared = true
  constructs : ∀ creation client, w.constructs? shared creation = some client →
    w.isLocked shared = true ∧ w.turns shared = 0 ∧ w.sharedClient? shared = none ∧
      (∃ m, w.client? client = some m) ∧
      ∀ other, other ≠ creation → w.constructs? shared other = none
  known : ∀ client, w.sharedClient? shared = some client → ∃ m, w.client? client = some m

theorem HasTurn.oneAtATime {shared : Nat} {w : World N A} (h : HasTurn shared w) :
    OneAtATime shared w where
  runtime := h.runtime
  turns := h.turns ▸ Nat.zero_le 1
  locked _ := h.locked
  constructs creation _ hc := absurd ((h.constructs creation).symm.trans hc) nofun
  known := h.known

namespace OneAtATime

variable {shared : Nat} {w after : World N A}

theorem of_unused (h : Unused w) (hr : w.store.runtime = true) : OneAtATime shared w := by
  have hshared : w.shared? shared = none := by simp [shared?, h.shareds]
  refine ⟨hr, ?_, ?_, ?_, ?_⟩
  · simp [World.turns, System.tasks, h.ready, h.sleeping]
  · simp [World.turns, System.tasks, h.ready, h.sleeping]
  · simp [constructs?, h.creations]
  · simp [sharedClient?, hshared]

/-- Whatever others do, at most one initialization holds the lock. -/
theorem respects {mayRemove : Prop} (h : OneAtATime shared w)
    (hr : Respects shared mayRemove w after) : OneAtATime shared after where
  runtime := hr.runtime.trans h.runtime
  turns := hr.turns.symm ▸ h.turns
  locked ht := hr.locked.trans (h.locked (hr.turns ▸ ht))
  constructs creation client hc := by
    rw [hr.constructs] at hc
    obtain ⟨hlocked, hturns, hnone, ⟨m, hm⟩, hother⟩ := h.constructs creation client hc
    obtain ⟨m', hm', -⟩ := hr.clients client m hm
    refine ⟨hr.locked.trans hlocked, hr.turns.trans hturns, ?_, ⟨m', hm'⟩,
      fun other ho => (hr.constructs other).trans (hother other ho)⟩
    exact hr.hold.elim (fun hold => hold.1.trans hnone) fun hold => hold.2.1
  known _ hc := by
    rcases hr.hold with ⟨hsame, -⟩ | ⟨-, hnone, -⟩
    · obtain ⟨m, hm⟩ := h.known _ (hsame ▸ hc)
      obtain ⟨m', hm', -⟩ := hr.clients _ m hm
      exact ⟨m', hm'⟩
    · cases hnone.symm.trans hc

theorem elsewhere (h : OneAtATime shared w) (he : Elsewhere shared w after) :
    OneAtATime shared after := h.respects (.of_elsewhere he : Respects shared False w after)

/-- While nobody has the lock, whoever takes it has the turn. -/
theorem lock (h : OneAtATime shared w) (hs : (w.shared? shared).isSome = true)
    (hfree : w.isLocked shared = false) : HasTurn shared (w.lock shared) where
  runtime := h.runtime
  locked := by
    obtain ⟨s, hs⟩ := Option.isSome_iff_exists.1 hs
    simp [isLocked, World.lock, shared?_modifyShared, hs]
  turns := by
    by_contra hne
    cases hfree.symm.trans (h.locked (Nat.pos_of_ne_zero hne))
  constructs creation := by
    cases hc : w.constructs? shared creation with
    | none => exact hc
    | some client => cases hfree.symm.trans (h.constructs creation client hc).1
  known client hc := h.known client ((w.lock_keeps shared).1 ▸ hc)

/-- A construction is closed, and the initialization it went on for has its turn again. -/
theorem close (h : OneAtATime shared w) {creation client : Nat}
    (hc : w.constructs? shared creation = some client) : HasTurn shared (w.close creation) where
  runtime := h.runtime
  locked := (h.constructs creation client hc).1
  turns := (h.constructs creation client hc).2.1
  constructs other := by
    rw [constructs?_close]
    split
    · rfl
    · next hne => exact (h.constructs creation client hc).2.2.2.2 other (Ne.symm hne)
  known := h.known

end OneAtATime

namespace HasTurn

variable {shared : Nat} {w after : World N A}

theorem respects {mayRemove : Prop} (h : HasTurn shared w)
    (hr : Respects shared mayRemove w after) : HasTurn shared after where
  runtime := hr.runtime.trans h.runtime
  locked := hr.locked.trans h.locked
  turns := hr.turns.trans h.turns
  constructs creation := (hr.constructs creation).trans (h.constructs creation)
  known := (h.oneAtATime.respects hr).known

theorem elsewhere (h : HasTurn shared w) (he : Elsewhere shared w after) :
    HasTurn shared after := h.respects (.of_elsewhere he : Respects shared False w after)

end HasTurn

/-! ## The end of a turn -/

/-- An initialization has come to its end, and the shared client has this client. -/
structure Ended (shared : Nat) (client : Option Nat) (w after : World N A) : Prop
    extends Lasting w after, OneAtATime shared after where
  idle : ∀ creation, after.constructs? shared creation = none
  client : after.sharedClient? shared = client
  config : after.sharedConfig? shared = w.sharedConfig? shared

namespace Ended

variable {shared : Nat} {client : Option Nat} {a b c : World N A}

theorem elsewhere (h : Ended shared client a b) (he : Elsewhere shared b c) :
    Ended shared client a c :=
  { toLasting := h.toLasting.trans he.toLasting
    toOneAtATime := h.toOneAtATime.elsewhere he
    idle := fun k => (he.constructs k).trans (h.idle k)
    client := he.client.trans h.client
    config := he.config.trans h.config }

theorem of_lasting (h : Ended shared client b c) (hl : Lasting a b)
    (hconfig : b.sharedConfig? shared = a.sharedConfig? shared) : Ended shared client a c :=
  { h with
    toLasting := hl.trans h.toLasting
    config := h.config.trans hconfig }

end Ended

theorem turns_enqueue (shared : Nat) (t : Task) (w : World N A) :
    (w.update (·.enqueue t)).turns shared =
      w.turns shared + if t.proceeds shared then 1 else 0 := by
  simp only [World.turns, System.tasks, update, System.enqueue, List.countP_append,
    List.countP_cons, List.countP_nil]
  omega

namespace HasTurn

variable {shared : Nat} {w : World N A}

/-- At the end of a turn the lock is free, or it is held for the one that waits to go on. -/
theorem ended_of (h : HasTurn shared w) {after : World N A} {s s' : Shared}
    (hclients : after.store.clients = w.store.clients)
    (hcreations : after.store.creations = w.store.creations)
    (hruntime : after.store.runtime = w.store.runtime) (hs : w.shared? shared = some s)
    (hs' : after.shared? shared = some s') (hclient : s'.client = s.client)
    (hconfig : s'.config = s.config)
    (hturns : after.turns shared = 0 ∨ after.turns shared = 1 ∧ s'.locked = true) :
    Ended shared (w.sharedClient? shared) w after := by
  have hlasting : Lasting w after := by
    refine ⟨fun _ m hm => ⟨m, ?_, .refl m⟩, fun _ c hc => ⟨c, ?_, rfl, rfl⟩⟩
    · rwa [client?, hclients]
    · rwa [hcreations]
  have hidle (creation : Nat) : after.constructs? shared creation = none := by
    rw [constructs?, hcreations]
    exact h.constructs creation
  have hsame : after.sharedClient? shared = w.sharedClient? shared := by
    simp [sharedClient?, hs, hs', hclient]
  refine ⟨hlasting, ⟨hruntime.trans h.runtime, ?_, fun ht => ?_, fun creation client hc => ?_,
    fun client hc => ?_⟩, hidle, hsame, by simp [sharedConfig?, hs, hs', hconfig]⟩
  · rcases hturns with ht | ⟨ht, -⟩ <;> omega
  · rcases hturns with ht' | ⟨-, hlocked⟩
    · omega
    · simp [isLocked, hs', hlocked]
  · cases (hidle creation).symm.trans hc
  · obtain ⟨m, hm⟩ := h.known client (hsame ▸ hc)
    obtain ⟨m', hm', -⟩ := hlasting.clients client m hm
    exact ⟨m', hm'⟩

/-- The lock is given up, or it passes to the first initialization that waits for it. -/
theorem unlock (h : HasTurn shared w) :
    Ended shared (w.sharedClient? shared) w (w.unlock shared) := by
  obtain ⟨s, hs, hlocked⟩ := (Option.any_eq_true _ _).1 h.locked
  have hset (f : Shared → Shared) :
      (w.update (·.modifyShared shared f)).shared? shared = some (f s) := by
    simp [shared?_modifyShared, hs]
  simp only [World.unlock, hs]
  split
  · exact h.ended_of rfl rfl rfl hs (hset fun h => { h with locked := false }) rfl rfl
      (.inl h.turns)
  · next label config rest _ =>
    refine h.ended_of rfl rfl rfl hs (hset fun h => { h with waiting := rest }) rfl rfl
      (.inr ⟨?_, hlocked⟩)
    refine (turns_enqueue shared (.proceed shared label config) _).trans ?_
    simpa [Task.proceeds] using h.turns

/-- An initialization ends without a new client. -/
theorem finish_none (h : HasTurn shared w) (label : String) :
    Ended shared (w.sharedClient? shared) w (w.finish (.shared shared label) none) :=
  h.unlock.elsewhere (.note _ _)

/-- An initialization ends with a new client. -/
theorem finish_some (h : HasTurn shared w) (label : String) {client : Nat}
    (hknown : ∃ m, w.client? client = some m) :
    Ended shared (some client) w (w.finish (.shared shared label) (some client)) := by
  have hattached : Elsewhere shared w (w.attachQueued shared client) :=
    .attachQueued shared client w
  obtain ⟨s, hs, hlocked⟩ := (Option.any_eq_true _ _).1 (h.elsewhere hattached).locked
  simp only [World.finish]
  generalize w.attachQueued shared client = v at hattached hs ⊢
  have hset : (v.update (·.modifyShared shared fun h => { h with client := some client })).shared?
      shared = some { s with client := some client } := by
    simp [shared?_modifyShared, hs]
  have hturn : HasTurn shared
      (v.update (·.modifyShared shared fun h => { h with client := some client })) := by
    have hv := h.elsewhere hattached
    refine ⟨hv.runtime, by simp [isLocked, hset, hlocked], hv.turns, hv.constructs,
      fun other hother => ?_⟩
    obtain rfl : client = other := by simpa [sharedClient?, hset] using hother
    obtain ⟨m, hm⟩ := hknown
    obtain ⟨m', hm', -⟩ := hattached.clients client m hm
    exact ⟨m', hm'⟩
  have hended := (hturn.unlock.elsewhere (.note (.made (.shared shared label) true) _)).elsewhere
    (.hold label client _)
  have hheld : (v.update (·.modifyShared shared fun h =>
      { h with client := some client })).sharedClient? shared = some client := by
    simp [sharedClient?, hset]
  rw [hheld] at hended
  refine hended.of_lasting ?_ ?_
  · exact hattached.toLasting.trans
      ⟨fun _ m hm => ⟨m, hm, .refl m⟩, fun _ c hc => ⟨c, hc, rfl, rfl⟩⟩
  · refine Eq.trans ?_ hattached.config
    simp [sharedConfig?, hset, hs]

end HasTurn

/-- The client that a construction hands over if it is looked at now. -/
def handsOver? (creation : Nat) (w : World N A) : Option Nat :=
  if (w.look creation).2 = some true then (w.store.creations[creation]?).map (·.client) else none

theorem handsOver?_eq {shared creation client other : Nat} {w : World N A}
    (hc : w.constructs? shared creation = some client)
    (ho : w.handsOver? creation = some other) : client = other := by
  obtain ⟨c, hget, hif⟩ := Option.bind_eq_some_iff.1 hc
  obtain ⟨-, hclient⟩ : (c.requester.isOf shared = true ∧ c.ended = false) ∧
      c.client = client := by simpa using hif
  obtain ⟨-, rfl⟩ : (w.look creation).2 = some true ∧ c.client = other := by
    simpa [handsOver?, hget] using ho
  exact hclient.symm

/-- A construction that goes on for a shared client is looked at: it goes on, or it ends, with a
client or without. -/
theorem OneAtATime.await {shared : Nat} {w : World N A} (h : OneAtATime shared w)
    {creation client : Nat} (hc : w.constructs? shared creation = some client) :
    w.handsOver? creation = none ∧ w.await creation = w ∨
      Ended shared (w.handsOver? creation) w (w.await creation) := by
  obtain ⟨c, hget, hif⟩ := Option.bind_eq_some_iff.1 hc
  obtain ⟨⟨hof, -⟩, hclient⟩ : (c.requester.isOf shared = true ∧ c.ended = false) ∧
      c.client = client := by simpa using hif
  obtain ⟨label, hrequester⟩ : ∃ label, c.requester = .shared shared label := by
    cases hr : c.requester with
    | name label => simp [hr, Requester.isOf] at hof
    | shared number label => exact ⟨label, by simpa [hr, Requester.isOf] using hof⟩
  obtain hl | ⟨v, answer, hv, hl⟩ := Elsewhere.look_cases shared creation w
  · left
    simp [handsOver?, World.await, hget, hl]
  · right
    have hcv : v.constructs? shared creation = some client := (hv.constructs creation).trans hc
    have hturn := (h.elsewhere hv).close hcv
    obtain ⟨-, -, hnone, ⟨m, hm⟩, -⟩ := (h.elsewhere hv).constructs creation client hcv
    have hlasting := hv.toLasting.trans (lasting_close creation v)
    cases answer with
    | true =>
      have hover : w.handsOver? creation = some client := by simp [handsOver?, hl, hget, hclient]
      have hawait : w.await creation =
          (v.close creation).finish (.shared shared label) (some client) := by
        simp only [World.await, hget, hl, hrequester, hclient]
      rw [hover, hawait]
      exact (hturn.finish_some label ⟨m, hm⟩).of_lasting hlasting hv.config
    | false =>
      have hover : w.handsOver? creation = none := by simp [handsOver?, hl]
      have hawait : w.await creation = (v.close creation).finish (.shared shared label) none := by
        simp only [World.await, hget, hl, hrequester]
      have hended := (hturn.finish_none label).of_lasting hlasting hv.config
      rw [show (v.close creation).sharedClient? shared = none from hnone] at hended
      rw [hover, hawait]
      exact hended

end World

namespace Outside

open World

/-- The client that the making of one hands over at once. -/
def creates? (outside : Outside N A) (requester : Requester) (config : Config)
    (w : World N A) : Option Nat :=
  match outside.start requester config w with
  | (w, some creation) => w.handsOver? creation
  | (_, none) => none

/-- The client that an initialization obtains at once when it has its turn. -/
def obtainsInTurn? (outside : Outside N A) (shared : Nat) (label : String) (config : Config)
    (w : World N A) : Option Nat :=
  if (w.shared? shared).isSome && !w.offers shared config then
    outside.creates? (.shared shared label) config (outside.drop shared (some config) w)
  else none

end Outside

/-! ## What an initialization does in its turn -/

namespace World

/-- The configuration that is kept stays, or it was forgotten by others, if they may. -/
def KeepsConfig (shared : Nat) (mayRemove : Prop) (config : Option Config) (after : World N A) :
    Prop :=
  after.sharedConfig? shared = config ∨ mayRemove ∧ after.sharedConfig? shared = none

theorem KeepsConfig.congr {shared : Nat} {mayRemove : Prop} {config : Option Config}
    {w after : World N A} (hw : w.KeepsConfig shared mayRemove config)
    (h : after.sharedConfig? shared = w.sharedConfig? shared) :
    after.KeepsConfig shared mayRemove config :=
  hw.imp h.trans (And.imp_right h.trans)

theorem KeepsConfig.trans {shared : Nat} {mayRemove : Prop} {config : Option Config}
    {w after : World N A} (hw : w.KeepsConfig shared mayRemove config)
    (h : after.KeepsConfig shared mayRemove (w.sharedConfig? shared)) :
    after.KeepsConfig shared mayRemove config := by
  rcases hw with hsame | ⟨hmay, hnone⟩
  · exact hsame ▸ h
  · exact .inr ⟨hmay, h.elim (fun h => h.trans hnone) And.right⟩

theorem Respects.keepsConfig {shared : Nat} {mayRemove : Prop} {w after : World N A}
    (h : Respects shared mayRemove w after) {config : Option Config}
    (hw : w.KeepsConfig shared mayRemove config) : after.KeepsConfig shared mayRemove config :=
  hw.trans (h.hold.imp And.right fun hold => ⟨hold.1, hold.2.2.1⟩)

/-- A shared client has given up its client, which was removed. -/
structure Dropped (shared : Nat) (mayRemove : Prop) (config : Option Config)
    (w after : World N A) : Prop extends Lasting w after where
  runtime : after.store.runtime = w.store.runtime
  locked : after.isLocked shared = w.isLocked shared
  constructs : ∀ creation, after.constructs? shared creation = w.constructs? shared creation
  turns : after.turns shared = w.turns shared
  client : after.sharedClient? shared = none
  kept : after.KeepsConfig shared mayRemove ((w.shared? shared).bind fun _ => config)
  removed : ∀ client m, w.sharedClient? shared = some client → w.client? client = some m →
    after.isRemoved client = true

namespace Dropped

variable {shared : Nat} {mayRemove : Prop} {config : Option Config} {a b c : World N A}

theorem of_shared? (hlasting : Lasting a b) (hruntime : b.store.runtime = a.store.runtime)
    (hshared : b.shared? shared =
      (a.shared? shared).map fun h => { h with client := none, config := config })
    (hconstructs : ∀ creation, b.constructs? shared creation = a.constructs? shared creation)
    (hturns : b.turns shared = a.turns shared)
    (hremoved : ∀ client m, a.sharedClient? shared = some client → a.client? client = some m →
      b.isRemoved client = true) : Dropped shared mayRemove config a b := by
  refine ⟨hlasting, hruntime, ?_, hconstructs, hturns, ?_, .inl ?_, hremoved⟩
  all_goals
    simp only [isLocked, sharedClient?, sharedConfig?, hshared]
    cases a.shared? shared <;> rfl

theorem respects (h : Dropped shared mayRemove config a b) (hr : Respects shared mayRemove b c) :
    Dropped shared mayRemove config a c where
  toLasting := h.toLasting.trans hr.toLasting
  runtime := hr.runtime.trans h.runtime
  locked := hr.locked.trans h.locked
  constructs k := (hr.constructs k).trans (h.constructs k)
  turns := hr.turns.trans h.turns
  client := hr.hold.elim (fun hold => hold.1.trans h.client) fun hold => hold.2.1
  kept := hr.keepsConfig h.kept
  removed client m hc hm := hr.isRemoved (h.removed client m hc hm)

/-- Others see a client removed, and its configuration forgotten. -/
theorem of_none (h : Dropped shared mayRemove none a b) : Respects shared True a b := by
  refine ⟨h.toLasting, h.runtime, h.locked, h.constructs, h.turns,
    .inr ⟨trivial, h.client, ?_, h.removed⟩⟩
  exact h.kept.elim (fun h => by simpa using h) And.right

theorem hasTurn (h : Dropped shared mayRemove config a b) (ha : HasTurn shared a) :
    HasTurn shared b where
  runtime := h.runtime.trans ha.runtime
  locked := h.locked.trans ha.locked
  turns := h.turns.trans ha.turns
  constructs k := (h.constructs k).trans (ha.constructs k)
  known _ hc := absurd (h.client.symm.trans hc) nofun

end Dropped

section Operations

variable {outside : Outside N A} {shared : Nat} {mayRemove : Prop}
  (htell : ∀ callback notice w,
    Awake (Respects shared mayRemove) w (outside.tell callback notice w).1)

include htell

/-- A client that is dropped is removed before anybody is told. -/
theorem dropped_drop (config : Option Config) {w : World N A} (hr : w.store.runtime = true) :
    Dropped shared mayRemove config w (outside.drop shared config w) := by
  let rest := w.update (·.modifyShared shared fun h => { h with client := none, config := config })
  have hset : rest.shared? shared =
      (w.shared? shared).map fun h => { h with client := none, config := config } := by
    simp [rest, shared?_modifyShared]
  have hlasting : Lasting w rest :=
    ⟨fun _ m hm => ⟨m, hm, .refl m⟩, fun _ c hc => ⟨c, hc, rfl, rfl⟩⟩
  -- Without a client there is nothing to be removed.
  have hnothing (hnone : ∀ client m, w.sharedClient? shared = some client →
      w.client? client = some m → False) : Dropped shared mayRemove config w rest :=
    .of_shared? hlasting rfl hset (fun _ => rfl) rfl fun client m hc hm =>
      (hnone client m hc hm).elim
  cases hc : w.sharedClient? shared with
  | none =>
    rw [show outside.drop shared config w = rest by simp only [Outside.drop, hc, rest]]
    refine hnothing fun client m hc' hm => ?_
    cases hc.symm.trans hc'
  | some client =>
    rw [show outside.drop shared config w = outside.remove client rest by
      simp only [Outside.drop, hc, rest]]
    cases hm : w.client? client with
    | none =>
      have hgone : outside.remove client rest = rest := by
        have : rest.client? client = none := hm
        simp only [Outside.remove, this]
      rw [hgone]
      refine hnothing fun other m hc' hm' => ?_
      obtain rfl := Option.some.inj (hc.symm.trans hc')
      cases hm.symm.trans hm'
    | some m =>
      have hmark : Dropped shared mayRemove config w (rest.markRemoved client) := by
        refine .of_shared? (hlasting.trans (lasting_markRemoved client rest)) rfl hset
          (fun _ => rfl) rfl fun other m' hc' hm' => ?_
        obtain rfl := Option.some.inj (hc.symm.trans hc')
        have hm : (rest.pin client).client? client = some m := hm
        simp [isRemoved, markRemoved, client?_modifyClient, hm, State.remove]
      have hrest := (((Respects.frame shared mayRemove).awake).remove_rest htell
        (show rest.client? client = some m from hm)).2 hr
      exact hmark.respects hrest.2

/-- For others the removal of a shared client is the removal of its client. -/
theorem respects_removeShared {w : World N A} (hr : w.store.runtime = true) :
    Respects shared True w (outside.removeShared shared w) := by
  rw [Outside.removeShared_eq]
  exact (dropped_drop htell none hr).of_none

end Operations

/-- A client is added for an initialization that has its turn. -/
theorem HasTurn.addClient {shared : Nat} {w : World N A} (h : HasTurn shared w)
    (hnone : w.sharedClient? shared = none) (label : String) (config : Config) :
    let after := (w.addClient (.shared shared label) config).1
    OneAtATime shared after ∧
      after.constructs? shared w.store.creations.length = some w.store.clients.length ∧
      ∃ m, after.client? w.store.clients.length = some m ∧ m.identity = config.identity := by
  intro after
  obtain ⟨listener, hcreations⟩ := w.creations_addClient (.shared shared label) config
  have hnew : after.constructs? shared w.store.creations.length = some w.store.clients.length := by
    rw [constructs?, hcreations, List.getElem?_concat_length]
    simp [Requester.isOf]
  have hother (k : Nat) (hk : k ≠ w.store.creations.length) :
      after.constructs? shared k = none := by
    rw [constructs?, hcreations]
    rcases Nat.lt_or_gt_of_ne hk with hlt | hgt
    · rw [List.getElem?_append_left hlt]
      exact h.constructs k
    · rw [List.getElem?_eq_none (by simpa using Nat.succ_le_of_lt hgt)]
      rfl
  have hmember : ∃ m, after.client? w.store.clients.length = some m ∧
      m.identity = config.identity := ⟨_, List.getElem?_concat_length, rfl⟩
  refine ⟨⟨h.runtime, h.oneAtATime.turns, fun _ => h.locked, fun k client hc => ?_,
    fun client hc => by cases hnone.symm.trans hc⟩, hnew, hmember⟩
  by_cases hk : k = w.store.creations.length
  · subst hk
    obtain rfl := Option.some.inj (hnew.symm.trans hc)
    obtain ⟨m, hm, -⟩ := hmember
    exact ⟨h.locked, h.turns, hnone, ⟨m, hm⟩, hother⟩
  · cases (hother k hk).symm.trans hc

/-- A client is held by a shared client, or a construction goes on for it. -/
def Has (shared client : Nat) (w : World N A) : Prop :=
  w.sharedClient? shared = some client ∨ ∃ creation, w.constructs? shared creation = some client

/-- A client is being made for a shared client that has none, or it was made and handed over. -/
structure Created (shared : Nat) (mayRemove : Prop) (config : Config) (client : Option Nat)
    (w after : World N A) : Prop extends Lasting w after, OneAtATime shared after where
  client : after.sharedClient? shared = client
  kept : after.KeepsConfig shared mayRemove (w.sharedConfig? shared)
  made : ∀ c, after.Has shared c →
    w.client? c = none ∧ ∃ m, after.client? c = some m ∧ m.identity = config.identity

theorem Created.elsewhere {shared : Nat} {mayRemove : Prop} {config : Config}
    {client : Option Nat} {a b c : World N A} (h : Created shared mayRemove config client a b)
    (he : Elsewhere shared b c) : Created shared mayRemove config client a c where
  toLasting := h.toLasting.trans he.toLasting
  toOneAtATime := h.toOneAtATime.elsewhere he
  client := he.client.trans h.client
  kept := h.kept.congr he.config
  made d hd := by
    simp only [Has, he.client, he.constructs] at hd
    obtain ⟨hnew, m, hm, hidentity⟩ := h.made d hd
    obtain ⟨m', hm', hb⟩ := he.clients d m hm
    exact ⟨hnew, m', hm', hb.identity.trans hidentity⟩

section Operations

variable {outside : Outside N A} {shared : Nat} {mayRemove : Prop}
  (htell : ∀ callback notice w,
    Awake (Respects shared mayRemove) w (outside.tell callback notice w).1)

include htell

/-- A client begins to be made for an initialization that has its turn. Either it has its turn
still and there is no client, or a construction goes on. -/
theorem HasTurn.start {w : World N A} (h : HasTurn shared w)
    (hnone : w.sharedClient? shared = none) (label : String) (config : Config) :
    let begun := outside.start (.shared shared label) config w
    Lasting w begun.1 ∧ begun.1.sharedClient? shared = none ∧
      begun.1.KeepsConfig shared mayRemove (w.sharedConfig? shared) ∧
      (begun.2 = none ∧ HasTurn shared begun.1 ∨
        ∃ creation client m, begun.2 = some creation ∧ OneAtATime shared begun.1 ∧
          begun.1.constructs? shared creation = some client ∧ w.client? client = none ∧
          begun.1.client? client = some m ∧ m.identity = config.identity) := by
  intro begun
  simp only [begun, Outside.start]
  split
  · have hcount : Elsewhere shared w (w.count .initFailed) := .count _ w
    exact ⟨hcount.toLasting, hnone, .inl rfl, .inl ⟨rfl, h.elsewhere hcount⟩⟩
  · -- Whatever callbacks do while the native layer is asked, the construction goes on.
    obtain ⟨hone, hnew, m, hm, hidentity⟩ := h.addClient hnone label config
    have hlasting := lasting_addClient (.shared shared label) config w
    have hr := ((Respects.frame shared mayRemove).awake.request htell
      (.create config.clientId config.host config.port config.options.usesTls)
      (w.addClient (.shared shared label) config).1).2 h.runtime
    have hask {v : World N A}
        (hv : Respects shared mayRemove (w.addClient (.shared shared label) config).1 v) :
        Lasting w v ∧ v.sharedClient? shared = none ∧
          v.KeepsConfig shared mayRemove (w.sharedConfig? shared) ∧ OneAtATime shared v ∧
          v.constructs? shared w.store.creations.length = some w.store.clients.length ∧
          ∃ m, v.client? w.store.clients.length = some m ∧ m.identity = config.identity := by
      obtain ⟨m', hm', hb⟩ := hv.clients _ m hm
      exact ⟨hlasting.trans hv.toLasting, (hone.respects hv).constructs _ _
        ((hv.constructs _).trans hnew) |>.2.2.1, hv.keepsConfig (.inl rfl), hone.respects hv,
        (hv.constructs _).trans hnew, m', hm', hb.identity.trans hidentity⟩
    split
    · next v f hv =>
      rw [hv] at hr
      obtain ⟨hl, hn, hk, ho, hc, -⟩ := hask hr.2
      obtain ⟨c, hget, -⟩ := Option.bind_eq_some_iff.1 hc
      have hu : Elsewhere shared v ((v.strip c).count .initFailed) := .strip c v
      have hclosed : v.fail (w.addClient (.shared shared label) config).2 =
          World.close w.store.creations.length ((v.strip c).count .initFailed) := fail_eq hget
      dsimp only
      rw [hclosed]
      exact ⟨(hl.trans hu.toLasting).trans (lasting_close _ _), hu.client.trans hn,
        hk.congr hu.config, .inl ⟨rfl, (ho.elsewhere hu).close ((hu.constructs _).trans hc)⟩⟩
    · next v hv =>
      rw [hv] at hr
      have hdue : Elsewhere shared v (v.update (·.modifyCreation w.store.creations.length
          fun c => { c with due := v.store.patience.map (v.store.now + ·) })) :=
        .modifyCreation _ v fun _ => ⟨rfl, rfl, rfl⟩
      obtain ⟨hl, hn, hk, ho, hc, m', hm', hi'⟩ := hask (hr.2.trans (.of_elsewhere hdue))
      exact ⟨hl, hn, hk, .inr ⟨_, _, m', rfl, ho, hc, List.getElem?_eq_none (Nat.le_refl _), hm',
        hi'⟩⟩

/-- An initialization that has its turn makes a client, as far as it goes at once. -/
theorem HasTurn.create {w : World N A} (h : HasTurn shared w)
    (hnone : w.sharedClient? shared = none) (label : String) (config : Config) :
    Created shared mayRemove config (outside.creates? (.shared shared label) config w) w
      (outside.create (.shared shared label) config w).1 := by
  obtain ⟨hl, hn, hk, hcases⟩ := h.start htell hnone label config
  simp only [Outside.creates?, Outside.create]
  generalize outside.start (.shared shared label) config w = begun at hl hn hk hcases ⊢
  obtain ⟨v, creation⟩ := begun
  rcases hcases with ⟨rfl, hturn⟩ | ⟨k, c, m, rfl, hone, hc, hnew, hm, hidentity⟩
  · have hended := hturn.finish_none label
    have hn : v.sharedClient? shared = none := hn
    rw [hn] at hended
    refine ⟨hl.trans hended.toLasting, hended.toOneAtATime, hended.client,
      hk.congr hended.config, ?_⟩
    rintro c (hc | ⟨k, hc⟩)
    · exact absurd (hended.client.symm.trans hc) nofun
    · exact absurd ((hended.idle k).symm.trans hc) nofun
  · dsimp only at hl hn hk hone hc hm ⊢
    rcases hone.await hc with ⟨hover, hsame⟩ | hended
    · rw [hover, hsame]
      refine ⟨hl, hone, hn, hk, ?_⟩
      rintro c' (hc' | ⟨k', hc'⟩)
      · exact absurd (hn.symm.trans hc') nofun
      · by_cases hk' : k' = k
        · subst hk'
          obtain rfl := Option.some.inj (hc.symm.trans hc')
          exact ⟨hnew, m, hm, hidentity⟩
        · exact absurd (((hone.constructs k c hc).2.2.2.2 k' hk').symm.trans hc') nofun
    · refine ⟨hl.trans hended.toLasting, hended.toOneAtATime, hended.client,
        hk.congr hended.config, ?_⟩
      rintro c' (hc' | ⟨k', hc'⟩)
      · obtain rfl : c = c' := handsOver?_eq hc (hended.client.symm.trans hc')
        obtain ⟨m', hm', hb⟩ := hended.clients c m hm
        exact ⟨hnew, m', hm', hb.identity.trans hidentity⟩
      · exact absurd ((hended.idle k').symm.trans hc') nofun

/-- An initialization that has its turn either hands out the client that is offered, or it drops
what there is and makes a client. -/
theorem HasTurn.proceed {w : World N A} (h : HasTurn shared w) (label : String)
    (config : Config) :
    w.offers shared config = true ∧
        outside.obtainsInTurn? shared label config w = none ∧
        Ended shared (w.sharedClient? shared) w (outside.proceed shared label config w).1 ∨
      w.offers shared config = false ∧ ∃ v, Dropped shared mayRemove (some config) w v ∧
        v.KeepsConfig shared mayRemove (some config) ∧
        Created shared mayRemove config (outside.obtainsInTurn? shared label config w) v
          (outside.proceed shared label config w).1 := by
  obtain ⟨s, hs, -⟩ := (Option.any_eq_true _ _).1 h.locked
  cases ho : w.offers shared config with
  | true =>
    obtain ⟨hsome, -⟩ := Bool.and_eq_true_iff.1 ho
    obtain ⟨client, hc⟩ := Option.isSome_iff_exists.1 hsome
    rw [outside.proceed_of_offers ho hc]
    refine .inl ⟨rfl, by simp [Outside.obtainsInTurn?, ho], ?_⟩
    exact (h.unlock.elsewhere (.note _ _)).elsewhere (.hold label client _)
  | false =>
    have hdropped := dropped_drop htell (some config) h.runtime
    have hobtains : outside.obtainsInTurn? shared label config w =
        outside.creates? (.shared shared label) config
          (outside.drop shared (some config) w) := by
      simp [Outside.obtainsInTurn?, hs, ho]
    rw [outside.proceed_of_not_offers hs ho, hobtains]
    refine .inr ⟨rfl, _, hdropped, ?_,
      (hdropped.hasTurn h).create htell hdropped.client label config⟩
    simpa [hs] using hdropped.kept

end Operations

end World

end MqttRelay.Client
