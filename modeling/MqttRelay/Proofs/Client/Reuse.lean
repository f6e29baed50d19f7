import MqttRelay.Proofs.Client.Succession

/-!
# The same client again

A shared client keeps the configuration that its client is made from, so that an initialization
for the same configuration gives the client out again. The configuration is entered before the
client is made, the client when it is there, and a removal of the shared client takes both out. If
one comes in between, the client is entered without its configuration, and the next initialization
replaces it. A client that is removed itself stays with the shared client, and is given out again.

Results:
* `Surroundings.reused_unless_removed`: unless the shared client is removed in between, its client
  is kept with the configuration that it was made from, and is given out for it without any
  request; unless it is removed itself, it is not removed.
* `Surroundings.replaced_if_removed_in_between`: what happens otherwise.
-/

namespace MqttRelay.Client

open World Native

variable {N A : Type}

/-! ## Clients that are given up -/

/-- The shared client that a task is an initialization of. -/
def Task.initialization? : Task → Option Nat
  | .setUp shared .. => some shared
  | .proceed shared .. => some shared
  | _ => none

namespace World

/-- Nobody but some clients is given up. -/
structure LosesOnly (mayGo : Nat → Prop) (w after : World N A) : Prop extends Lasting w after where
  alive : ∀ client, ¬ mayGo client → after.isRemoved client = true → w.isRemoved client = true

theorem LosesOnly.frame (shared : Nat) (mayGo : Nat → Prop) :
    Frame shared mayGo (LosesOnly mayGo : World N A → World N A → Prop) := by
  refine ⟨fun h => ⟨h.toLasting, fun client _ => h.alive client⟩,
    fun {client} hclient w => ⟨lasting_markRemoved client w, fun other hother hr => ?_⟩,
    fun h₁ h₂ => ⟨h₁.toLasting.trans h₂.toLasting,
      fun client hclient hr => h₁.alive client hclient (h₂.alive client hclient hr)⟩,
    LosesOnly.toLasting⟩
  have hne : client ≠ other := fun h => hother (h ▸ hclient)
  have hsame : (w.markRemoved client).client? other = w.client? other := by
    rw [World.markRemoved, client?_modifyClient]
    exact (if_neg hne).trans rfl
  rwa [isRemoved, hsame] at hr

/-- No task brings the initializations of two shared clients on. -/
theorem exists_advances_eq_false (t : Task) (w : World N A) :
    ∃ shared, w.advances shared t = false := by
  cases t with
  | setUp number label config => exact ⟨number + 1, by simp [advances]⟩
  | proceed number label config => exact ⟨number + 1, by simp [advances]⟩
  | await creation =>
    by_cases h : (w.constructs? 0 creation).isSome = true
    · refine ⟨1, ?_⟩
      obtain ⟨client, hc⟩ := Option.isSome_iff_exists.1 h
      obtain ⟨c, hget, hif⟩ := Option.bind_eq_some_iff.1 hc
      cases hr : c.requester <;> simp_all [advances, constructs?, Requester.isOf]
    · exact ⟨0, by simpa [advances] using h⟩
  | _ => exact ⟨0, rfl⟩

theorem initialization?_of_beginsIn? {shared : Nat} {t : Task} {w : World N A} {config : Config}
    (h : w.beginsIn? shared t = some config) : t.initialization? = some shared := by
  cases t with
  | setUp number label c =>
    by_cases hn : number = shared
    · exact congrArg some hn
    · simp [beginsIn?, turnOf?, hn] at h
  | proceed number label c =>
    by_cases hn : number = shared
    · exact congrArg some hn
    · simp [beginsIn?, turnOf?, hn] at h
  | _ => cases h

end World

namespace Occasion

theorem eq_of_removes {shared : Nat} {o : Occasion N A} (h : o.removes shared = true) :
    ∃ direct, o = .happening (.removeShared shared) direct := by
  cases o with
  | happening happening direct =>
    cases happening with
    | removeShared number =>
      obtain rfl := eq_of_beq h
      exact ⟨direct, rfl⟩
    | _ => cases h
  | _ => cases h

/-- The client that is given up, and the shared client that gives it up, unless it is removed
itself. -/
def givesUp? (o : Occasion N A) (w : World N A) : Option (Option Nat × Nat) :=
  match o with
  | .happening (.perform (.remove client)) _ => some (none, client)
  | .happening (.removeShared shared) _ => (w.sharedClient? shared).map (some shared, ·)
  | .turn position =>
    (w.store.ready[position]?).bind fun t =>
      t.initialization?.bind fun shared =>
        ((w.without position).beginsIn? shared t).bind fun _ =>
          (w.sharedClient? shared).map (some shared, ·)
  | _ => none

end Occasion

namespace Surroundings

variable {x : Surroundings N A} {mayGo : Nat → Prop} (hx : x.KeepsTo (LosesOnly mayGo))

include hx

/-- Nobody is given up but who the occasion or a callback gives up. -/
theorem losesOnly_meet (o : Occasion N A) {w : World N A}
    (hgone : ∀ shared? client, o.givesUp? w = some (shared?, client) → mayGo client) :
    LosesOnly mayGo w (x.meet o w) := by
  have hR (shared : Nat) : Frame shared mayGo (LosesOnly mayGo : World N A → World N A → Prop) :=
    LosesOnly.frame shared mayGo
  cases o with
  | callFor shared label config => exact (hR 0).elsewhere (.enqueue rfl w)
  | wake => exact (hR 0).elsewhere (.wakeDue w)
  | turn position =>
    simp only [meet]
    cases ht : w.store.ready[position]? with
    | none => exact (hR 0).refl w
    | some t =>
      obtain ⟨shared, hadvances⟩ := (w.without position).exists_advances_eq_false t
      have hproceeds : t.proceeds shared = false := by
        cases t with
        | proceed number label config => exact hadvances
        | _ => rfl
      refine (hR shared).trans ((hR shared).elsewhere (elsewhere_without ht hproceeds))
        ((hR shared).trans ((hR shared).run hx hadvances fun number config client hb hc => ?_)
          ((hR shared).question hx t _))
      have hc : w.sharedClient? number = some client := hc
      exact hgone (some number) client
        (by simp [Occasion.givesUp?, ht, initialization?_of_beginsIn? hb, hb, hc])
  | happening h direct =>
    cases h with
    | perform o =>
      refine (hR 0).perform hx.tell o (fun client ho => hgone none client ?_) w
      subst ho
      rfl
    | emit event payload => exact (hR 0).emit hx.tell event payload w
    | request r => exact (hR 0).request hx.tell r w
    | create requester config =>
      cases requester with
      | name label =>
        exact (hR 0).create hx.tell (rfl : (Requester.name label).isOf 0 = false) config w
      | shared number label => cases direct
    | newShared => exact (hR 0).elsewhere (.newShared w)
    | removeShared number =>
      refine (hR (number + 1)).removeShared hx.tell (Nat.ne_of_lt number.lt_succ_self)
        fun client hc => hgone (some number) client ?_
      simp [Occasion.givesUp?, hc]
    | register number interest callback =>
      exact (hR 0).elsewhere (.register number interest callback w)
    | deregister number id => exact (hR 0).elsewhere (.deregister number id w)
    | beside native app now names => exact (hR 0).elsewhere (.aside rfl rfl rfl rfl rfl rfl)
    | turn t => cases direct
    | setUp number label config => cases direct

end Surroundings

/-! ## The clients that a shared client has -/

namespace World

/-- How it comes that a shared client has a client after an occasion: it had it before, or the
client has just begun to be made. -/
inductive Tenure (shared client : Nat) (mayRemove removes : Prop) (w after : World N A) :
    Option Config → Option Nat → Prop
  | lasts (obtained : Option Nat) (had : w.Has shared client)
      (held : after.sharedClient? shared = some client →
        w.sharedClient? shared = some client ∨ obtained = some client)
      (kept : ¬ removes → after.KeepsConfig shared mayRemove (w.sharedConfig? shared))
      (forgotten : removes →
        w.sharedClient? shared = none ∧ after.sharedConfig? shared = none) :
      Tenure shared client mayRemove removes w after none obtained
  | starts (config : Config) (obtained : Option Nat) (fresh : w.client? client = none)
      (made : ∃ m, after.client? client = some m ∧ m.identity = config.identity)
      (kept : after.KeepsConfig shared mayRemove (some config))
      (held : after.sharedClient? shared = some client → obtained = some client) :
      Tenure shared client mayRemove removes w after (some config) obtained

/-- A client that was held, and that the shared client has still, has not been given up. -/
theorem Tenure.of_held {shared client : Nat} {mayRemove removes : Prop} {w after : World N A}
    {begun : Option Config} {obtained : Option Nat}
    (h : Tenure shared client mayRemove removes w after begun obtained) (hw : OneAtATime shared w)
    (hheld : w.sharedClient? shared = some client) : ¬ removes ∧ begun = none := by
  cases h with
  | lasts obtained had held kept forgotten =>
    refine ⟨fun hremoves => ?_, rfl⟩
    cases (forgotten hremoves).1.symm.trans hheld
  | starts config obtained fresh =>
    obtain ⟨m, hm⟩ := hw.known client hheld
    cases fresh.symm.trans hm

theorem Unused.not_has {shared client : Nat} {w : World N A} (h : Unused w) :
    ¬ w.Has shared client := by
  rintro (hheld | ⟨creation, hc⟩)
  · simp [sharedClient?, shared?, h.shareds] at hheld
  · simp [constructs?, h.creations] at hc

section

variable {x : Surroundings N A} {shared client : Nat} {mayRemove : Prop}
  (hx : x.KeepsTo (Awake (Respects shared mayRemove)))

include hx

/-- The removal of a shared client leaves it a construction, and no configuration. -/
theorem OneAtATime.tenure_removeShared {w : World N A} (h : OneAtATime shared w)
    (hhas : (x.removeShared shared w).Has shared client) :
    Tenure shared client mayRemove True w (x.removeShared shared w) none none := by
  rw [Outside.removeShared_eq] at hhas ⊢
  have hdropped := dropped_drop hx.tell none h.runtime
  obtain ⟨creation, hc⟩ : ∃ creation,
      (x.drop shared none w).constructs? shared creation = some client := by
    refine hhas.resolve_left fun hheld => ?_
    cases hdropped.client.symm.trans hheld
  rw [hdropped.constructs] at hc
  refine .lasts none (.inr ⟨creation, hc⟩) (fun hheld => ?_) (fun hnot => (hnot trivial).elim)
    fun _ => ⟨(h.constructs creation client hc).2.2.1, ?_⟩
  · cases hdropped.client.symm.trans hheld
  · exact hdropped.kept.elim (fun hkept => by simpa using hkept) And.right

/-- A client that a shared client has after an occasion. -/
theorem OneAtATime.tenure_meet {w : World N A} (h : OneAtATime shared w) (o : Occasion N A)
    (hhas : (x.meet o w).Has shared client) :
    Tenure shared client mayRemove (o.removes shared) w (x.meet o w) (o.begins? shared w)
      (o.obtains? x.toOutside shared w) := by
  by_cases hremoves : o.removes shared
  · rw [eq_true hremoves]
    obtain ⟨direct, rfl⟩ := Occasion.eq_of_removes hremoves
    exact h.tenure_removeShared hx hhas
  · obtain ⟨mid, hp, hr⟩ := h.progress_meet hx o
    have hmay : (mayRemove ∨ o.removes shared) = mayRemove := by simp [hremoves]
    rw [hmay] at hp hr
    -- What others do brings the shared client nothing.
    have hhad {a b : World N A} (hab : Respects shared mayRemove a b) :
        b.sharedClient? shared = some client → a.sharedClient? shared = some client := by
      intro hb
      rcases hab.hold with ⟨hsame, -⟩ | ⟨-, hnone, -⟩
      · exact hsame.symm.trans hb
      · cases hnone.symm.trans hb
    have hmid : mid.Has shared client :=
      hhas.imp (hhad hr) fun ⟨creation, hc⟩ => ⟨creation, (hr.constructs creation).symm.trans hc⟩
    have hlasts {obtained : Option Nat} (had : w.Has shared client)
        (hheld : mid.sharedClient? shared = some client →
          w.sharedClient? shared = some client ∨ obtained = some client)
        (hkept : mid.KeepsConfig shared mayRemove (w.sharedConfig? shared)) :
        Tenure shared client mayRemove (o.removes shared) w (x.meet o w) none obtained :=
      .lasts obtained had (fun h => hheld (hhad hr h)) (fun _ => hr.keepsConfig hkept)
        fun h => absurd h hremoves
    generalize o.begins? shared w = begun at hp ⊢
    generalize o.obtains? x.toOutside shared w = obtained at hp ⊢
    cases hp with
    | others hothers =>
      refine hlasts ?_ (fun h => .inl (hhad hothers h)) (hothers.keepsConfig (.inl rfl))
      exact hmid.imp (hhad hothers) fun ⟨creation, hc⟩ =>
        ⟨creation, (hothers.constructs creation).symm.trans hc⟩
    | stays hended =>
      have hheld : w.sharedClient? shared = some client := by
        refine (hended.client.symm.trans (hmid.resolve_right ?_))
        rintro ⟨creation, hc⟩
        cases (hended.idle creation).symm.trans hc
      exact hlasts (.inl hheld) (fun _ => .inl hheld) (.inl hended.config)
    | ends obtained hnone hmade hended =>
      have hheld : obtained = some client := by
        refine (hended.client.symm.trans (hmid.resolve_right ?_))
        rintro ⟨creation, hc⟩
        cases (hended.idle creation).symm.trans hc
      exact hlasts (.inr (hmade client hheld)) (fun _ => .inr hheld) (.inl hended.config)
    | begins config obtained v hlasting hnone hremoved hkept hcreated =>
      obtain ⟨hfresh, m, hm, hidentity⟩ := hcreated.made client hmid
      obtain ⟨m', hm', hb⟩ := hr.clients client m hm
      refine .starts config obtained ?_ ⟨m', hm', hb.identity.trans hidentity⟩ ?_
        fun h => hcreated.client.symm.trans (hhad hr h)
      · cases hw : w.client? client with
        | none => rfl
        | some m =>
          obtain ⟨m', hm', -⟩ := hlasting.clients client m hw
          cases hfresh.symm.trans hm'
      · exact hr.keepsConfig (hkept.trans hcreated.kept)

end

end World

/-! ## A client is given out again -/

namespace World

/-- An initialization gives out the client that is there, and nothing is asked of the native
layer. -/
structure HandsOut (shared : Nat) (label : String) (client : Nat) (w after : World N A) :
    Prop where
  native : after.store.native = w.store.native
  clients : after.store.clients = w.store.clients
  journal : after.store.journal =
    w.store.journal ++ [(w.store.now, .made (.shared shared label) true)]
  named : after.store.names.get? label = some client
  held : after.sharedClient? shared = some client

theorem turnOf?_setUp {shared : Nat} {label : String} {config : Config} {w : World N A}
    (hsome : (w.shared? shared).isSome = true) (hfree : w.isLocked shared = false) :
    w.turnOf? shared (.setUp shared label config) = some (label, config, w.lock shared) :=
  if_pos ⟨rfl, hsome, hfree⟩

theorem turnOf?_eq {shared : Nat} {t : Task} {label : String} {config : Config} {w v : World N A}
    (h : w.turnOf? shared t = some (label, config, v)) : v = w ∨ v = w.lock shared := by
  cases t with
  | setUp number l c =>
    obtain ⟨-, hsome⟩ := Option.ite_none_right_eq_some.1 h
    obtain ⟨-, -, rfl⟩ : l = label ∧ c = config ∧ w.lock shared = v := by simpa using hsome
    exact .inr rfl
  | proceed number l c =>
    obtain ⟨-, hsome⟩ := Option.ite_none_right_eq_some.1 h
    obtain ⟨-, -, rfl⟩ : l = label ∧ c = config ∧ w = v := by simpa using hsome
    exact .inl rfl
  | _ => cases h

/-- An initialization for the configuration that is kept gives the client out when its turn has
come. -/
theorem OneAtATime.handsOut {shared : Nat} {w : World N A} (h : OneAtATime shared w)
    {client : Nat} {config : Config} (hheld : w.sharedClient? shared = some client)
    (hkept : w.sharedConfig? shared = some config) {position : Nat} {t : Task}
    (ht : w.store.ready[position]? = some t) {label : String} {v : World N A}
    (hv : (w.without position).turnOf? shared t = some (label, config, v))
    (x : Surroundings N A) :
    HandsOut shared label client w (x.run t (w.without position)) := by
  obtain ⟨hturn, -, hclient, hconfig, hrun⟩ := h.turnOf ht hv
  have hoffers : v.offers shared config = true := by
    simp [offers, hclient, hheld, hconfig, hkept]
  have hbefore : v.store.native = w.store.native ∧ v.store.clients = w.store.clients ∧
      v.store.journal = w.store.journal ∧ v.store.now = w.store.now := by
    rcases turnOf?_eq hv with rfl | rfl <;> exact ⟨rfl, rfl, rfl, rfl⟩
  have hunlocked : (v.unlock shared).store.native = v.store.native ∧
      (v.unlock shared).store.clients = v.store.clients ∧
      (v.unlock shared).store.journal = v.store.journal ∧
      (v.unlock shared).store.now = v.store.now := by
    unfold World.unlock
    repeat' split
    all_goals exact ⟨rfl, rfl, rfl, rfl⟩
  rw [hrun x, x.proceed_of_offers hoffers (hclient.trans hheld) label]
  exact {
    native := hunlocked.1.trans hbefore.1
    clients := hunlocked.2.1.trans hbefore.2.1
    journal := by
      show (v.unlock shared).store.journal ++
        [((v.unlock shared).store.now, Entry.made (.shared shared label) true)] = _
      rw [hunlocked.2.2.1, hunlocked.2.2.2, hbefore.2.2.1, hbefore.2.2.2]
    named := Assoc.get?_insert_self ..
    held := hturn.unlock.client.trans (hclient.trans hheld) }

end World

/-! ## Runs -/

namespace Surroundings

theorem gather_append {α : Type} (x : Surroundings N A)
    (brings? : Occasion N A → World N A → Option α) (run more : List (Occasion N A))
    (w : World N A) : x.gather brings? (run ++ more) w =
      x.gather brings? run w ++ x.gather brings? more (x.meetAll run w) := by
  induction run generalizing w with
  | nil => rfl
  | cons o run ih => simp only [List.cons_append, gather, ih, List.append_assoc, meetAll,
      List.foldl_cons]

theorem meetAll_append (x : Surroundings N A) (run more : List (Occasion N A)) (w : World N A) :
    x.meetAll (run ++ more) w = x.meetAll more (x.meetAll run w) := by
  simp only [meetAll, List.foldl_append]

theorem meetAll_concat (x : Surroundings N A) (run : List (Occasion N A)) (o : Occasion N A)
    (w : World N A) : x.meetAll (run ++ [o]) w = x.meet o (x.meetAll run w) := by
  simp only [meetAll, List.foldl_append, List.foldl_cons, List.foldl_nil]

/-- Where a client comes from that a shared client has: with one occasion of the run it began to be
made, from the configuration that is kept unless the shared client was removed since. -/
structure Origin (x : Surroundings N A) (shared client : Nat) (mayRemove : Prop) (w : World N A)
    (before : List (Occasion N A)) (o : Occasion N A) (since : List (Occasion N A))
    (config : Config) : Prop where
  begins : o.begins? shared (x.meetAll before w) = some config
  alone : x.begun shared since (x.meetAll (before ++ [o]) w) = []
  obtained : (x.meetAll (before ++ o :: since) w).sharedClient? shared = some client →
    client ∈ x.obtained shared (o :: since) (x.meetAll before w)
  identity : ∃ m, (x.meetAll (before ++ o :: since) w).client? client = some m ∧
    m.identity = config.identity
  kept : (∀ o ∈ since, ¬ o.removes shared) →
    (x.meetAll (before ++ o :: since) w).KeepsConfig shared mayRemove (some config)
  forgotten : (∃ o ∈ since, o.removes shared) →
    (x.meetAll (before ++ o :: since) w).sharedConfig? shared = none

namespace Origin

variable {x : Surroundings N A} {shared client : Nat} {mayRemove : Prop} {w : World N A}
  {o : Occasion N A}

/-- A client comes from the occasion with which it began to be made. -/
theorem of_starts {run : List (Occasion N A)} {config : Config}
    (hbegins : o.begins? shared (x.meetAll run w) = some config)
    (hmade : ∃ m, (x.meet o (x.meetAll run w)).client? client = some m ∧
      m.identity = config.identity)
    (hkept : (x.meet o (x.meetAll run w)).KeepsConfig shared mayRemove (some config))
    (hheld : (x.meet o (x.meetAll run w)).sharedClient? shared = some client →
      o.obtains? x.toOutside shared (x.meetAll run w) = some client) :
    x.Origin shared client mayRemove w run o [] config := by
  constructor
  · exact hbegins
  · rfl
  · rw [meetAll_concat]
    intro h
    simp [Surroundings.obtained, gather, hheld h]
  · rwa [meetAll_concat]
  · rw [meetAll_concat]
    exact fun _ => hkept
  · rintro ⟨p, hp, -⟩
    cases hp

/-- And it does so after another occasion that leaves it there. -/
theorem concat {before since : List (Occasion N A)} {p : Occasion N A} {config : Config}
    (h : x.Origin shared client mayRemove w before p since config) {v : World N A}
    (hv : x.meetAll (before ++ p :: since) w = v) (hbegins : o.begins? shared v = none)
    (hlasting : Lasting v (x.meet o v))
    (hheld : (x.meet o v).sharedClient? shared = some client →
      v.sharedClient? shared = some client ∨ o.obtains? x.toOutside shared v = some client)
    (hkept : ¬ o.removes shared →
      (x.meet o v).KeepsConfig shared mayRemove (v.sharedConfig? shared))
    (hforgotten : o.removes shared → (x.meet o v).sharedConfig? shared = none) :
    x.Origin shared client mayRemove w before p (since ++ [o]) config := by
  have hafter : x.meetAll (before ++ p :: (since ++ [o])) w = x.meet o v := by
    rw [← List.cons_append, ← List.append_assoc, meetAll_concat, hv]
  have hsince : x.meetAll since (x.meetAll (before ++ [p]) w) = v := by
    rw [← meetAll_append, List.append_assoc, List.singleton_append, hv]
  have hfrom : x.meetAll (p :: since) (x.meetAll before w) = v := by rw [← meetAll_append, hv]
  constructor
  · exact h.begins
  · rw [begun, gather_append, hsince]
    simp only [gather, hbegins, Option.toList_none, List.append_nil]
    exact h.alone
  · rw [hafter, ← List.cons_append, Surroundings.obtained, gather_append, hfrom]
    refine fun hclient => List.mem_append.2 ((hheld hclient).imp (fun hbefore => ?_) fun hnow => ?_)
    · exact h.obtained (hv ▸ hbefore)
    · simp [gather, hnow]
  · rw [hafter]
    obtain ⟨m, hm, hidentity⟩ := h.identity
    obtain ⟨m', hm', hb⟩ := hlasting.clients client m (hv ▸ hm)
    exact ⟨m', hm', hb.identity.trans hidentity⟩
  · rw [hafter]
    intro hnone
    obtain ⟨hall, hlast⟩ := List.forall_mem_append.1 hnone
    have hbefore : v.KeepsConfig shared mayRemove (some config) := hv ▸ h.kept hall
    exact hbefore.trans (hkept (hlast o List.mem_cons_self))
  · rw [hafter]
    rintro ⟨q, hq, hremoves⟩
    by_cases ho : o.removes shared
    · exact hforgotten ho
    · have hq : q ∈ since := by
        refine (List.mem_append.1 hq).resolve_right fun hlast => ho ?_
        rwa [← List.mem_singleton.1 hlast]
      have hnone : v.sharedConfig? shared = none := hv ▸ h.forgotten ⟨q, hq, hremoves⟩
      exact (hkept ho).elim (fun hsame => hsame.trans hnone) And.right

end Origin

variable {x : Surroundings N A} {shared client : Nat} {mayRemove : Prop}
  (hx : x.KeepsTo (Awake (Respects shared mayRemove)))

include hx

/-- A client that a shared client has after a run comes from one of its occasions. -/
theorem exists_origin {w : World N A} (hw : Unused w) (hr : w.store.runtime = true)
    (run : List (Occasion N A)) (hhas : (x.meetAll run w).Has shared client) :
    ∃ before o since config, run = before ++ o :: since ∧
      x.Origin shared client mayRemove w before o since config := by
  induction run using List.reverseRecOn with
  | nil => exact absurd hhas hw.not_has
  | append_singleton run o ih =>
    obtain ⟨hone, -⟩ := (OneAtATime.of_unused hw hr).meetAll hx run
    rw [meetAll_concat] at hhas
    have htenure := hone.tenure_meet hx o hhas
    have hlasting := (hone.meet hx o).2.toLasting
    generalize hbegun : o.begins? shared (x.meetAll run w) = begun at htenure
    generalize hobtained : o.obtains? x.toOutside shared (x.meetAll run w) = obtained at htenure
    cases htenure with
    | starts config obtained fresh made kept held =>
      exact ⟨run, o, [], config, rfl, .of_starts hbegun made kept fun h => hobtained.trans (held h)⟩
    | lasts obtained had held kept forgotten =>
      obtain ⟨before, p, since, config, hrun, horigin⟩ := ih had
      refine ⟨before, p, since ++ [o], config, ?_, horigin.concat (hrun ▸ rfl) hbegun hlasting
        (fun h => (held h).imp_right hobtained.trans) kept fun h => (forgotten h).2⟩
      rw [hrun, List.append_assoc, List.cons_append]

omit hx in
/-- A shared client gives its client up when it is removed, or when another one begins to be
made. -/
theorem held_of_givesUp? {o : Occasion N A} {w : World N A}
    (h : o.givesUp? w = some (some shared, client)) : w.sharedClient? shared = some client ∧
      (o.removes shared ∨ ∃ config, o.begins? shared w = some config) := by
  cases o with
  | callFor => cases h
  | wake => cases h
  | turn position =>
    obtain ⟨t, ht, h⟩ := Option.bind_eq_some_iff.1 h
    obtain ⟨number, -, h⟩ := Option.bind_eq_some_iff.1 h
    obtain ⟨config, hconfig, h⟩ := Option.bind_eq_some_iff.1 h
    obtain ⟨rfl, hheld⟩ : number = shared ∧ w.sharedClient? number = some client := by
      simpa [and_comm] using h
    exact ⟨hheld, .inr ⟨config, by simpa [Occasion.begins?, Occasion.task?, ht] using hconfig⟩⟩
  | happening happening direct =>
    cases happening with
    | removeShared number =>
      obtain ⟨rfl, hheld⟩ : number = shared ∧ w.sharedClient? number = some client := by
        simpa [Occasion.givesUp?, and_comm] using h
      exact ⟨hheld, .inl (beq_self_eq_true number)⟩
    | perform o => cases o <;> simp [Occasion.givesUp?] at h
    | _ => cases h

/-- Unless a client is given up by others than its shared client, it is not removed while the
shared client has it. -/
theorem isRemoved_eq_false_of_has (hspared : x.KeepsTo (LosesOnly (· ≠ client))) {w : World N A}
    (hw : Unused w) (hr : w.store.runtime = true) (run : List (Occasion N A))
    (hothers : ∀ before o since shared?, run = before ++ o :: since →
      o.givesUp? (x.meetAll before w) = some (shared?, client) → shared? = some shared)
    (hhas : (x.meetAll run w).Has shared client) :
    (x.meetAll run w).isRemoved client = false := by
  induction run using List.reverseRecOn with
  | nil => exact absurd hhas hw.not_has
  | append_singleton run o ih =>
    have hone := ((OneAtATime.of_unused hw hr).meetAll hx run).1
    have hbefore := ih fun before p since shared? hrun =>
      hothers before p (since ++ [o]) shared? (by rw [hrun, List.append_assoc, List.cons_append])
    rw [meetAll_concat] at hhas ⊢
    have htenure := hone.tenure_meet hx o hhas
    have hgone : ∀ shared? other, o.givesUp? (x.meetAll run w) = some (shared?, other) →
        other ≠ client := by
      rintro shared? other hgives rfl
      obtain rfl := hothers run o [] shared? rfl hgives
      obtain ⟨hheld, hgives⟩ := held_of_givesUp? hgives
      obtain ⟨hnot, hnone⟩ := htenure.of_held hone hheld
      rcases hgives with hremoves | ⟨config, hconfig⟩
      · exact hnot hremoves
      · cases hnone.symm.trans hconfig
    by_contra hremoved
    have hlost := (losesOnly_meet hspared o hgone).alive client (not_not_intro rfl)
      (by simpa using hremoved)
    generalize o.begins? shared (x.meetAll run w) = begun at htenure
    generalize o.obtains? x.toOutside shared (x.meetAll run w) = obtained at htenure
    cases htenure with
    | starts config obtained fresh => simp [isRemoved, fresh] at hlost
    | lasts obtained had => cases hlost.symm.trans (hbefore had)

/-- A client that a shared client holds began to be made in one of the occasions of the run. The
configuration that it was made from is kept, unless the shared client was removed since, and as long
as it is kept, an initialization for it gives the client out without a request to the native layer.
Unless others gave the client up, it is not removed. -/
theorem reused_unless_removed {w : World N A} (hw : Unused w) (hr : w.store.runtime = true)
    (run : List (Occasion N A)) (hheld : (x.meetAll run w).sharedClient? shared = some client) :
    let after := x.meetAll run w
    ∃ before o since config, run = before ++ o :: since ∧
      x.Origin shared client mayRemove w before o since config ∧
      (after.sharedConfig? shared = some config ∨ after.sharedConfig? shared = none ∧
        (mayRemove ∨ ∃ o ∈ since, o.removes shared = true)) ∧
      (after.sharedConfig? shared = some config →
        ∀ position t label v, after.store.ready[position]? = some t →
          (after.without position).turnOf? shared t = some (label, config, v) →
          HandsOut shared label client after (x.run t (after.without position))) ∧
      (x.KeepsTo (LosesOnly (· ≠ client)) →
        (∀ before o since shared?, run = before ++ o :: since →
          o.givesUp? (x.meetAll before w) = some (shared?, client) → shared? = some shared) →
        after.isRemoved client = false) := by
  intro after
  obtain ⟨hone, -⟩ := (OneAtATime.of_unused hw hr).meetAll hx run
  obtain ⟨before, o, since, config, rfl, horigin⟩ := exists_origin hx hw hr run (.inl hheld)
  refine ⟨before, o, since, config, rfl, horigin, ?_, fun hkept position t label v ht hv =>
    hone.handsOut hheld hkept ht hv x, fun hspared hothers =>
    isRemoved_eq_false_of_has hx hspared hw hr _ hothers (.inl hheld)⟩
  by_cases hremoved : ∃ o ∈ since, o.removes shared = true
  · exact .inr ⟨horigin.forgotten hremoved, .inr hremoved⟩
  · have hkept := horigin.kept fun o ho hremoves => hremoved ⟨o, ho, hremoves⟩
    exact hkept.imp_right fun ⟨hmay, hnone⟩ => ⟨hnone, .inl hmay⟩

omit hx

/-- What a client is made from. -/
def oneConfig : Config := { clientId := "c1", host := "broker.test", port := 1883 }

/-- A client is made, and asked for again with the same configuration. -/
def askingAgain : List (Occasion Recorder Unit) :=
  [makesShared, .callFor 0 "a" oneConfig, .turn 0, reports "c1", .turn 0,
    .callFor 0 "b" oneConfig]

theorem reused_unless_removed_of_askingAgain :
    let x : Surroundings Recorder Unit := quiet Recorder.layer
    let after := x.meetAll askingAgain unanswered
    let task : Task := .setUp 0 "b" oneConfig
    after.sharedClient? 0 = some 0 ∧ after.sharedConfig? 0 = some oneConfig ∧
      after.isRemoved 0 = false ∧ after.store.ready = [task] ∧
      HandsOut 0 "b" 0 after (x.run task (after.without 0)) := by
  intro x after task
  have hkeeps : x.KeepsTo (Awake (Respects 0 False)) :=
    keepsTo_quiet Recorder.layer (Respects.frame 0 False).awake.refl
  have hloses : x.KeepsTo (LosesOnly (· ≠ 0)) :=
    keepsTo_quiet Recorder.layer (LosesOnly.frame 0 _).refl
  -- What is left to be seen of the run is computed.
  suffices h : ∀ run : List (Occasion Recorder Unit), (∀ o ∈ run, ¬ o.removes 0) →
      (∀ n < run.length, ((run[n]?).bind fun o =>
        o.givesUp? (x.meetAll (run.take n) unanswered)) = none) →
      (x.meetAll run unanswered).sharedClient? 0 = some 0 →
      (x.meetAll run unanswered).sharedConfig? 0 = some oneConfig →
      (x.meetAll run unanswered).store.ready = [task] →
      (x.meetAll run unanswered).isLocked 0 = false →
      (x.meetAll run unanswered).isRemoved 0 = false ∧
        HandsOut 0 "b" 0 (x.meetAll run unanswered)
          (x.run task ((x.meetAll run unanswered).without 0)) by
    have hheld : after.sharedClient? 0 = some 0 := by decide +kernel
    have hconfig : after.sharedConfig? 0 = some oneConfig := by decide +kernel
    have hready : after.store.ready = [task] := by decide +kernel
    obtain ⟨halive, hout⟩ := h askingAgain (by decide +kernel) (by decide +kernel) hheld hconfig
      hready (by decide +kernel)
    exact ⟨hheld, hconfig, halive, hready, hout⟩
  intro run hremovals hgives hheld hconfig hready hfree
  obtain ⟨before, o, since, config, rfl, -, hkept, hout, halive⟩ :=
    reused_unless_removed hkeeps unused_unanswered rfl run hheld
  have hkept := hkept.resolve_right fun ⟨_, hremoved⟩ => by
    obtain ⟨p, hp, hremoves⟩ := hremoved.resolve_left id
    exact hremovals p (by simp [hp]) hremoves
  obtain rfl := Option.some.inj (hkept.symm.trans hconfig)
  refine ⟨halive hloses fun before' p since' shared? hrun hgiven => ?_,
    hout hkept 0 task "b" _ (by rw [hready]; rfl) (turnOf?_setUp ?_ hfree)⟩
  · have h := hgives before'.length (by simp [hrun])
    rw [hrun] at h
    simp [hgiven] at h
  · obtain ⟨s, hs, -⟩ := Option.bind_eq_some_iff.1 hheld
    exact Option.isSome_of_eq_some hs

/-- A client is made, and the shared client is removed before it is there. -/
def removedInBetween : List (Occasion Recorder Unit) :=
  [makesShared, .callFor 0 "a" oneConfig, .turn 0,
    .happening (.removeShared 0) rfl, reports "c1", .turn 0]

/-- A client that came after a removal has lost its configuration, and is replaced when it is asked
for again. A client that is removed itself is held still. -/
theorem replaced_if_removed_in_between :
    let x : Surroundings Recorder Unit := quiet Recorder.layer
    let after := x.meetAll removedInBetween unanswered
    let again := x.meetAll [.callFor 0 "b" oneConfig, .turn 0] after
    let removed := x.meetAll (askingAgain ++ [.happening (.perform (.remove 0)) rfl]) unanswered
    (x.begun 0 removedInBetween unanswered = [oneConfig] ∧ after.sharedClient? 0 = some 0 ∧
      after.isRemoved 0 = false ∧ after.sharedConfig? 0 = none ∧
      again.isRemoved 0 = true ∧ again.store.native.calls = after.store.native.calls ++
        [.remove "c1", .create "c1" "broker.test" 1883 false]) ∧
    removed.sharedClient? 0 = some 0 ∧ removed.isRemoved 0 = true := by decide +kernel

end Surroundings

end MqttRelay.Client
