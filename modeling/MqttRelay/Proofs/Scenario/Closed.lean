import MqttRelay.Proofs.Client.Callbacks
import MqttRelay.Scenario.Run

/-!
# Relations that scenarios keep to

Whatever a scenario does is put together from operations on clients, requests, events, calls for
clients, and changes of what the application keeps. So a relation between worlds that composes, and
that holds across each of these, holds across all that callbacks and interceptors do.

Results:
* `Closed.step`, `Closed.perform`: steps and programs keep to such a relation.
* `Closed.outside`, `Closed.consult`, `Closed.resume`: so do callbacks and interceptors, however
  deep they nest.
-/

namespace MqttRelay.Scenario

open Client Native

/-- What callbacks do keeps to a relation. -/
def Tells (R : State → State → Prop) (x : Outside Recorder Store) : Prop :=
  ∀ callback notice w, R w (x.tell callback notice w).1

/-- A relation that composes, and that holds across all that a scenario does if callbacks keep to
it. -/
structure Closed (R : State → State → Prop) : Prop where
  refl : ∀ w, R w w
  trans : ∀ {a b c}, R a b → R b c → R a c
  note : ∀ e w, R w (World.note w e)
  modify : ∀ f (w : State), R w (w.modify f)
  native : ∀ f (w : State), R w (w.native f)
  drop : ∀ label w, R w (World.update w fun s => { s with names := s.names.erase label })
  dropShared : ∀ w, R w (World.update w fun s => { s with shared := none })
  wake : ∀ w, R w (World.wake w)
  callCreate : ∀ label config w, R w (World.update w (·.enqueue (.create label config)))
  callSetUp : ∀ shared label config w,
    R w (World.update w (·.enqueue (.setUp shared label config)))
  newShared : ∀ w, R w (World.newShared w)
  register : ∀ shared interest callback w, R w (World.register shared interest callback w).1
  deregister : ∀ shared id w, R w (World.deregister shared id w)
  operate : ∀ {x}, Tells R x → ∀ o w, R w (x.perform o w)
  emit : ∀ {x}, Tells R x → ∀ event payload w, R w (Hub.emit x.act event payload w).1
  deliver : ∀ {x}, Tells R x → ∀ events w, R w (x.deliverAll events w).1
  request : ∀ {x}, Tells R x → ∀ r w, R w (x.request r w).1
  removeShared : ∀ {x}, Tells R x → ∀ shared w, R w (x.removeShared shared w)
  /-- Where nothing can be waited for, the making of a client is given up. -/
  create : ∀ {x}, Tells R x → ∀ label config w, ¬ w.store.runtime = true →
    R w (giveUp (x.create (.name label) config w) id).1
  setUp : ∀ {x}, Tells R x → ∀ shared label config w, ¬ w.store.runtime = true →
    R w (giveUp (x.setUp shared label config w) (World.unlock shared)).1

namespace Closed

variable {R : State → State → Prop} (hR : Closed R)

include hR

/-! ## Single steps -/

theorem addCallback (c : Callback) (w : State) : R w (w.addCallback c).1 :=
  hR.modify (fun s => { s with callbacks := s.callbacks ++ [c] }) w

theorem keep (label : String) (h : Holder) (w : State) : R w (w.keep label h) :=
  hR.modify (fun s => { s with holders := s.holders.insert label h }) w

/-- A callback is added, and what it was registered with is kept. -/
theorem attend {A : Type} (watch : Watch Step) (register : Nat → State → State × A)
    (hregister : ∀ callback w, R w (register callback w).1) (holder : A → Holder) (w : State) :
    let added := w.addCallback ⟨watch.label, watch.program, watch.turns, watch.panics⟩
    let registered := register added.2 added.1
    R w (State.keep registered.1 watch.label (holder registered.2)) := by
  intro added registered
  have hadded : R w added.1 := hR.addCallback _ w
  have hregistered : R added.1 registered.1 := hregister added.2 added.1
  exact hR.trans (hR.trans hadded hregistered) (hR.keep _ _ registered.1)

theorem withClient (client : String) {f : Nat → Member → State → State × Answer}
    (hf : ∀ c m w, R w (f c m w).1) (w : State) : R w (withClient client f w).1 := by
  unfold Scenario.withClient
  split
  · exact hR.refl w
  · split
    · exact hR.refl w
    · exact hf _ _ w

theorem withShared {f : Nat → Shared → State → State × Answer}
    (hf : ∀ number h w, R w (f number h w).1) (w : State) : R w (withShared f w).1 := by
  unfold Scenario.withShared
  split
  · exact hR.refl w
  · split
    · exact hR.refl w
    · exact hf _ _ w

section Steps

variable {x : Outside Recorder Store} (hx : Tells R x)

include hx

theorem release (h : Holder) (w : State) : R w (release h w) := by
  cases h with
  | listener handle => exact hR.operate hx (.off handle) w
  | interceptor client number => exact hR.operate hx (.uninstall client number) w
  | shared shared id => exact hR.deregister shared id w

theorem subscribe (client : Nat) (wish : Wish Step) (w : State) :
    R w (subscribe x client wish w).1 := by
  let message := w.addCallback ⟨wish.label, wish.onMessage, wish.turns, wish.panics.1⟩
  let granted := message.1.addCallback ⟨wish.label, wish.onOutcome, wish.turns, wish.panics.2.1⟩
  let refused := granted.1.addCallback ⟨wish.label, wish.onOutcome, wish.turns, wish.panics.2.2⟩
  have hadded : R w refused.1 :=
    hR.trans (hR.trans (hR.addCallback _ w) (hR.addCallback _ message.1))
      (hR.addCallback _ granted.1)
  let wanted : Outside.Wish :=
    { topic := wish.topic
      qos := wish.qos
      onMessage := message.2
      onGranted := if wish.wantsGrant then some granted.2 else none
      onRefused := if wish.wantsRefusal then some refused.2 else none }
  let made := x.subscribe client wanted refused.1
  have hmade : R refused.1 made.1 := hR.operate hx (.subscribe client wanted) refused.1
  exact hR.trans (hR.trans hadded hmade) (hR.modify (fun s =>
    { s with subscriptions := s.subscriptions.insert wish.label made.2 }) made.1)

theorem intercept (client : Nat) (label : String) (plan : List (Plan Step)) (w : State) :
    let added := w.modify fun s => { s with interceptors := s.interceptors ++ [⟨label, plan, 0⟩] }
    let installed := World.installInterceptor client w.store.app.interceptors.length added
    R w (State.keep installed.1 label (.interceptor client installed.2)) := by
  intro added installed
  have hadded : R w added := hR.modify _ w
  have hinstalled : R added installed.1 :=
    hR.operate hx (.install client w.store.app.interceptors.length) added
  exact hR.trans (hR.trans hadded hinstalled) (hR.keep _ _ installed.1)

/-- A step keeps to the relation. -/
theorem step (s : Step) (w : State) : R w (step x s w).1 := by
  have hdeliver (events : List Emission) (w : State) : R w (Scenario.deliver x events w).1 :=
    hR.deliver hx events w
  cases s with
  | create label config =>
    unfold Scenario.step
    dsimp only
    split
    · exact hR.callCreate label config w
    · next hr => exact hR.create hx label config w hr
  | connect client overrides =>
    exact hR.withClient client (fun c _ w => hR.operate hx (.connect c overrides) w) w
  | disconnect client =>
    exact hR.withClient client (fun c _ w => hR.operate hx (.disconnect c) w) w
  | remove client => exact hR.withClient client (fun c _ w => hR.operate hx (.remove c) w) w
  | drop client => exact hR.withClient client (fun _ _ w => hR.drop client w) w
  | info client => exact hR.withClient client (fun _ _ w => hR.refl w) w
  | on client watch =>
    refine hR.withClient client (fun c _ (w : State) => ?_) w
    exact hR.attend watch (World.on c watch.interest)
      (fun callback w => hR.operate hx (.on c watch.interest callback) w) .listener w
  | intercept client label plan =>
    exact hR.withClient client (fun c _ w => hR.intercept hx c label plan w) w
  | off label =>
    unfold Scenario.step
    dsimp only
    split
    · exact hR.refl w
    · exact hR.release hx _ w
  | subscribe client wish =>
    exact hR.withClient client (fun c _ w => hR.subscribe hx c wish w) w
  | unsubscribe label =>
    unfold Scenario.step
    dsimp only
    split
    · exact hR.refl w
    · exact hR.operate hx (.unsubscribe _) w
  | emit event payload => exact hR.emit hx event payload w
  | emitOf subscription kind payload => exact hdeliver _ w
  | connected clientId => exact hR.trans (hR.native _ w) (hdeliver _ _)
  | disconnected clientId reason => exact hR.trans (hR.native _ w) (hdeliver _ _)
  | initialized clientId ready => exact hdeliver _ w
  | failure clientId event => exact hdeliver _ w
  | message subscription topic payload qos => exact hdeliver _ w
  | publish clientId topic payload qos => exact hdeliver _ w
  | granted subscription topic qos => exact hdeliver _ w
  | notGranted subscription message => exact hdeliver _ w
  | removeAll event => exact hR.trans (hR.operate hx (.removeAll event) w) (hR.wake _)
  | fail operation => exact hR.native _ w
  | restore operation => exact hR.native _ w
  | behave behavior => exact hR.native (fun r => { r with behavior := behavior }) w
  | calls clear =>
    unfold Scenario.step
    dsimp only
    split
    · exact hR.native _ w
    · exact hR.refl w
  | request r =>
    have hr := hR.request hx r w
    unfold Scenario.step
    dsimp only
    split
    · next h =>
      rw [h] at hr
      exact hr
    · next h =>
      rw [h] at hr
      exact hr
  | newShared => exact hR.newShared w
  | setUpShared label config =>
    refine hR.withShared (fun number _ w => ?_) w
    split
    · exact hR.callSetUp number label config w
    · next hr => exact hR.setUp hx number label config w hr
  | connectShared overrides =>
    refine hR.withShared (fun _ h w => ?_) w
    dsimp only
    split
    · next c _ => exact hR.operate hx (.connect c overrides) w
    · exact hR.refl w
  | disconnectShared =>
    refine hR.withShared (fun _ h w => ?_) w
    dsimp only
    split
    · next c _ => exact hR.operate hx (.disconnect c) w
    · exact hR.refl w
  | removeShared => exact hR.withShared (fun number _ w => hR.removeShared hx number w) w
  | subscribeShared wish =>
    refine hR.withShared (fun _ h w => ?_) w
    dsimp only
    split
    · exact hR.subscribe hx _ wish w
    · exact hR.refl w
  | sharedInfo => exact hR.withShared (fun _ _ w => hR.refl w) w
  | onShared watch =>
    refine hR.withShared (fun number _ (w : State) => ?_) w
    exact hR.attend watch (World.register number watch.interest)
      (hR.register number watch.interest) (.shared number) w
  | dropShared => exact hR.withShared (fun _ _ w => hR.dropShared w) w
  | _ => exact hR.refl w

/-- So does a program. -/
theorem perform (program : List Step) (w : State) : R w (perform x program w) := by
  induction program generalizing w with
  | nil => exact hR.refl w
  | cons s program ih => exact hR.trans (hR.trans (hR.step hx s w) (hR.note _ _)) (ih _)

end Steps

/-! ## Callbacks and interceptors -/

/-- Callbacks keep to the relation, however deep they nest. -/
theorem tell (depth callback : Nat) (notice : Notice) (w : State) :
    R w (tell depth callback notice w).1 := by
  induction depth generalizing callback notice w with
  | zero => exact hR.refl w
  | succ depth ih =>
    unfold Scenario.tell
    split
    · exact hR.refl w
    · dsimp only
      split
      · exact hR.note _ w
      · exact hR.trans (hR.trans (hR.note _ w) (hR.modify _ _))
          (hR.perform (x := ⟨Recorder.layer, Scenario.tell depth⟩) ih _ _)

theorem outside : Tells R Scenario.outside := fun callback notice w =>
  hR.tell _ callback notice w

theorem resume (interceptor call : Nat) (w : State) : R w (resume interceptor call w).1 := by
  unfold Scenario.resume
  split
  · exact hR.refl w
  · exact hR.perform hR.outside _ w

theorem consult (interceptor : Nat) (reason : Option ReasonCode) (w : State) :
    R w (consult interceptor reason w).1 := by
  unfold Scenario.consult
  split
  · exact hR.refl w
  · dsimp only
    have hfirst (f : Store → Store) (e : Entry) (program : List Step) :
        R w (Scenario.perform Scenario.outside program (World.note (w.modify f) e)) :=
      hR.trans (hR.trans (hR.modify f w) (hR.note e _)) (hR.perform hR.outside program _)
    split
    · exact hfirst _ _ _
    · split
      · exact hfirst _ _ _
      · exact hR.trans (hfirst _ _ _) (hR.resume interceptor _ _)

end Closed

end MqttRelay.Scenario
