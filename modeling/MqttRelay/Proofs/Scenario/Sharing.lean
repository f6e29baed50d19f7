import MqttRelay.Proofs.Client.Succession
import MqttRelay.Proofs.Scenario.Closed

/-!
# Scenarios and the turns of a shared client

Callbacks and interceptors of a scenario may do whatever a scenario does: they make and remove
clients, register callbacks, remove the shared client and call for initializations of it. Even so
they bring no initialization on while they run.

Results:
* `keepsTo_surroundings`: callbacks and interceptors of a scenario respect the turns of a shared
  client.
-/

namespace MqttRelay.Scenario

open Client Client.World Native

/-! ## Clients stay who they are -/

section Lasting

variable {x : Outside Recorder Store} (hx : Tells Lasting x)

include hx

/-- A client is made for a name, so for no shared client. -/
theorem lasting_create (label : String) (config : Config) (w : State) :
    Lasting w (x.create (.name label) config w).1 :=
  (frame_lasting 0).create hx (rfl : (Requester.name label).isOf 0 = false) config w

/-- What is done to one shared client is done elsewhere than the next one. -/
theorem lasting_setUp (number : Nat) (label : String) (config : Config) (w : State) :
    Lasting w (x.setUp number label config w).1 :=
  (frame_lasting (number + 1)).setUp hx (Nat.ne_of_lt number.lt_succ_self) label config
    fun _ _ _ _ => trivial

theorem lasting_removeShared (number : Nat) (w : State) :
    Lasting w (x.removeShared number w) :=
  (frame_lasting (number + 1)).removeShared hx (Nat.ne_of_lt number.lt_succ_self)
    fun _ _ => trivial

end Lasting

theorem lasting_unlock (number : Nat) (w : State) : Lasting w (World.unlock number w) :=
  (Elsewhere.unlock (Nat.ne_of_lt number.lt_succ_self) w).toLasting

/-- So they do when the making of a client is given up. -/
theorem lasting_giveUp {w : State} {p : State × Option Nat} {after : State → State}
    (hp : Lasting w p.1) (hafter : ∀ w, Lasting w (after w)) :
    Lasting w (giveUp p after).1 := by
  unfold Scenario.giveUp
  split
  · exact hp
  · exact hp.trans ((lasting_close _ _).trans (hafter _))

/-! ## Turns are respected -/

/-- The turns of a shared client are respected where work can be scheduled. -/
abbrev Regards (shared : Nat) : State → State → Prop := Awake (Respects shared True)

namespace Regards

theorem frame (shared : Nat) : Frame shared (fun _ => True) (Regards shared) :=
  (Respects.frame shared True).awake

/-- Where nothing can be waited for, clients stay who they are. -/
theorem giveUp {shared : Nat} {w : State} (hr : ¬ w.store.runtime = true)
    {p : State × Option Nat} {after : State → State} (hp : Lasting w p.1)
    (hafter : ∀ w, Lasting w (after w)) : Regards shared w (giveUp p after).1 :=
  ⟨lasting_giveUp hp hafter, fun h => absurd h hr⟩

/-- Any shared client may be removed. -/
theorem removeShared {shared : Nat} {x : Outside Recorder Store} (hx : Tells (Regards shared) x)
    (number : Nat) (w : State) : Regards shared w (x.removeShared number w) := by
  by_cases hn : number = shared
  · subst hn
    refine ⟨?_, fun hr => ?_⟩
    · exact lasting_removeShared (fun c n w => (hx c n w).1) number w
    · have hrespects := respects_removeShared hx hr
      exact ⟨hrespects.runtime.trans hr, hrespects⟩
  · exact (frame shared).removeShared hx hn fun _ _ => trivial

theorem closed (shared : Nat) : Closed (Regards shared) where
  refl := (frame shared).refl
  trans := (frame shared).trans
  note e w := (frame shared).elsewhere (.note e w)
  modify f w := (frame shared).elsewhere (.keepData f w)
  native _ _ := (frame shared).elsewhere (.aside rfl rfl rfl rfl rfl rfl)
  drop _ _ := (frame shared).elsewhere (.aside rfl rfl rfl rfl rfl rfl)
  dropShared _ := (frame shared).elsewhere (.aside rfl rfl rfl rfl rfl rfl)
  wake w := (frame shared).elsewhere (.wake w)
  callCreate _ _ w := (frame shared).elsewhere (.enqueue rfl w)
  callSetUp _ _ _ w := (frame shared).elsewhere (.enqueue rfl w)
  newShared w := (frame shared).elsewhere (.newShared w)
  register number interest callback w :=
    (frame shared).elsewhere (.register number interest callback w)
  deregister number id w := (frame shared).elsewhere (.deregister number id w)
  operate hx o w := (frame shared).perform hx o (fun _ _ => trivial) w
  emit hx := (frame shared).emit hx
  deliver hx := (frame shared).deliverAll hx
  request hx := (frame shared).request hx
  removeShared := removeShared
  create hx label config w hr :=
    giveUp hr (lasting_create (fun c n w => (hx c n w).1) label config w) .refl
  setUp hx number label config w hr :=
    giveUp hr (lasting_setUp (fun c n w => (hx c n w).1) number label config w)
      (lasting_unlock number)

end Regards

/-- Callbacks and interceptors of a scenario respect the turns of a shared client. -/
theorem keepsTo_surroundings (shared : Nat) :
    surroundings.KeepsTo (Awake (Respects shared True)) where
  tell := (Regards.closed shared).outside
  consult := (Regards.closed shared).consult
  resume := (Regards.closed shared).resume

end MqttRelay.Scenario
