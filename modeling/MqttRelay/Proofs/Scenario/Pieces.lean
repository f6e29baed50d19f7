import MqttRelay.Proofs.Client.Orderly
import MqttRelay.Proofs.Client.Work
import MqttRelay.Proofs.Scenario.Closed

/-!
# Scenarios are made of pieces of work

Whatever a scenario does, in callbacks and interceptors as well, is made of pieces of work. So
what holds wherever pieces lead holds in every run of a scenario.

Results:
* `ofPieces_surroundings`: the callbacks and interceptors of a scenario are made of pieces.
* `leads_act`: a step at the outside is, with all work that follows it.
* `fresh_start`: a scenario begins where nothing happened yet.
-/

namespace MqttRelay.Scenario

open Client Client.World Native

namespace Leads

theorem giveUp {w : State} {p : State × Option Nat} {after : State → State} (hp : Leads w p.1)
    (hafter : ∀ w, Leads w (after w)) : Leads w (giveUp p after).1 := by
  unfold Scenario.giveUp
  split
  · exact hp
  · exact hp.trans ((World.Leads.close _ _).trans (hafter _))

/-- All that a scenario does is made of pieces. -/
theorem closed : Closed Leads where
  refl := .refl
  trans := .trans
  note := World.Leads.note
  modify := World.Leads.keepData
  native _ _ := World.Leads.aside rfl rfl rfl rfl rfl
  drop _ _ := World.Leads.aside rfl rfl rfl rfl rfl
  dropShared _ := World.Leads.aside rfl rfl rfl rfl rfl
  wake := World.Leads.wake
  callCreate label config w := World.Leads.enqueue (t := .create label config) rfl w
  callSetUp shared label config w := World.Leads.enqueue (t := .setUp shared label config) rfl w
  newShared := World.Leads.newShared
  register := World.Leads.register
  deregister := World.Leads.deregister
  operate hx := World.Leads.perform hx
  emit hx := World.Leads.emit hx
  deliver hx := World.Leads.deliverAll hx
  request hx := World.Leads.request hx
  removeShared hx := World.Leads.removeShared hx
  create hx label config w _ := giveUp (World.Leads.create hx (.name label) config w) .refl
  setUp hx shared label config w _ :=
    giveUp (World.Leads.setUp hx shared label config w) (World.Leads.unlock shared)

end Leads

/-- The callbacks and interceptors of a scenario are made of pieces of work. -/
theorem ofPieces_surroundings : surroundings.OfPieces where
  tell := Leads.closed.outside
  consult := Leads.closed.consult
  resume := Leads.closed.resume

/-- A scenario begins where nothing happened yet. -/
theorem fresh_start (s : Settings) : World.Fresh s.start := ⟨rfl, rfl, rfl, rfl, rfl⟩

/-- A step at the outside is made of pieces, with all work that follows it. -/
theorem leads_act (fuel : Nat) (s : Step) (w : State) (h : (act fuel s w).1.store.ready = []) :
    World.Leads w (act fuel s w).1 := by
  have hother (hs : (act fuel s w).1 = if (step outside s w).1.store.runtime then
      surroundings.settle fuel (step outside s w).1 else (step outside s w).1) :
      World.Leads w (act fuel s w).1 := by
    have hstep := Leads.closed.step Leads.closed.outside s w
    rw [hs] at h ⊢
    split
    · next hr =>
      rw [if_pos hr] at h
      exact hstep.trans (.settle ofPieces_surroundings fuel _ h)
    · exact hstep
  cases s with
  | advance ms => exact .advance ofPieces_surroundings _ fuel w h
  | _ => exact hother rfl

end MqttRelay.Scenario
