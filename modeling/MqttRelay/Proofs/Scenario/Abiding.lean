import MqttRelay.Proofs.Client.Courses
import MqttRelay.Proofs.Scenario.Sharing

/-!
# Scenarios and the callbacks of a shared client

Callbacks and interceptors of a scenario may register callbacks with a shared client, remove them,
take listeners away and remove clients. Whatever they do is a course of deeds, in which no client is
obtained where an initialization can wait for its turn.

Results:
* `closed_abides`: what a scenario does is put together from such deeds.
* `surroundings_abides`: callbacks and interceptors of a scenario abide.
-/

namespace MqttRelay.Scenario

open Client Client.World Native

theorem closed_abides (shared : Nat) : Closed (Abides shared true : State → State → Prop) where
  refl := .refl shared true
  trans := .trans
  note e w := .aside (.note e w) (.note e w)
  modify f w := .aside (.keepData f w) (.aside rfl rfl rfl rfl)
  native _ _ := .aside (.aside rfl rfl rfl rfl rfl rfl) (.aside rfl rfl rfl rfl)
  drop _ _ := .aside (.aside rfl rfl rfl rfl rfl rfl) (.aside rfl rfl rfl rfl)
  dropShared _ := .aside (.aside rfl rfl rfl rfl rfl rfl) (.aside rfl rfl rfl rfl)
  wake w := .aside (.wake w) (.wake w)
  callCreate _ _ w := .aside (.enqueue rfl w) (.enqueue _ w)
  callSetUp _ _ _ w := .aside (.enqueue rfl w) (.enqueue _ w)
  newShared w := .aside (.newShared w) (.newShared w)
  register number interest callback w :=
    ⟨(Elsewhere.register number interest callback w : Elsewhere shared w _).toLasting,
      .register number interest callback w⟩
  deregister number id w :=
    ⟨(Elsewhere.deregister number id w : Elsewhere shared w _).toLasting, .deregister number id w⟩
  operate hx o w := .operate hx o w
  emit hx event payload w :=
    ⟨(frame_lasting shared).emit (fun c n w => (hx c n w).toLasting) event payload w,
      .emit hx event payload w⟩
  deliver hx events w :=
    ⟨(frame_lasting shared).deliverAll (fun c n w => (hx c n w).toLasting) events w,
      .deliverAll hx events w⟩
  request hx r w := ⟨Passes.lasting_request hx r w, .request hx r w⟩
  removeShared hx number w :=
    ⟨lasting_removeShared (fun c n w => (hx c n w).toLasting) number w, .drop hx number none w⟩
  -- Where nothing can be waited for, an initialization may have its turn at once.
  create hx label config w hr :=
    ⟨lasting_giveUp (lasting_create (fun c n w => (hx c n w).toLasting) label config w) .refl,
      fun h => absurd h hr⟩
  setUp hx number label config w hr :=
    ⟨lasting_giveUp (lasting_setUp (fun c n w => (hx c n w).toLasting) number label config w)
      (lasting_unlock number), fun h => absurd h hr⟩

/-- Callbacks and interceptors of a scenario leave the ending of an initialization to tasks. -/
theorem surroundings_abides (shared : Nat) :
    surroundings.KeepsTo (Abides shared true) where
  tell := (closed_abides shared).outside
  consult := (closed_abides shared).consult
  resume := (closed_abides shared).resume

end MqttRelay.Scenario
