import Screenlock.Foundation.History
import Screenlock.Service.Events
import Screenlock.Service.StoreSteps

/-! # The service over restarts

A restart keeps nothing but the disk image of the preference store. It can come
between two entries into the service or inside one, after any of the accesses
the entry makes to the store.
-/

namespace Screenlock

open Foundation

inductive LifeEvent where
  | serve (event : ServiceEvent)
  /-- The service dies inside the entry, after the first accesses, and starts anew. -/
  | dieIn (event : ServiceEvent) (reached : Nat)
  | restart

/-- The entry the event is about. -/
def LifeEvent.entry : LifeEvent → Option ServiceEvent
  | .serve event | .dieIn event _ => some event
  | .restart => none

namespace ScreenLockSystemAbility

variable (ability : ScreenLockSystemAbility)

/-- One event in the life of the service. -/
def live : LifeEvent → ScreenLockSystemAbility
  | .serve event => ability.step event
  | .dieIn event reached =>
      started (((ability.storeAction event).ops.take reached).foldl StoreOp.apply
        ability.preferences).disk
  | .restart => started ability.preferences.disk

def lifetimes : Machine ScreenLockSystemAbility LifeEvent where
  enabled ability event := match event with
    | .serve event | .dieIn event _ => machine.enabled ability event
    | .restart => True
  step := live

/-- What becomes of a value under a write. -/
def written (write : Option (String × Option PreferencesValue)) (key : String)
    (value : Option PreferencesValue) : Option PreferencesValue :=
  match write with
  | none => value
  | some (target, update) => if target = key then update else value

/-- The write that an event leaves behind. -/
def lifeWrite : LifeEvent → Option (String × Option PreferencesValue)
  | .serve event => (ability.storeAction event).write
  | .dieIn event reached =>
      if (ability.storeAction event).flushesWithin reached then (ability.storeAction event).write
      else none
  | .restart => none

/-- The disk image becomes the memory image. -/
def lifeFlushes : LifeEvent → Bool
  | .serve event => (ability.storeAction event).flushes
  | .dieIn event reached => (ability.storeAction event).flushesWithin reached
  | .restart => false

theorem step_memory (event : ServiceEvent) (key : String) :
    (ability.step event).preferences.memory[key]? =
      written (ability.storeAction event).write key ability.preferences.memory[key]? := by
  rw [step_preferences, StoreAction.apply_memory]
  rfl

theorem live_disk (event : LifeEvent) (key : String) :
    (ability.live event).preferences.disk[key]? =
      if ability.lifeFlushes event then
        written (ability.lifeWrite event) key ability.preferences.memory[key]?
      else ability.preferences.disk[key]? := by
  cases event with
  | serve event =>
      rw [live, step_preferences, StoreAction.apply_disk, ← step_preferences, lifeFlushes]
      split
      · exact ability.step_memory event key
      · rfl
  | dieIn event reached =>
      change (((ability.storeAction event).ops.take reached).foldl StoreOp.apply
        ability.preferences).disk[key]? = _
      rw [StoreAction.ops_take_disk, ← step_preferences, lifeFlushes]
      split
      next hflushes =>
        rw [lifeWrite, if_pos hflushes]
        exact ability.step_memory event key
      next => rfl
  | restart => rfl

/-- After a restart both images are the same. -/
theorem live_memory (event : LifeEvent) (key : String) :
    (ability.live event).preferences.memory[key]? =
      match event with
      | .serve _ => written (ability.lifeWrite event) key ability.preferences.memory[key]?
      | .dieIn _ _ | .restart => (ability.live event).preferences.disk[key]? := by
  cases event with
  | serve event => exact ability.step_memory event key
  | _ => rfl

/-- An event that flushes leaves the same in both images. -/
theorem live_images_agree {event : LifeEvent} (hflushes : ability.lifeFlushes event = true)
    (key : String) :
    (ability.live event).preferences.disk[key]? =
      (ability.live event).preferences.memory[key]? := by
  rw [live_memory]
  cases event with
  | serve event => rw [live_disk, if_pos hflushes]
  | _ => rfl

end ScreenLockSystemAbility

end Screenlock
