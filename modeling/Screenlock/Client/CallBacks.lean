import Screenlock.Client.Answers

/-! # Calling back

A step of the service calls back some of the listeners that waited before it. Who
waits, and who is put into the vectors by the step, is called back by it or waits on.
-/

namespace Screenlock

open Foundation

/-- The listeners that wait for a result. -/
def WaitingListeners.awaited (waiting : WaitingListeners) : List ScreenLockCallback :=
  waiting.lockVecListeners.map Prod.snd ++ waiting.unlockVecListeners.map Prod.snd

/-- Those that wait for a result of the action. -/
def WaitingListeners.awaitedIn (action : Action) (waiting : WaitingListeners) :
    List ScreenLockCallback :=
  match action with
  | .lock => waiting.lockVecListeners.map Prod.snd
  | .unlock | .unlockScreen => waiting.unlockVecListeners.map Prod.snd

/-- The calls of `OnCallBack` by which the second state follows the first. -/
def WaitingListeners.callBacks (before after : WaitingListeners) :
    List (ScreenLockCallback × Int) :=
  (after.lockCalled.drop before.lockCalled.length).map (fun done => (done.entry, done.result)) ++
    (after.unlockCalled.drop before.unlockCalled.length).map fun called =>
      (called.completion.entry.1, called.value)

theorem WaitingListeners.callBacks_self (waiting : WaitingListeners) :
    waiting.callBacks waiting = [] := by
  simp [callBacks]

namespace ScreenLockSystemAbility

/-- The listeners an entry puts into the vectors. -/
def pushes (event : ServiceEvent) : List ScreenLockCallback :=
  (lockEvent event).pushed ++ (unlockEvent event).pushed.map Prod.fst

theorem passed_of_mem_pushes {event : ServiceEvent} {callback : ScreenLockCallback}
    (hmem : callback ∈ pushes event) : event.passed = some callback := by
  rcases List.mem_append.mp hmem with hlock | hunlock
  · cases event with
    | call env caller request =>
        cases request with
        | lock listener =>
            rw [lockEvent] at hlock
            split at hlock
            · rw [List.mem_singleton.mp hlock]
              rfl
            · cases hlock
        | sendScreenLockEvent event param =>
            rw [lockEvent] at hlock
            split at hlock <;> cases hlock
        | _ => cases hlock
    | _ => cases hlock
  · obtain ⟨entry, hentry, rfl⟩ := List.mem_map.mp hunlock
    cases event with
    | call env caller request =>
        cases request with
        | unlockScreen listener | unlock listener =>
            rw [unlockEvent] at hentry
            split at hentry
            · rw [List.mem_singleton.mp hentry]
              rfl
            · cases hentry
        | sendScreenLockEvent event param =>
            rw [unlockEvent] at hentry
            split at hentry
            · split at hentry <;> cases hentry
            · cases hentry
        | _ => cases hentry
    | _ => cases hentry

variable {ability : ScreenLockSystemAbility}

theorem unlockQueue_pending (haligned : ability.waiting.Aligned) :
    ability.unlockQueue.pending.map (fun entry => entry.2.1) =
      ability.waiting.unlockVecListeners.map Prod.snd := by
  unfold unlockQueue WaitingListeners.unlockQueue
  rw [List.map_zipWith, ← List.map_uncurry_zip_eq_zipWith]
  have hfirst := List.map_fst_zip (Nat.le_of_eq haligned)
  calc _ = (((ability.waiting.unlockVecListeners.zip ability.waiting.unlockVecUserIds).map
        Prod.fst).map Prod.snd) := by rw [List.map_map]; rfl
    _ = _ := by rw [hfirst]

theorem lock_conserves (event : ServiceEvent) :
    ((ability.step event).waiting.lockCalled.drop ability.waiting.lockCalled.length).map
          (fun done => done.entry) ++
        (ability.step event).waiting.lockVecListeners.map Prod.snd =
      ability.waiting.lockVecListeners.map Prod.snd ++ (lockEvent event).pushed := by
  have hlock := ability.lockQueue.step_conserves (lockEvent event)
  rw [← lockQueue_step] at hlock
  exact hlock

theorem unlock_conserves (haligned : ability.waiting.Aligned) (event : ServiceEvent) :
    ((ability.step event).waiting.unlockCalled.drop ability.waiting.unlockCalled.length).map
          (fun called => called.completion.entry.1) ++
        (ability.step event).waiting.unlockVecListeners.map Prod.snd =
      ability.waiting.unlockVecListeners.map Prod.snd ++
        (unlockEvent event).pushed.map Prod.fst := by
  have hunlock := congrArg (List.map Prod.fst)
    (ability.unlockQueue.step_conserves (unlockEvent event))
  rw [← unlockQueue_step _ _ haligned, List.map_append, List.map_append, List.map_map,
    List.map_map, List.map_map] at hunlock
  rw [← unlockQueue_pending haligned, ← unlockQueue_pending (ability.aligned_step event haligned)]
  refine Eq.trans (congrArg (· ++ _) ?_) hunlock
  change _ = ((((ability.step event).waiting.unlockCalled.map UnlockCalled.completion).drop
    (ability.waiting.unlockCalled.map UnlockCalled.completion).length).map _)
  rw [← List.map_drop, List.map_map, List.length_map]
  rfl

/-- Who waits, and who is put into the vectors, is called back or waits on. -/
theorem step_conserves (haligned : ability.waiting.Aligned) (event : ServiceEvent) :
    ((ability.waiting.callBacks (ability.step event).waiting).map Prod.fst ++
        (ability.step event).waiting.awaited).Perm
      (ability.waiting.awaited ++ pushes event) := by
  refine List.perm_iff_count.mpr fun callback => ?_
  have hlock := congrArg (List.count callback) (@lock_conserves ability event)
  have hunlock := congrArg (List.count callback) (unlock_conserves haligned event)
  simp only [WaitingListeners.callBacks, WaitingListeners.awaited, pushes, List.map_append,
    List.map_map, List.count_append, Function.comp_def] at hlock hunlock ⊢
  omega

/-- What is put among the listeners of an action. -/
def pushesIn (action : Action) (event : ServiceEvent) : List ScreenLockCallback :=
  match action with
  | .lock => (lockEvent event).pushed
  | .unlock | .unlockScreen => (unlockEvent event).pushed.map Prod.fst

theorem pushesIn_subset (action : Action) (event : ServiceEvent) :
    pushesIn action event ⊆ pushes event := by
  cases action with
  | lock => exact List.subset_append_left _ _
  | unlock | unlockScreen => exact List.subset_append_right _ _

/-- A call waits with those of its action only. -/
theorem pushesIn_request {call : AsyncCall} {action : Action}
    (hother : action = .lock ↔ call.action ≠ .lock) :
    pushesIn action (.call call.env call.caller call.request) = [] := by
  obtain ⟨own, _, _, _, _, _⟩ := call
  cases own <;> cases action <;> first | rfl | simp at hother

theorem awaitedIn_step (haligned : ability.waiting.Aligned) {action : Action}
    {event : ServiceEvent} {callback : ScreenLockCallback}
    (hmem : callback ∈ (ability.step event).waiting.awaitedIn action) :
    callback ∈ ability.waiting.awaitedIn action ∨ callback ∈ pushesIn action event := by
  cases action with
  | lock =>
      refine List.mem_append.mp ?_
      exact lock_conserves event ▸ List.mem_append_right _ hmem
  | unlock | unlockScreen =>
      refine List.mem_append.mp ?_
      exact unlock_conserves haligned event ▸ List.mem_append_right _ hmem

/-- After a task nobody is left among the listeners of its action. -/
theorem awaitedIn_runLockTask {reportedAt : Nat}
    (henabled : machine.enabled ability (.runLockTask reportedAt)) :
    (ability.step (.runLockTask reportedAt)).waiting.awaitedIn .lock = [] := by
  obtain ⟨stateResult, htask⟩ := henabled
  change (ability.waiting.runLockTask ability.clock reportedAt).awaitedIn .lock = []
  unfold WaitingListeners.runLockTask
  split
  · next hnone => simpa using List.lookup_eq_none_iff.mp hnone _ htask
  · rfl

theorem awaitedIn_runUnlockTask {reportedAt : Nat} {action : Action} (hother : action ≠ .lock)
    (henabled : machine.enabled ability (.runUnlockTask reportedAt)) :
    (ability.step (.runUnlockTask reportedAt)).waiting.awaitedIn action = [] := by
  obtain ⟨result, htask⟩ := henabled
  change (ability.waiting.runUnlockTask ability.clock ability.isScreenlockedMap
    reportedAt).awaitedIn action = []
  unfold WaitingListeners.runUnlockTask
  split
  · next hnone => simpa using List.lookup_eq_none_iff.mp hnone _ htask
  · cases action with
    | lock => exact absurd rfl hother
    | unlock | unlockScreen => rfl

theorem unlockScreen_ok_iff (env : Environment) (caller : Caller)
    (listener : ScreenLockCallback) :
    (ability.unlockScreen env caller listener).1 = .ok ↔ mayUnlock env caller = true := by
  unfold unlockScreen mayUnlock
  cases caller.isNativeAccess <;> cases env.isAppInForeground caller <;>
    cases caller.checkPermission accessScreenLock <;> simp

/-- The callback of a call is put into a vector when the service takes the call. -/
theorem pushes_request (call : AsyncCall) (ability : ScreenLockSystemAbility) :
    pushes (.call call.env call.caller call.request) =
      if (call.serve ability).1 = .ok then [call.callback] else [] := by
  obtain ⟨action, callback, _, _, env, caller⟩ := call
  have hunlock := @unlockScreen_ok_iff ability.readied env caller callback
  cases action with
  | lock =>
      cases hsystem : caller.systemApp <;>
        cases hpermission : caller.checkPermission accessScreenLockInner <;>
          simp [AsyncCall.request, AsyncCall.serve, pushes, lockEvent, unlockEvent, lock,
            mayControl, QueueEvent.pushed, hsystem, hpermission]
  | unlock =>
      cases hsystem : caller.systemApp <;> cases hmay : mayUnlock env caller <;>
        simp [AsyncCall.request, AsyncCall.serve, pushes, lockEvent, unlockEvent, unlock,
          QueueEvent.pushed, hsystem, hmay, hunlock]
  | unlockScreen =>
      cases hmay : mayUnlock env caller <;>
        simp [AsyncCall.request, AsyncCall.serve, pushes, lockEvent, unlockEvent,
          QueueEvent.pushed, hmay, hunlock]

end ScreenLockSystemAbility

namespace WaitingListeners

variable {before after : WaitingListeners} {callback : ScreenLockCallback}

theorem knows_iff (waiting : WaitingListeners) :
    waiting.Knows callback ↔ callback ∈ waiting.awaited ∨
      callback ∈ waiting.lockCalled.map (fun done => done.entry) ∨
        callback ∈ waiting.unlockCalled.map fun called => called.completion.entry.1 := by
  simp only [Knows, awaited, List.mem_append, List.mem_map, or_assoc]
  exact or_congr_right or_left_comm

theorem knows_of_mem_callBacks (hmem : callback ∈ (before.callBacks after).map Prod.fst) :
    after.Knows callback := by
  rw [knows_iff]
  right
  simp only [callBacks, List.map_append, List.map_map, List.mem_append] at hmem
  refine hmem.imp (fun hlock => ?_) fun hunlock => ?_
  · exact List.map_subset _ (List.drop_subset _ _) hlock
  · exact List.map_subset _ (List.drop_subset _ _) hunlock

/-- A callback the service knows stays known. -/
theorem Knows.step {ability : ScreenLockSystemAbility} (haligned : ability.waiting.Aligned)
    (hknows : ability.waiting.Knows callback) (event : ServiceEvent) :
    (ability.step event).waiting.Knows callback := by
  rcases (knows_iff _).mp hknows with hwaits | hlock | hunlock
  · have hmem := (ScreenLockSystemAbility.step_conserves haligned event).mem_iff.mpr
      (List.mem_append_left _ hwaits)
    rcases List.mem_append.mp hmem with hcalled | hstill
    · exact knows_of_mem_callBacks hcalled
    · exact (knows_iff _).mpr (Or.inl hstill)
  · exact (knows_iff _).mpr (Or.inr (Or.inl
      (List.map_subset _ (ability.lockCalled_prefix event).subset hlock)))
  · exact (knows_iff _).mpr (Or.inr (Or.inr
      (List.map_subset _ (ability.unlockCalled_prefix event).subset hunlock)))

end WaitingListeners

end Screenlock
