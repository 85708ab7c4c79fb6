import Screenlock.Service.Steps

/-! # The waiting listeners as batch queues

Seen through the entries that concern it, each of the two listener vectors is
a queue completed by asynchronous batch tasks. The unlock vectors are one queue
of pairs as long as they are equally long.
-/

namespace Screenlock

open Foundation

/-- A loop over the indices of one vector that reads two vectors of its length. -/
theorem filterMap_range_eq_zipWith {α β γ : Type} (visit : α → β → γ) (first : List α)
    (second : List β) (hlength : first.length = second.length) :
    (List.range first.length).filterMap (fun i => do
      let right ← second[i]?
      let left ← first[i]?
      some (visit left right)) = List.zipWith visit first second := by
  induction first generalizing second with
  | nil => rfl
  | cons left lefts ih =>
      cases second with
      | nil => cases hlength
      | cons right rights =>
          have htail := ih rights (Nat.succ.inj hlength)
          rw [List.length_cons, List.range_succ_eq_map, List.filterMap_cons, List.filterMap_map,
            List.zipWith_cons_cons, ← htail]
          rfl

namespace WaitingListeners

variable (now : Nat) (waiting : WaitingListeners)

def lockQueue : BatchQueue ScreenLockCallback Int :=
  ⟨now, waiting.lockVecListeners, waiting.lockTasks, waiting.lockCalled⟩

def unlockQueue : BatchQueue (ScreenLockCallback × UserId) (Int × UserId) :=
  ⟨now,
    List.zipWith (fun entry userId => (entry.1, entry.2, userId)) waiting.unlockVecListeners
      waiting.unlockVecUserIds,
    waiting.unlockTasks, waiting.unlockCalled.map UnlockCalled.completion⟩

/-- The unlock vectors go in step. -/
def Aligned : Prop :=
  waiting.unlockVecListeners.length = waiting.unlockVecUserIds.length

section Lock

theorem lockQueue_push (listener : ScreenLockCallback) :
    (waiting.pushLockListener now listener).lockQueue (now + 1) =
      (waiting.lockQueue now).step (.push listener) := rfl

theorem lockQueue_submit (stateResult : Int) :
    (waiting.submitLockTask now stateResult).lockQueue (now + 1) =
      (waiting.lockQueue now).step (.report stateResult) := by
  unfold submitLockTask BatchQueue.step lockQueue
  split <;> rfl

theorem lockQueue_run (reportedAt : Nat) :
    (waiting.runLockTask now reportedAt).lockQueue (now + 1) =
      (waiting.lockQueue now).step (.drain reportedAt) := by
  unfold runLockTask BatchQueue.step
  cases hlookup : waiting.lockTasks.lookup reportedAt with
  | none => simp [lockQueue, hlookup]
  | some stateResult => simp [lockQueue, hlookup, BatchQueue.complete]

theorem notifyUnlockListener_lockQueue (later : Nat) (screenLockResult : Int)
    (curUserId : UserId) :
    (waiting.notifyUnlockListener now screenLockResult curUserId).lockQueue later =
      waiting.lockQueue later := by
  unfold notifyUnlockListener
  split <;> rfl

theorem runUnlockTask_lockQueue (later : Nat) (isScreenlockedMap : Std.TreeMap UserId Bool)
    (reportedAt : Nat) :
    (waiting.runUnlockTask now isScreenlockedMap reportedAt).lockQueue later =
      waiting.lockQueue later := by
  unfold runUnlockTask
  split <;> rfl

end Lock

section Unlock

theorem submitLockTask_unlockQueue (later : Nat) (stateResult : Int) :
    (waiting.submitLockTask now stateResult).unlockQueue later = waiting.unlockQueue later := by
  unfold submitLockTask
  split <;> rfl

theorem runLockTask_unlockQueue (later reportedAt : Nat) :
    (waiting.runLockTask now reportedAt).unlockQueue later = waiting.unlockQueue later := by
  unfold runLockTask
  split <;> rfl

theorem unlockQueue_push (haligned : waiting.Aligned) (listener : ScreenLockCallback)
    (userId : UserId) :
    (waiting.pushUnlockListener now listener userId).unlockQueue (now + 1) =
      (waiting.unlockQueue now).step (.push (listener, userId)) := by
  unfold pushUnlockListener unlockQueue BatchQueue.step
  simp only
  rw [List.zipWith_append haligned]
  rfl

theorem unlockQueue_notify (haligned : waiting.Aligned) (screenLockResult : Int)
    (curUserId : UserId) :
    (waiting.notifyUnlockListener now screenLockResult curUserId).unlockQueue (now + 1) =
      (waiting.unlockQueue now).step (.report (screenLockResult, curUserId)) := by
  have hempty : (waiting.unlockQueue now).pending = [] ↔ waiting.unlockVecListeners = [] := by
    unfold Aligned at haligned
    unfold unlockQueue
    simp only [List.zipWith_eq_nil_iff]
    constructor
    · rintro (hlisteners | huserIds)
      · exact hlisteners
      · rw [huserIds] at haligned
        exact List.eq_nil_of_length_eq_zero haligned
    · exact Or.inl
  unfold notifyUnlockListener BatchQueue.step
  by_cases hnone : waiting.unlockVecListeners = []
  · rw [if_pos hnone]
    simp only [if_pos (hempty.mpr hnone)]
    rfl
  · rw [if_neg hnone]
    simp only [if_neg (mt hempty.mp hnone)]
    rfl

/-- On aligned vectors every index calls its listener back. -/
theorem callbackUnlockListener_range (haligned : waiting.Aligned)
    (isScreenlockedMap : Std.TreeMap UserId Bool) (reportedAt : Nat) (screenLockResult : Int)
    (curUserId : UserId) :
    (List.range waiting.unlockVecListeners.length).filterMap
        (waiting.callbackUnlockListener now isScreenlockedMap reportedAt screenLockResult
          curUserId) =
      List.zipWith (fun entry userId =>
        (⟨⟨(entry.2, userId), entry.1, (screenLockResult, curUserId), reportedAt, now⟩,
          unlockValue isScreenlockedMap screenLockResult curUserId userId⟩ : UnlockCalled))
        waiting.unlockVecListeners waiting.unlockVecUserIds :=
  filterMap_range_eq_zipWith _ waiting.unlockVecListeners waiting.unlockVecUserIds haligned

theorem unlockQueue_run (haligned : waiting.Aligned)
    (isScreenlockedMap : Std.TreeMap UserId Bool) (reportedAt : Nat) :
    (waiting.runUnlockTask now isScreenlockedMap reportedAt).unlockQueue (now + 1) =
      (waiting.unlockQueue now).step (.drain reportedAt) := by
  unfold runUnlockTask BatchQueue.step
  cases hlookup : waiting.unlockTasks.lookup reportedAt with
  | none => simp [unlockQueue, hlookup]
  | some result =>
      obtain ⟨screenLockResult, curUserId⟩ := result
      simp only [callbackUnlockListener_range now waiting haligned]
      simp [unlockQueue, hlookup, BatchQueue.complete, List.map_zipWith]

section Aligned

theorem aligned_push (haligned : waiting.Aligned) (listener : ScreenLockCallback)
    (userId : UserId) : (waiting.pushUnlockListener now listener userId).Aligned := by
  unfold Aligned at haligned ⊢
  simp [pushUnlockListener, haligned]

theorem aligned_run (haligned : waiting.Aligned) (isScreenlockedMap : Std.TreeMap UserId Bool)
    (reportedAt : Nat) : (waiting.runUnlockTask now isScreenlockedMap reportedAt).Aligned := by
  unfold runUnlockTask
  split
  · exact haligned
  · rfl

theorem aligned_notify (haligned : waiting.Aligned) (screenLockResult : Int)
    (curUserId : UserId) :
    (waiting.notifyUnlockListener now screenLockResult curUserId).Aligned := by
  unfold notifyUnlockListener
  split <;> exact haligned

end Aligned

end Unlock

end WaitingListeners

namespace ScreenLockSystemAbility

variable (ability : ScreenLockSystemAbility)

section Entries

theorem perform_waiting (env : Environment) (caller : Caller) (request : Request) :
    (ability.perform env caller request).waiting =
      match request with
      | .unlockScreen listener | .unlock listener =>
          ability.waiting.pushUnlockListener ability.clock listener
            (env.userIdFromCallingUid caller)
      | .lock listener => ability.waiting.pushLockListener ability.clock listener
      | .sendScreenLockEvent event param =>
          submitReport ability.clock (env.userIdFromCallingUid caller) event param ability.waiting
      | _ => ability.waiting := by
  obtain ⟨queue, store, effects, heq⟩ := ability.perform_touches env caller request
  rw [heq]
  cases request <;> rfl

theorem onNotification_waiting (env : Environment) (notification : Notification) :
    (ability.onNotification env notification).waiting = ability.waiting := by
  obtain ⟨store, heq⟩ := ability.onNotification_touches env notification
  rw [heq]
  cases notification with
  | credChange callingUid userId authType eventType isSilentCredChange =>
      simp only [notice]
      split <;> rfl
  | _ => rfl

/-- What a request does to the waiting listeners. -/
theorem call_waiting (env : Environment) (caller : Caller) (request : Request) :
    (ability.step (.call env caller request)).waiting =
      if accepts env caller ability.readied request then
        match request with
        | .unlockScreen listener | .unlock listener =>
            ability.waiting.pushUnlockListener ability.clock listener
              (env.userIdFromCallingUid caller)
        | .lock listener => ability.waiting.pushLockListener ability.clock listener
        | .sendScreenLockEvent event param =>
            submitReport ability.clock (env.userIdFromCallingUid caller) event param
              ability.waiting
        | _ => ability.waiting
      else ability.waiting := by
  change (ability.readied.handle env caller request).2.waiting = _
  rw [handle_eq]
  split
  · exact ability.readied.perform_waiting env caller request
  · rfl

theorem notify_waiting (env : Environment) (notification : Notification) :
    (ability.step (.notify env notification)).waiting = ability.waiting :=
  ability.readied.onNotification_waiting env notification

end Entries

section Refinements

/-- What an entry is to the lock queue. -/
def lockEvent : ServiceEvent → QueueEvent ScreenLockCallback Int
  | .call _ caller (.lock listener) => if mayControl caller then .push listener else .idle
  | .call _ caller (.sendScreenLockEvent event param) =>
      if mayControl caller ∧ event = lockScreenResult then .report param else .idle
  | .runLockTask reportedAt => .drain reportedAt
  | _ => .idle

/-- The result an unlock report passes on, if it completes anything. -/
def unlockResult (param : Int) : Option Int :=
  if param = ScreenChange.alreadyUnlocked then some ScreenChange.screenSucc
  else if param = ScreenChange.earlySuccess ∨ param = ScreenChange.screenFail then none
  else some param

/-- What an entry is to the unlock queue. -/
def unlockEvent : ServiceEvent → QueueEvent (ScreenLockCallback × UserId) (Int × UserId)
  | .call env caller (.unlockScreen listener) =>
      if mayUnlock env caller then .push (listener, env.userIdFromCallingUid caller) else .idle
  | .call env caller (.unlock listener) =>
      if caller.systemApp && mayUnlock env caller then
        .push (listener, env.userIdFromCallingUid caller)
      else .idle
  | .call env caller (.sendScreenLockEvent event param) =>
      if mayControl caller ∧ event = unlockScreenResult then
        match unlockResult param with
        | none => .idle
        | some result => .report (result, env.userIdFromCallingUid caller)
      else .idle
  | .runUnlockTask reportedAt => .drain reportedAt
  | _ => .idle

def lockQueue : BatchQueue ScreenLockCallback Int := ability.waiting.lockQueue ability.clock

def unlockQueue : BatchQueue (ScreenLockCallback × UserId) (Int × UserId) :=
  ability.waiting.unlockQueue ability.clock

theorem submitReport_lockQueue (now later : Nat) (userId : UserId) (event : String) (param : Int)
    (waiting : WaitingListeners) :
    (submitReport now userId event param waiting).lockQueue later =
      (if event = lockScreenResult then waiting.submitLockTask now param
        else waiting).lockQueue later := by
  unfold submitReport
  by_cases hunlock : event = unlockScreenResult
  · have hlock : event ≠ lockScreenResult := by rw [hunlock]; decide
    rw [if_pos hunlock, if_neg hlock]
    split
    · exact waiting.notifyUnlockListener_lockQueue now later _ _
    · split
      · rfl
      · exact waiting.notifyUnlockListener_lockQueue now later _ _
  · rw [if_neg hunlock]

theorem submitReport_unlockQueue (now later : Nat) (userId : UserId) (event : String) (param : Int)
    (waiting : WaitingListeners) :
    (submitReport now userId event param waiting).unlockQueue later =
      (if event = unlockScreenResult then
        match unlockResult param with
        | none => waiting
        | some result => waiting.notifyUnlockListener now result userId
      else waiting).unlockQueue later := by
  unfold submitReport unlockResult
  by_cases hunlock : event = unlockScreenResult
  · rw [if_pos hunlock, if_pos hunlock]
    split
    · rfl
    · split <;> rfl
  · rw [if_neg hunlock, if_neg hunlock]
    split
    · exact waiting.submitLockTask_unlockQueue now later param
    · rfl

theorem lockQueue_step (event : ServiceEvent) :
    (ability.step event).lockQueue = ability.lockQueue.step (lockEvent event) := by
  cases event with
  | call env caller request =>
      change (ability.step (.call env caller request)).waiting.lockQueue (ability.clock + 1) =
        (ability.waiting.lockQueue ability.clock).step _
      rw [call_waiting]
      split
      next haccepts =>
        cases request with
        | lock listener =>
            have hcontrol : mayControl caller = true := haccepts
            rw [lockEvent, if_pos hcontrol]
            exact ability.waiting.lockQueue_push ability.clock listener
        | sendScreenLockEvent event param =>
            -- reports of an unlock do not touch the lock queue
            have hcontrol : mayControl caller = true := haccepts
            simp only [submitReport_lockQueue, lockEvent, hcontrol, true_and]
            split
            · exact ability.waiting.lockQueue_submit ability.clock param
            · rfl
        | _ => rfl
      next hrefuses =>
        cases request with
        | lock listener =>
            have hcontrol : ¬ mayControl caller = true := hrefuses
            rw [lockEvent, if_neg hcontrol]
            rfl
        | sendScreenLockEvent event param =>
            rw [lockEvent, if_neg fun hboth => hrefuses hboth.1]
            rfl
        | _ => rfl
  | notify env notification =>
      unfold lockQueue
      rw [notify_waiting]
      rfl
  | runLockTask reportedAt => exact ability.waiting.lockQueue_run ability.clock reportedAt
  | runUnlockTask reportedAt =>
      exact ability.waiting.runUnlockTask_lockQueue ability.clock (ability.clock + 1)
        ability.isScreenlockedMap reportedAt

theorem aligned_step (event : ServiceEvent) (haligned : ability.waiting.Aligned) :
    (ability.step event).waiting.Aligned := by
  cases event with
  | call env caller request =>
      rw [call_waiting]
      split
      · cases request with
        | unlockScreen listener => exact ability.waiting.aligned_push _ haligned listener _
        | unlock listener => exact ability.waiting.aligned_push _ haligned listener _
        | sendScreenLockEvent event param =>
            simp only [submitReport]
            repeat' split
            · exact ability.waiting.aligned_notify _ haligned _ _
            · exact haligned
            · exact ability.waiting.aligned_notify _ haligned _ _
            · unfold WaitingListeners.submitLockTask
              split <;> exact haligned
            · exact haligned
        | _ => exact haligned
      · exact haligned
  | notify env notification =>
      rw [notify_waiting]
      exact haligned
  | runLockTask reportedAt =>
      change (ability.waiting.runLockTask ability.clock reportedAt).Aligned
      unfold WaitingListeners.runLockTask
      split <;> exact haligned
  | runUnlockTask reportedAt =>
      exact ability.waiting.aligned_run ability.clock haligned ability.isScreenlockedMap reportedAt

theorem unlockQueue_step (event : ServiceEvent) (haligned : ability.waiting.Aligned) :
    (ability.step event).unlockQueue = ability.unlockQueue.step (unlockEvent event) := by
  cases event with
  | call env caller request =>
      change (ability.step (.call env caller request)).waiting.unlockQueue (ability.clock + 1) =
        (ability.waiting.unlockQueue ability.clock).step _
      rw [call_waiting]
      split
      next haccepts =>
        cases request with
        | unlockScreen listener =>
            have hunlock : mayUnlock env caller = true := haccepts
            rw [unlockEvent, if_pos hunlock]
            exact ability.waiting.unlockQueue_push ability.clock haligned listener _
        | unlock listener =>
            have hunlock : (caller.systemApp && mayUnlock env caller) = true := haccepts
            rw [unlockEvent, if_pos hunlock]
            exact ability.waiting.unlockQueue_push ability.clock haligned listener _
        | sendScreenLockEvent event param =>
            have hcontrol : mayControl caller = true := haccepts
            simp only [submitReport_unlockQueue, unlockEvent, hcontrol, true_and]
            split
            · -- early success and failure are not passed on
              cases unlockResult param with
              | none => rfl
              | some result =>
                  exact ability.waiting.unlockQueue_notify ability.clock haligned result _
            · rfl
        | _ => rfl
      next hrefuses =>
        cases request with
        | unlockScreen listener =>
            have hunlock : ¬ mayUnlock env caller = true := hrefuses
            rw [unlockEvent, if_neg hunlock]
            rfl
        | unlock listener =>
            have hunlock : ¬ (caller.systemApp && mayUnlock env caller) = true := hrefuses
            rw [unlockEvent, if_neg hunlock]
            rfl
        | sendScreenLockEvent event param =>
            rw [unlockEvent, if_neg fun hboth => hrefuses hboth.1]
            rfl
        | _ => rfl
  | notify env notification =>
      unfold unlockQueue
      rw [notify_waiting]
      rfl
  | runLockTask reportedAt =>
      exact ability.waiting.runLockTask_unlockQueue ability.clock (ability.clock + 1) reportedAt
  | runUnlockTask reportedAt =>
      exact ability.waiting.unlockQueue_run ability.clock haligned ability.isScreenlockedMap
        reportedAt

theorem lockEvent_eq_drain {event : ServiceEvent} {reportedAt : Nat} :
    lockEvent event = .drain reportedAt ↔ event = .runLockTask reportedAt := by
  cases event with
  | call env caller request =>
      cases request with
      | lock listener =>
          rw [lockEvent]
          split <;> simp
      | sendScreenLockEvent event param =>
          rw [lockEvent]
          split <;> simp
      | _ => simp [lockEvent]
  | runLockTask time => simp [lockEvent]
  | _ => simp [lockEvent]

theorem unlockEvent_eq_drain {event : ServiceEvent} {reportedAt : Nat} :
    unlockEvent event = .drain reportedAt ↔ event = .runUnlockTask reportedAt := by
  cases event with
  | call env caller request =>
      cases request with
      | unlockScreen listener =>
          rw [unlockEvent]
          split <;> simp
      | unlock listener =>
          rw [unlockEvent]
          split <;> simp
      | sendScreenLockEvent event param =>
          rw [unlockEvent]
          split
          · cases unlockResult param <;> simp
          · simp
      | _ => simp [unlockEvent]
  | runUnlockTask time => simp [unlockEvent]
  | _ => simp [unlockEvent]

/-- The lock listeners and their tasks run as a batch queue. -/
def lockRefinement :
    Refinement machine (BatchQueue.machine : Machine (BatchQueue ScreenLockCallback Int) _) where
  invariant _ := True
  state := lockQueue
  event := lockEvent
  invariant_step _ _ _ _ := trivial
  enabled ability event henabled _ := by
    intro reportedAt hdrain
    obtain rfl := lockEvent_eq_drain.mp hdrain
    exact henabled
  step ability event _ _ := ability.lockQueue_step event

/-- The unlock listeners, their accounts and their tasks run as a batch queue. -/
def unlockRefinement :
    Refinement machine
      (BatchQueue.machine : Machine (BatchQueue (ScreenLockCallback × UserId) (Int × UserId)) _)
      where
  invariant ability := ability.waiting.Aligned
  state := unlockQueue
  event := unlockEvent
  invariant_step ability event _ haligned := ability.aligned_step event haligned
  enabled ability event henabled _ := by
    intro reportedAt hdrain
    obtain rfl := unlockEvent_eq_drain.mp hdrain
    exact henabled
  step ability event _ haligned := ability.unlockQueue_step event haligned

end Refinements

end ScreenLockSystemAbility

end Screenlock
