import Screenlock.Common
import Screenlock.Preferences
import Screenlock.Foundation.BatchQueue

/-! # Listeners that wait for a lock or unlock result

The two listener vectors, the account ids kept beside the unlock listeners,
and the tasks submitted to complete them. Listeners and tasks carry the time
of the service entry that brought them; it names a task and is otherwise read
by no function. What a task called back stays on record.
-/

namespace Screenlock

open Foundation

/-- Identity of a `ScreenLockCallbackInterface` object. -/
abbrev ScreenLockCallback := Nat

/-- The call back of an unlock listener: which entry was completed by which
task, and the value it was given. -/
structure UnlockCalled where
  completion : Completion (ScreenLockCallback × UserId) (Int × UserId)
  value : Int
  deriving DecidableEq

structure WaitingListeners where
  lockVecListeners : List (Nat × ScreenLockCallback)
  lockTasks : List (Nat × Int)
  lockCalled : List (Completion ScreenLockCallback Int)
  unlockVecListeners : List (Nat × ScreenLockCallback)
  unlockVecUserIds : List UserId
  unlockTasks : List (Nat × Int × UserId)
  unlockCalled : List UnlockCalled
  deriving DecidableEq

namespace WaitingListeners

def empty : WaitingListeners := ⟨[], [], [], [], [], [], []⟩

variable (now : Nat) (waiting : WaitingListeners)

section Lock

def pushLockListener (listener : ScreenLockCallback) : WaitingListeners :=
  { waiting with lockVecListeners := waiting.lockVecListeners ++ [(now, listener)] }

/-- `LockScreenEvent` submits a task if a listener waits. -/
def submitLockTask (stateResult : Int) : WaitingListeners :=
  if waiting.lockVecListeners = [] then waiting
  else { waiting with lockTasks := waiting.lockTasks ++ [(now, stateResult)] }

/-- The submitted task: every listener that waits when it runs gets the result
the task was submitted with. -/
def runLockTask (reportedAt : Nat) : WaitingListeners :=
  match waiting.lockTasks.lookup reportedAt with
  | none => waiting
  | some stateResult =>
      { waiting with
        lockVecListeners := []
        lockTasks := waiting.lockTasks.filter (fun task => task.1 ≠ reportedAt)
        lockCalled := waiting.lockCalled ++ waiting.lockVecListeners.map fun entry =>
          ⟨entry.2, entry.1, stateResult, reportedAt, now⟩ }

end Lock

section Unlock

def pushUnlockListener (listener : ScreenLockCallback) (userId : UserId) : WaitingListeners :=
  { waiting with
    unlockVecListeners := waiting.unlockVecListeners ++ [(now, listener)]
    unlockVecUserIds := waiting.unlockVecUserIds ++ [userId] }

/-- `NotifyUnlockListener`; `curUserId` is the account of the reporting caller. -/
def notifyUnlockListener (screenLockResult : Int) (curUserId : UserId) : WaitingListeners :=
  if waiting.unlockVecListeners = [] then waiting
  else { waiting with
    unlockTasks := waiting.unlockTasks ++ [(now, screenLockResult, curUserId)] }

/-- The value `CallbackUnlockListener` passes to a listener of the account. -/
def unlockValue (isScreenlockedMap : Std.TreeMap UserId Bool) (screenLockResult : Int)
    (curUserId userId : UserId) : Int :=
  if userId = curUserId then screenLockResult
  else if (isScreenlockedMap[userId]?).getD true then ScreenChange.screenFail
  else ScreenChange.screenSucc

/-- `CallbackUnlockListener` for index `i`; an index outside the vectors calls nothing. -/
def callbackUnlockListener (isScreenlockedMap : Std.TreeMap UserId Bool) (reportedAt : Nat)
    (screenLockResult : Int) (curUserId : UserId) (i : Nat) : Option UnlockCalled := do
  let userId ← waiting.unlockVecUserIds[i]?
  let (pushedAt, listener) ← waiting.unlockVecListeners[i]?
  some ⟨⟨(listener, userId), pushedAt, (screenLockResult, curUserId), reportedAt, now⟩,
    unlockValue isScreenlockedMap screenLockResult curUserId userId⟩

def runUnlockTask (isScreenlockedMap : Std.TreeMap UserId Bool) (reportedAt : Nat) :
    WaitingListeners :=
  match waiting.unlockTasks.lookup reportedAt with
  | none => waiting
  | some (screenLockResult, curUserId) =>
      { waiting with
        unlockVecListeners := []
        unlockVecUserIds := []
        unlockTasks := waiting.unlockTasks.filter (fun task => task.1 ≠ reportedAt)
        unlockCalled := waiting.unlockCalled ++
          (List.range waiting.unlockVecListeners.length).filterMap
            (waiting.callbackUnlockListener now isScreenlockedMap reportedAt screenLockResult
              curUserId) }

end Unlock

end WaitingListeners

end Screenlock
