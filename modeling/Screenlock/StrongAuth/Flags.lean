import Screenlock.StrongAuth.Manager

/-! # Which operations write a requirement

Timer operations leave every flag alone. A flag is written by `SetStrongAuthStat`
and by the initialisation of an unknown account, and erased by
`DestroyStrongAuthStateInfo`; each touches its own account only.
-/

namespace Screenlock.StrongAuthManger

variable (manager : StrongAuthManger) (env : Environment) (userId other : UserId)

section TimersKeepFlags

/-- The flags, the pending queries and the announced changes are the same. -/
structure KeepsFlags (before after : StrongAuthManger) : Prop where
  stateInfo : after.strongAuthStateInfo = before.strongAuthStateInfo
  queries : after.queries = before.queries
  changes : after.changes = before.changes

namespace KeepsFlags

theorem refl (manager : StrongAuthManger) : KeepsFlags manager manager := ⟨rfl, rfl, rfl⟩

theorem trans {first second third : StrongAuthManger} (hfirst : KeepsFlags first second)
    (hsecond : KeepsFlags second third) : KeepsFlags first third where
  stateInfo := hsecond.stateInfo.trans hfirst.stateInfo
  queries := hsecond.queries.trans hfirst.queries
  changes := hsecond.changes.trans hfirst.changes

end KeepsFlags

theorem createTimer_keeps (created : TimerId) :
    KeepsFlags manager (manager.createTimer created userId) := by
  unfold createTimer
  split <;> exact ⟨rfl, rfl, rfl⟩

theorem startTimer_keeps (timerId : TimerId) (currentTime triggerPeriod : Int) :
    KeepsFlags manager (manager.startTimer timerId currentTime triggerPeriod) := by
  unfold startTimer
  split <;> exact ⟨rfl, rfl, rfl⟩

theorem stopTimer_keeps (timerId : TimerId) :
    KeepsFlags manager (manager.stopTimer timerId) := by
  unfold stopTimer
  split <;> exact ⟨rfl, rfl, rfl⟩

theorem startStrongAuthTimer_keeps (created : TimerId) (currentTime triggerPeriod : Int) :
    KeepsFlags manager
      (manager.startStrongAuthTimer created currentTime userId triggerPeriod) := by
  unfold startStrongAuthTimer
  split
  · exact KeepsFlags.refl manager
  · have hcreated := manager.createTimer_keeps userId created
    have hstarted := (manager.createTimer created userId).startTimer_keeps created currentTime
      triggerPeriod
    have hkept := hcreated.trans hstarted
    exact ⟨hkept.stateInfo, hkept.queries, hkept.changes⟩

theorem setCredChangeTriggerPeriod_keeps (currentTime triggerPeriod : Int) :
    KeepsFlags manager
      (manager.setCredChangeTriggerPeriod currentTime userId triggerPeriod) := by
  unfold setCredChangeTriggerPeriod
  split <;> exact ⟨rfl, rfl, rfl⟩

theorem resetStrongAuthTimer_keeps (created : TimerId)
    (currentTime laterTime triggerPeriod : Int) :
    KeepsFlags manager (manager.resetStrongAuthTimer created currentTime laterTime userId
      triggerPeriod) := by
  unfold resetStrongAuthTimer
  dsimp only
  split
  · exact manager.startStrongAuthTimer_keeps userId created currentTime triggerPeriod
  · exact ((stopTimer_keeps _ _).trans (startTimer_keeps _ _ _ _)).trans
      (setCredChangeTriggerPeriod_keeps _ _ _ _)

theorem getStrongAuthTriggerPeriod_keeps (currentTime : Int) :
    KeepsFlags manager (manager.getStrongAuthTriggerPeriod currentTime userId).2 := by
  unfold getStrongAuthTriggerPeriod
  split <;> exact ⟨rfl, rfl, rfl⟩

theorem destroyStrongAuthTimer_keeps :
    KeepsFlags manager (manager.destroyStrongAuthTimer userId) := by
  unfold destroyStrongAuthTimer
  dsimp only
  split
  · exact KeepsFlags.refl manager
  · have hstopped := manager.stopTimer_keeps (manager.getTimerId userId)
    exact ⟨hstopped.stateInfo, hstopped.queries, hstopped.changes⟩

/-- What each destruction keeps, the destruction of all timers keeps. -/
theorem destroyAllStrongAuthTimer_induction {manager : StrongAuthManger}
    {property : StrongAuthManger → Prop}
    (hdestroy : ∀ manager owner, property manager →
      property (manager.destroyStrongAuthTimer owner))
    (hstart : property manager) : property manager.destroyAllStrongAuthTimer := by
  unfold destroyAllStrongAuthTimer
  generalize manager.strongAuthTimerInfo.keys = keys
  induction keys generalizing manager with
  | nil => exact hstart
  | cons owner rest ih => exact ih (hdestroy manager owner hstart)

theorem destroyAllStrongAuthTimer_keeps :
    KeepsFlags manager manager.destroyAllStrongAuthTimer :=
  destroyAllStrongAuthTimer_induction
    (fun current owner hkept => hkept.trans (current.destroyStrongAuthTimer_keeps owner))
    (KeepsFlags.refl manager)

@[simp] theorem startStrongAuthTimer_stateInfo (created : TimerId)
    (currentTime triggerPeriod : Int) :
    (manager.startStrongAuthTimer created currentTime userId triggerPeriod).strongAuthStateInfo =
      manager.strongAuthStateInfo :=
  (manager.startStrongAuthTimer_keeps userId created currentTime triggerPeriod).stateInfo

@[simp] theorem resetStrongAuthTimer_stateInfo (created : TimerId)
    (currentTime laterTime triggerPeriod : Int) :
    (manager.resetStrongAuthTimer created currentTime laterTime userId
      triggerPeriod).strongAuthStateInfo = manager.strongAuthStateInfo :=
  (manager.resetStrongAuthTimer_keeps userId created currentTime laterTime triggerPeriod).stateInfo

@[simp] theorem getStrongAuthTriggerPeriod_stateInfo (currentTime : Int) :
    (manager.getStrongAuthTriggerPeriod currentTime userId).2.strongAuthStateInfo =
      manager.strongAuthStateInfo :=
  (manager.getStrongAuthTriggerPeriod_keeps userId currentTime).stateInfo

@[simp] theorem destroyStrongAuthTimer_stateInfo :
    (manager.destroyStrongAuthTimer userId).strongAuthStateInfo =
      manager.strongAuthStateInfo :=
  (manager.destroyStrongAuthTimer_keeps userId).stateInfo

@[simp] theorem destroyAllStrongAuthTimer_stateInfo :
    manager.destroyAllStrongAuthTimer.strongAuthStateInfo = manager.strongAuthStateInfo :=
  manager.destroyAllStrongAuthTimer_keeps.stateInfo

end TimersKeepFlags

@[simp] theorem notifyStrongAuthChange_stateInfo (reasonFlag : Int) :
    (manager.notifyStrongAuthChange env userId reasonFlag).strongAuthStateInfo =
      manager.strongAuthStateInfo := by
  unfold notifyStrongAuthChange
  split
  · split <;> rfl
  · rfl

section FlagsKeepTimers

@[simp] theorem notifyStrongAuthChange_timerInfo (reasonFlag : Int) :
    (manager.notifyStrongAuthChange env userId reasonFlag).strongAuthTimerInfo =
      manager.strongAuthTimerInfo := by
  unfold notifyStrongAuthChange
  split
  · split <;> rfl
  · rfl

@[simp] theorem notifyStrongAuthChange_timers (reasonFlag : Int) :
    (manager.notifyStrongAuthChange env userId reasonFlag).timers = manager.timers := by
  unfold notifyStrongAuthChange
  split
  · split <;> rfl
  · rfl

@[simp] theorem setStrongAuthStat_timerInfo (reasonFlag : Int) :
    (manager.setStrongAuthStat env userId reasonFlag).strongAuthTimerInfo =
      manager.strongAuthTimerInfo := by
  unfold setStrongAuthStat
  split
  · simp [storeFlag]
  · split <;> simp [storeFlag]

@[simp] theorem setStrongAuthStat_timers (reasonFlag : Int) :
    (manager.setStrongAuthStat env userId reasonFlag).timers = manager.timers := by
  unfold setStrongAuthStat
  split
  · simp [storeFlag]
  · split <;> simp [storeFlag]

end FlagsKeepTimers

theorem storeFlag_get (reasonFlag : Int) :
    (manager.storeFlag userId reasonFlag).strongAuthStateInfo[other]? =
      if userId = other then some reasonFlag else manager.strongAuthStateInfo[other]? := by
  simp [storeFlag, Std.TreeMap.getElem?_insert]

/-- The flag an account holds after `SetStrongAuthStat`, from the one it held before. -/
def requested (before : Option Int) (reasonFlag : Int) : Int :=
  if before = some StrongAuthReasonFlags.afterBoot ∧ reasonFlag ≠ StrongAuthReasonFlags.none then
    StrongAuthReasonFlags.afterBoot
  else reasonFlag

theorem setStrongAuthStat_get (reasonFlag : Int) :
    (manager.setStrongAuthStat env userId reasonFlag).strongAuthStateInfo[other]? =
      if userId = other then some (requested manager.strongAuthStateInfo[userId]? reasonFlag)
      else manager.strongAuthStateInfo[other]? := by
  unfold setStrongAuthStat
  cases hold : manager.strongAuthStateInfo[userId]? with
  | none => simp [storeFlag_get, requested]
  | some oldFlag =>
      dsimp only
      split
      next hguard =>
        have hrequested : requested (some oldFlag) reasonFlag = oldFlag := by
          simp [requested, hguard]
        rw [hrequested]
        split
        next heq => rw [← heq, hold]
        next => rfl
      next hguard =>
        have hrequested : requested (some oldFlag) reasonFlag = reasonFlag := by
          unfold requested
          rw [if_neg]
          exact fun hboth => hguard ⟨Option.some.inj hboth.1, hboth.2⟩
        rw [notifyStrongAuthChange_stateInfo, storeFlag_get, hrequested]

theorem initStrongAuthStat_get (reasonFlag : Int) :
    (manager.initStrongAuthStat env userId reasonFlag).strongAuthStateInfo[other]? =
      if userId = other then some (manager.strongAuthStateInfo[userId]?.getD reasonFlag)
      else manager.strongAuthStateInfo[other]? := by
  unfold initStrongAuthStat
  cases hold : manager.strongAuthStateInfo[userId]? with
  | none => simp [storeFlag_get]
  | some oldFlag =>
      dsimp only [Option.getD_some]
      split
      next heq => rw [← heq, hold]
      next => rfl

theorem destroyStrongAuthStateInfo_get :
    (manager.destroyStrongAuthStateInfo userId).strongAuthStateInfo[other]? =
      if userId = other then none else manager.strongAuthStateInfo[other]? := by
  simp [destroyStrongAuthStateInfo, Std.TreeMap.getElem?_erase]

@[simp] theorem accountUnlocked_stateInfo :
    (manager.accountUnlocked env userId).strongAuthStateInfo = manager.strongAuthStateInfo :=
  manager.notifyStrongAuthChange_stateInfo env userId _

@[simp] theorem getCredInfo_stateInfo :
    (manager.getCredInfo env userId).2.strongAuthStateInfo = manager.strongAuthStateInfo := by
  unfold getCredInfo
  split
  · rfl
  · split <;> rfl

theorem onCredentialInfo_get (result : ResultCode) (infoList : List CredentialInfo) :
    (manager.onCredentialInfo env userId result infoList).strongAuthStateInfo[other]? =
      if userId = other then
        some (manager.strongAuthStateInfo[userId]?.getD
          (if infoList.length > 0 ∨ (result ≠ .success ∧ result ≠ .notEnrolled) then
            StrongAuthReasonFlags.afterBoot else StrongAuthReasonFlags.none))
      else manager.strongAuthStateInfo[other]? := by
  unfold onCredentialInfo
  split <;> simp [initStrongAuthStat_get]

theorem onNotifyAuthSuccessEvent_get (authType : AuthType) (isWidgetAuth : Bool) :
    (manager.onNotifyAuthSuccessEvent env userId authType isWidgetAuth).strongAuthStateInfo[other]?
      = if authType = .pin ∧ isWidgetAuth = false ∧ userId = other then
          some StrongAuthReasonFlags.none
        else manager.strongAuthStateInfo[other]? := by
  unfold onNotifyAuthSuccessEvent
  split
  next hpin =>
    simp only [resetStrongAuthTimer_stateInfo, getStrongAuthTriggerPeriod_stateInfo,
      setStrongAuthStat_get, hpin, true_and]
    simp [requested]
  next hpin =>
    rw [if_neg]
    exact fun hall => hpin ⟨hall.1, hall.2.1⟩

/-- What a credential event does to the flags: a deletion clears, an enforced
deletion forgets, everything else only concerns the timer. -/
theorem onNotifyCredChangeEvent_get (authType : AuthType) (eventType : CredChangeEventType)
    (isSilentCredChange : Bool) :
    (manager.onNotifyCredChangeEvent env userId authType eventType
      isSilentCredChange).strongAuthStateInfo[other]? =
      if env.deviceType ≠ "2in1" ∧ authType = .pin ∧
          manager.isUserExitInStrongAuthInfo userId ∧ userId = other then
        if eventType = .delUser then some StrongAuthReasonFlags.none
        else if eventType = .enforceDelUser then none
        else manager.strongAuthStateInfo[other]?
      else manager.strongAuthStateInfo[other]? := by
  unfold onNotifyCredChangeEvent
  by_cases hdevice : env.deviceType = "2in1"
  · simp [hdevice]
  rw [if_neg hdevice]
  by_cases hknown : authType = .pin ∧ manager.isUserExitInStrongAuthInfo userId
  · rw [if_pos hknown]
    simp only [ne_eq, hdevice, not_false_eq_true, hknown.1, hknown.2, true_and]
    cases eventType <;> cases isSilentCredChange <;>
      simp [setStrongAuthStat_get, destroyStrongAuthStateInfo_get, requested]
  · rw [if_neg hknown, if_neg]
    exact fun hall => hknown ⟨hall.2.1, hall.2.2.1⟩

end Screenlock.StrongAuthManger
