import Screenlock.Service.Events

/-! # What one entry does

A request passes its checks and acts, or leaves the state as it is. The checks
and the action of each request are stated once here; the facts about the parts
of the state follow from the action alone.
-/

namespace Screenlock.ScreenLockSystemAbility

variable (env : Environment) (caller : Caller) (ability : ScreenLockSystemAbility)

/-- The check of `UnlockInner`. -/
def mayUnlock : Bool :=
  caller.isNativeAccess || env.isAppInForeground caller || caller.checkPermission accessScreenLock

/-- The checks of the calls reserved to the lock-screen application. -/
def mayControl : Bool :=
  caller.systemApp && caller.checkPermission accessScreenLockInner

/-- The checks a request has to pass before it acts. -/
def accepts : Request → Bool
  | .unlockScreen _ => mayUnlock env caller
  | .unlock _ => caller.systemApp && mayUnlock env caller
  | .lock _ | .onSystemEvent _ | .sendScreenLockEvent _ _ => mayControl caller
  | .lockUser _ => caller.checkPermission accessScreenLockInner
  | .setScreenLockDisabled disable userId =>
      env.currentActiveOsAccountId = userId && !(disable && getSecure env caller) &&
        caller.checkPermission accessScreenLock
  | .setScreenLockAuthState _ _ =>
      !caller.checkSystemPermission && caller.checkPermission accessScreenLockInner
  | .requestStrongAuth _ _ =>
      !caller.checkSystemPermission && caller.checkPermission accessScreenLock
  | .setUnlockPolicy userId _ =>
      caller.checkPermission accessScreenLock && caller.isNativeAccess && env.preferencesUtil &&
        ability.authStateInfo[userId]?.isSome
  | .registerInnerListener _ _ listenType _ | .unRegisterInnerListener _ listenType _ =>
      !caller.checkSystemPermission &&
        (listenType ≠ ListenType.strongAuth || caller.checkPermission accessScreenLock)

/-- What a request does once its checks are passed. -/
def perform : Request → ScreenLockSystemAbility
  | .unlockScreen listener | .unlock listener => ability.queueUnlockListener env caller listener
  | .lock listener => ability.queueLockListener listener
  | .lockUser _ =>
      ability.send (ability.systemEventCallBack { eventType := SystemEvent.lockscreen })
  | .onSystemEvent listener => ability.registerSystemEventListener env caller listener
  | .sendScreenLockEvent event param => ability.screenLockEvent env caller event param
  | .setScreenLockDisabled disable userId => (ability.freshDisabledState env disable userId).2
  | .setScreenLockAuthState authState userId => ability.storeAuthState authState userId
  | .requestStrongAuth reasonFlag userId =>
      ability.enterStrongAuth env (.setStrongAuthStat userId reasonFlag)
  | .setUnlockPolicy userId policy => ability.storeUnlockPolicy env userId policy
  | .registerInnerListener attaches userId listenType listener =>
      { ability with
        innerListeners := (ability.innerListeners.registerInnerListener
          (env.userIdFromCallingUid caller) attaches userId listenType listener).2 }
  | .unRegisterInnerListener _ listenType listener =>
      { ability with
        innerListeners :=
          (ability.innerListeners.unRegisterInnerListener listenType listener).2 }

/-- What an accepted request reports. -/
def performed : Request → ScreenLockError
  | .setScreenLockDisabled disable userId => (ability.freshDisabledState env disable userId).1
  | .registerInnerListener attaches userId listenType listener =>
      (ability.innerListeners.registerInnerListener (env.userIdFromCallingUid caller) attaches
        userId listenType listener).1
  | .unRegisterInnerListener _ listenType listener =>
      (ability.innerListeners.unRegisterInnerListener listenType listener).1
  | _ => .ok

/-- An accepted request acts and reports what comes of it; any other one reports an
error and leaves the state as it is. -/
theorem handle_cases (request : Request) :
    (accepts env caller ability request = true ∧
      ability.handle env caller request =
        (.error (performed env caller ability request), ability.perform env caller request)) ∨
    (accepts env caller ability request = false ∧
      ∃ code, code ≠ .error .ok ∧ ability.handle env caller request = (code, ability)) := by
  cases request with
  | unlockScreen listener =>
      cases hnative : caller.isNativeAccess <;> cases hfocus : env.isAppInForeground caller <;>
        cases hpermission : caller.checkPermission accessScreenLock <;>
          simp [handle, unlockScreen, accepts, mayUnlock, perform, performed, hnative, hfocus,
            hpermission]
  | unlock listener =>
      cases hsystem : caller.systemApp <;> cases hnative : caller.isNativeAccess <;>
        cases hfocus : env.isAppInForeground caller <;>
          cases hpermission : caller.checkPermission accessScreenLock <;>
            simp [handle, unlock, unlockScreen, accepts, mayUnlock, perform, performed, hsystem,
              hnative, hfocus, hpermission]
  | lock listener =>
      cases hsystem : caller.systemApp <;>
        cases hpermission : caller.checkPermission accessScreenLockInner <;>
          simp [handle, lock, accepts, mayControl, perform, performed, hsystem, hpermission]
  | lockUser userId =>
      cases hpermission : caller.checkPermission accessScreenLockInner <;>
        simp [handle, lockUser, accepts, perform, performed, hpermission]
  | onSystemEvent listener =>
      cases hsystem : caller.systemApp <;>
        cases hpermission : caller.checkPermission accessScreenLockInner <;>
          simp [handle, onSystemEvent, accepts, mayControl, perform, performed, hsystem,
            hpermission]
  | sendScreenLockEvent event param =>
      cases hsystem : caller.systemApp <;>
        cases hpermission : caller.checkPermission accessScreenLockInner <;>
          simp [handle, sendScreenLockEvent, accepts, mayControl, perform, performed, hsystem,
            hpermission]
  | setScreenLockDisabled disable userId =>
      by_cases hactive : env.currentActiveOsAccountId = userId <;>
        cases disable <;> cases hsecure : getSecure env caller <;>
          cases hpermission : caller.checkPermission accessScreenLock <;>
            simp [handle, setScreenLockDisabled, accepts, perform, performed, hactive, hsecure,
              hpermission, Prod.map_def]
  | setScreenLockAuthState authState userId =>
      cases hsystem : caller.checkSystemPermission <;>
        cases hpermission : caller.checkPermission accessScreenLockInner <;>
          simp [handle, setScreenLockAuthState, accepts, perform, performed, hsystem, hpermission]
  | requestStrongAuth reasonFlag userId =>
      cases hsystem : caller.checkSystemPermission <;>
        cases hpermission : caller.checkPermission accessScreenLock <;>
          simp [handle, requestStrongAuth, accepts, perform, performed, hsystem, hpermission]
  | setUnlockPolicy userId policy =>
      cases hpermission : caller.checkPermission accessScreenLock <;>
        cases hnative : caller.isNativeAccess <;> cases hutil : env.preferencesUtil <;>
          cases hknown : ability.authStateInfo[userId]? <;>
            simp [handle, setUnlockPolicy, accepts, perform, performed, hpermission, hnative, hutil,
              hknown]
  | registerInnerListener attaches userId listenType listener =>
      by_cases hstrong : listenType = ListenType.strongAuth <;>
        cases hsystem : caller.checkSystemPermission <;>
          cases hpermission : caller.checkPermission accessScreenLock <;>
            simp [handle, registerInnerListener, accepts, perform, performed, hstrong, hsystem,
              hpermission, Prod.map_def]
  | unRegisterInnerListener userId listenType listener =>
      by_cases hstrong : listenType = ListenType.strongAuth <;>
        cases hsystem : caller.checkSystemPermission <;>
          cases hpermission : caller.checkPermission accessScreenLock <;>
            simp [handle, unRegisterInnerListener, accepts, perform, performed, hstrong, hsystem,
              hpermission, Prod.map_def]

theorem handle_eq (request : Request) :
    (ability.handle env caller request).2 =
      if accepts env caller ability request then ability.perform env caller request
      else ability := by
  rcases ability.handle_cases env caller request with ⟨haccepts, heq⟩ | ⟨hrefuses, code, _, heq⟩
  · rw [heq, if_pos haccepts]
  · rw [heq, hrefuses, if_neg Bool.noConfusion]

section Quiet

/-- Nothing among the effects is a state change for inner listeners. -/
def Quiet (effects : List Effect) : Prop :=
  ∀ userId state listenType receivers,
    Effect.stateChanged userId state listenType receivers ∉ effects

theorem quiet_nil : Quiet [] := fun _ _ _ _ => List.not_mem_nil

theorem quiet_systemEventCallBack (event : SystemEvent) :
    Quiet (ability.systemEventCallBack event) := by
  unfold systemEventCallBack
  split
  · exact quiet_nil
  · simp [Quiet]

theorem quiet_publishEvent (event : CommonEvent) (userId : UserId) :
    Quiet (publishEvent event userId) := by
  simp [Quiet, publishEvent]

theorem quiet_preAuthStateNotify (userId : UserId) (authState : Int) :
    Quiet (ability.preAuthStateNotify userId authState) := by
  unfold preAuthStateNotify
  split
  · exact quiet_nil
  · split
    · exact ability.quiet_systemEventCallBack _
    · exact quiet_nil

end Quiet

section Touched

/-! Where an action branches, the parts of the state it can touch at all. -/

theorem freshDisabledState_touches (disable : Bool) (userId : UserId) :
    ∃ store, (ability.freshDisabledState env disable userId).2 =
      { ability with preferences := store } := by
  unfold freshDisabledState
  split
  · exact ⟨ability.preferences, rfl⟩
  · split
    · exact ⟨_, rfl⟩
    · exact ⟨ability.preferences, rfl⟩

theorem initDisabledState_touches (userId : UserId) :
    ∃ store, ability.initDisabledState env userId = { ability with preferences := store } := by
  unfold initDisabledState
  split
  · exact ⟨ability.preferences, rfl⟩
  · split
    · exact ⟨ability.preferences, rfl⟩
    · exact ⟨_, rfl⟩

theorem deleteUnlockPolicyForUser_touches (userId : UserId) :
    ∃ store, ability.deleteUnlockPolicyForUser env userId =
      { ability with preferences := store } := by
  unfold deleteUnlockPolicyForUser
  split
  · exact ⟨ability.preferences, rfl⟩
  · exact ⟨_, rfl⟩

theorem onReceiveEvent_touches (userId authType credentialCount : String) :
    ∃ store, ability.onReceiveEvent env userId authType credentialCount =
      { ability with preferences := store } := by
  unfold onReceiveEvent
  split
  · split
    · exact ⟨ability.preferences, rfl⟩
    · exact ⟨_, rfl⟩
  · exact ⟨ability.preferences, rfl⟩

theorem storeUnlockPolicy_touches (userId : UserId) (policy : Int) :
    ∃ store effects, Quiet effects ∧ ability.storeUnlockPolicy env userId policy =
      { ability with preferences := store, sent := ability.sent ++ effects } := by
  unfold storeUnlockPolicy
  split
  · exact ⟨ability.preferences, [], quiet_nil, by simp⟩
  · exact ⟨_, _, ability.quiet_systemEventCallBack _, rfl⟩

/-- The recorded lock states after a report of the account. -/
def recordReport (userId : UserId) (event : String) (param : Int)
    (isScreenlockedMap : Std.TreeMap UserId Bool) : Std.TreeMap UserId Bool :=
  if event = unlockScreenResult ∧
      (param = ScreenChange.earlySuccess ∨ param = ScreenChange.screenSucc) then
    isScreenlockedMap.insert userId false
  else if event = lockScreenResult ∧ param = ScreenChange.screenSucc then
    isScreenlockedMap.insert userId true
  else isScreenlockedMap

/-- The waiting listeners after a report of the account. -/
def submitReport (now : Nat) (userId : UserId) (event : String) (param : Int)
    (waiting : WaitingListeners) : WaitingListeners :=
  if event = unlockScreenResult then
    if param = ScreenChange.alreadyUnlocked then
      waiting.notifyUnlockListener now ScreenChange.screenSucc userId
    else if param = ScreenChange.earlySuccess ∨ param = ScreenChange.screenFail then waiting
    else waiting.notifyUnlockListener now param userId
  else if event = lockScreenResult then waiting.submitLockTask now param
  else waiting

theorem unlockScreenEvent_touches (param : Int) :
    ∃ queue effects, Quiet effects ∧ ability.unlockScreenEvent env caller param =
      { ability with
        waiting := submitReport ability.clock (env.userIdFromCallingUid caller)
          unlockScreenResult param ability.waiting
        isScreenlockedMap := recordReport (env.userIdFromCallingUid caller) unlockScreenResult
          param ability.isScreenlockedMap
        queue := queue
        sent := ability.sent ++ effects } := by
  unfold unlockScreenEvent
  dsimp only
  by_cases halready : param = ScreenChange.alreadyUnlocked
  · subst halready
    exact ⟨ability.queue, [], quiet_nil, by rw [List.append_nil]; rfl⟩
  rw [if_neg halready]
  by_cases hearly : param = ScreenChange.earlySuccess
  · subst hearly
    exact ⟨ability.queue, _, quiet_publishEvent _ _, rfl⟩
  rw [if_neg hearly]
  by_cases hsucc : param = ScreenChange.screenSucc
  · subst hsucc
    exact ⟨_, _, quiet_publishEvent _ _, rfl⟩
  rw [if_neg hsucc]
  have hrecord : recordReport (env.userIdFromCallingUid caller) unlockScreenResult param
      ability.isScreenlockedMap = ability.isScreenlockedMap := by
    simp [recordReport, hearly, hsucc, unlockScreenResult, lockScreenResult]
  by_cases hfail : param = ScreenChange.screenFail
  · subst hfail
    exact ⟨ability.queue, [], quiet_nil, by rw [List.append_nil]; rfl⟩
  · refine ⟨ability.queue, [], quiet_nil, ?_⟩
    rw [if_pos hfail, hrecord, List.append_nil]
    simp [notifyUnlockListener, submitReport, halready, hearly, hfail]

theorem lockScreenEvent_touches (param : Int) :
    ∃ queue effects, Quiet effects ∧ ability.lockScreenEvent env caller param =
      { ability with
        waiting := submitReport ability.clock (env.userIdFromCallingUid caller)
          lockScreenResult param ability.waiting
        isScreenlockedMap := recordReport (env.userIdFromCallingUid caller) lockScreenResult
          param ability.isScreenlockedMap
        queue := queue
        sent := ability.sent ++ effects } := by
  unfold lockScreenEvent
  dsimp only
  by_cases hsucc : param = ScreenChange.screenSucc
  · subst hsucc
    exact ⟨ability.queue, _, quiet_publishEvent _ _, rfl⟩
  · refine ⟨ability.queue, [], quiet_nil, ?_⟩
    have hother : lockScreenResult ≠ unlockScreenResult := by decide
    simp [recordReport, submitReport, hsucc, hother]

theorem screenLockEvent_touches (event : String) (param : Int) :
    ∃ queue effects, Quiet effects ∧ ability.screenLockEvent env caller event param =
      { ability with
        waiting := submitReport ability.clock (env.userIdFromCallingUid caller) event param
          ability.waiting
        isScreenlockedMap := recordReport (env.userIdFromCallingUid caller) event param
          ability.isScreenlockedMap
        queue := queue
        sent := ability.sent ++ effects } := by
  unfold screenLockEvent
  by_cases hunlock : event = unlockScreenResult
  · subst hunlock
    rw [if_pos rfl]
    exact ability.unlockScreenEvent_touches env caller param
  rw [if_neg hunlock]
  by_cases hlock : event = lockScreenResult
  · subst hlock
    rw [if_neg (by decide), if_pos rfl]
    exact ability.lockScreenEvent_touches env caller param
  rw [if_neg hlock]
  have hrecord : recordReport (env.userIdFromCallingUid caller) event param
      ability.isScreenlockedMap = ability.isScreenlockedMap := by
    simp [recordReport, hunlock, hlock]
  have hsubmit : submitReport ability.clock (env.userIdFromCallingUid caller) event param
      ability.waiting = ability.waiting := by
    simp [submitReport, hunlock, hlock]
  rw [hrecord, hsubmit]
  split
  · exact ⟨_, [], quiet_nil, by rw [List.append_nil]; rfl⟩
  · exact ⟨ability.queue, [], quiet_nil, by rw [List.append_nil]⟩

/-- What an accepted request does to everything but the settings, the queue and
what is sent. -/
def act : Request → ScreenLockSystemAbility
  | .unlockScreen listener | .unlock listener =>
      { ability with
        waiting := ability.waiting.pushUnlockListener ability.clock listener
          (env.userIdFromCallingUid caller) }
  | .lock listener =>
      { ability with waiting := ability.waiting.pushLockListener ability.clock listener }
  | .lockUser _ | .setScreenLockDisabled _ _ | .setUnlockPolicy _ _ => ability
  | .onSystemEvent listener =>
      { ability with
        systemEventListener := listener
        currentUser := env.userIdFromCallingUid caller }
  | .sendScreenLockEvent event param =>
      { ability with
        waiting := submitReport ability.clock (env.userIdFromCallingUid caller) event param
          ability.waiting
        isScreenlockedMap := recordReport (env.userIdFromCallingUid caller) event param
          ability.isScreenlockedMap }
  | .setScreenLockAuthState authState userId =>
      { ability with authStateInfo := ability.authStateInfo.insert userId authState }
  | .requestStrongAuth reasonFlag userId =>
      { ability with
        strongAuth :=
          { ability.strongAuth.enter env (.setStrongAuthStat userId reasonFlag) with
            changes := [] } }
  | .registerInnerListener attaches userId listenType listener =>
      { ability with
        innerListeners := (ability.innerListeners.registerInnerListener
          (env.userIdFromCallingUid caller) attaches userId listenType listener).2 }
  | .unRegisterInnerListener _ listenType listener =>
      { ability with
        innerListeners :=
          (ability.innerListeners.unRegisterInnerListener listenType listener).2 }

theorem perform_touches (request : Request) :
    ∃ queue store effects, ability.perform env caller request =
      { ability.act env caller request with
        queue := queue
        preferences := store
        sent := effects } := by
  cases request with
  | sendScreenLockEvent event param =>
      obtain ⟨queue, effects, _, heq⟩ := ability.screenLockEvent_touches env caller event param
      exact ⟨queue, ability.preferences, _, heq⟩
  | setScreenLockDisabled disable userId =>
      obtain ⟨store, heq⟩ := ability.freshDisabledState_touches env disable userId
      exact ⟨ability.queue, store, ability.sent, heq⟩
  | setUnlockPolicy userId policy =>
      obtain ⟨store, effects, _, heq⟩ := ability.storeUnlockPolicy_touches env userId policy
      exact ⟨ability.queue, store, _, heq⟩
  | _ => exact ⟨_, _, _, rfl⟩

/-- What a notification does to everything but the settings. -/
def notice : Notification → ScreenLockSystemAbility
  | .activeUser targetUser =>
      (ability.enterStrongAuth env (.getCredInfo targetUser)).authStateInit targetUser
  | .removeUser userId =>
      { ability with
        authStateInfo := ability.authStateInfo.erase userId
        isScreenlockedMap := ability.isScreenlockedMap.erase userId }
  | .accountUnlocked targetUser => ability.enterStrongAuth env (.accountUnlocked targetUser)
  | .initUserId | .credentialUpdated _ _ _ => ability
  | .credChange callingUid userId authType eventType isSilentCredChange =>
      if callingUid = idmUid then
        ability.enterStrongAuth env (.credChange userId authType eventType isSilentCredChange)
      else ability
  | .authSuccess userId authType isWidgetAuth =>
      ability.enterStrongAuth env (.authSuccess userId authType isWidgetAuth)
  | .credentialInfo userId result infoList =>
      ability.enterStrongAuth env (.credentialInfo userId result infoList)
  | .timerFired userId => ability.enterStrongAuth env (.timerFired userId)
  | .destroyAllStrongAuthTimer => ability.enterStrongAuth env .destroyAllStrongAuthTimer
  | .remoteDied remote =>
      { ability with innerListeners := ability.innerListeners.onRemoteDied remote }

theorem onNotification_touches (notification : Notification) :
    ∃ store, ability.onNotification env notification =
      { ability.notice env notification with preferences := store } := by
  cases notification with
  | activeUser targetUser => exact initDisabledState_touches env _ targetUser
  | removeUser userId => exact deleteUnlockPolicyForUser_touches env _ userId
  | initUserId => exact initDisabledState_touches env ability _
  | credChange callingUid userId authType eventType isSilentCredChange =>
      simp only [onNotification, onNotifyCredChangeEvent, notice]
      by_cases hidm : callingUid = idmUid
      · rw [if_neg (not_not.mpr hidm), if_pos hidm]
        split
        · obtain ⟨store, heq⟩ := ability.freshDisabledState_touches env false userId
          rw [heq]
          exact ⟨store, rfl⟩
        · exact ⟨ability.preferences, rfl⟩
      · rw [if_pos hidm, if_neg hidm]
        exact ⟨ability.preferences, rfl⟩
  | credentialUpdated userId authType credentialCount =>
      exact ability.onReceiveEvent_touches env userId authType credentialCount
  | _ => exact ⟨ability.preferences, rfl⟩

end Touched

end Screenlock.ScreenLockSystemAbility
