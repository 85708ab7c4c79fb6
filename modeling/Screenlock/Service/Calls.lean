import Screenlock.Service.Ability

/-! # The IPC methods

Each method with the checks it makes, in their order. Queries answer from the
state and change nothing. A method that changes the state returns its code
beside the new state.
-/

namespace Screenlock.ScreenLockSystemAbility

variable (env : Environment) (caller : Caller)

section Queries

def isLocked (ability : ScreenLockSystemAbility) : Except ScreenLockError Bool :=
  if caller.tokenType = .hap ∧ caller.systemApp = false then .error .notSystemApp
  else .ok (ability.isScreenLocked env caller)

/-- Code and output; the output is written on every path that returns one of the two codes. -/
def isLockedWithUserId (userId : UserId) (ability : ScreenLockSystemAbility) :
    ScreenLockError × Option Bool :=
  if caller.checkSystemPermission then (.notSystemApp, none)
  else match ability.isScreenlockedMap[userId]? with
    | some isLocked => (.ok, some isLocked)
    | none => (.userIdInvalid, some true)

/-- `GetSecure` asks about the account of the caller. -/
def getSecure : Bool :=
  let (result, credInfo) := env.credentialInfoSync (env.userIdFromCallingUid caller)
  result = .success ∧ credInfo.length > 0

def isScreenLockDisabled (userId : UserId) (ability : ScreenLockSystemAbility) :
    Except ScreenLockError Bool :=
  if env.preferencesUtil = false then .error .nullptr
  else if caller.checkPermission accessScreenLock = false then .error .noPermission
  else .ok (ability.preferences.obtainBool (env.preferences 0) (disabledKey userId) false)

def getScreenLockAuthState (userId : UserId) (ability : ScreenLockSystemAbility) :
    Except ScreenLockError Int :=
  if caller.checkSystemPermission then .error .notSystemApp
  else if caller.checkPermission accessScreenLock = false then .error .noPermission
  else .ok ((ability.authStateInfo[userId]?).getD AuthState.unauth)

def getStrongAuth (userId : UserId) (ability : ScreenLockSystemAbility) :
    Except ScreenLockError Int :=
  if caller.checkSystemPermission then .error .notSystemApp
  else if caller.checkPermission accessScreenLock = false then .error .noPermission
  else .ok (ability.strongAuth.getStrongAuthStat env userId)

def isDeviceLocked (userId : UserId) (ability : ScreenLockSystemAbility) :
    ScreenLockError × Option Bool :=
  if caller.checkSystemPermission then (.notSystemApp, none)
  else match ability.authStateInfo[userId]? with
    | some authState => (.ok, some (getDeviceLockedStateByAuth authState))
    | none => (.userIdInvalid, some true)

def getUnlockPolicy (userId : UserId) (ability : ScreenLockSystemAbility) :
    ScreenLockError × Option Int :=
  if caller.checkSystemPermission then (.notSystemApp, none)
  else if caller.checkPermission accessScreenLock = false then (.noPermission, none)
  else if env.preferencesUtil = false then (.nullptr, none)
  else match ability.authStateInfo[userId]? with
    | some _ =>
        (.ok, some (ability.preferences.obtainInt (env.preferences 0) (unlockPolicyKey userId) 0))
    | none => (.userIdInvalid, some 0)

end Queries

section LockAndUnlock

variable (ability : ScreenLockSystemAbility)

def queueUnlockListener (listener : ScreenLockCallback) : ScreenLockSystemAbility :=
  { ability with
    waiting := ability.waiting.pushUnlockListener ability.clock listener
      (env.userIdFromCallingUid caller) }.send
        (ability.systemEventCallBack { eventType := SystemEvent.unlockscreen })

/-- `UnlockInner`, and `UnlockScreen`, which only adds tracing. -/
def unlockScreen (listener : ScreenLockCallback) : ScreenLockError × ScreenLockSystemAbility :=
  if caller.isNativeAccess = false ∧ env.isAppInForeground caller = false ∧
      caller.checkPermission accessScreenLock = false then (.notFocusApp, ability)
  else (.ok, ability.queueUnlockListener env caller listener)

def unlock (listener : ScreenLockCallback) : ScreenLockError × ScreenLockSystemAbility :=
  if caller.systemApp = false then (.notSystemApp, ability)
  else ability.unlockScreen env caller listener

/-- The account of the caller is not kept. -/
def queueLockListener (listener : ScreenLockCallback) : ScreenLockSystemAbility :=
  { ability with waiting := ability.waiting.pushLockListener ability.clock listener }.send
    (ability.systemEventCallBack { eventType := SystemEvent.lockscreen })

/-- `Lock` with a listener. -/
def lock (listener : ScreenLockCallback) : ScreenLockError × ScreenLockSystemAbility :=
  if caller.systemApp = false then (.notSystemApp, ability)
  else if caller.checkPermission accessScreenLockInner = false then (.noPermission, ability)
  else (.ok, ability.queueLockListener listener)

/-- `Lock` with a user id, which no branch reads. -/
def lockUser (_userId : UserId) : ScreenLockError × ScreenLockSystemAbility :=
  if caller.checkPermission accessScreenLockInner = false then (.noPermission, ability)
  else (.ok, ability.send (ability.systemEventCallBack { eventType := SystemEvent.lockscreen }))

def registerSystemEventListener (listener : Option SystemEventListener) :
    ScreenLockSystemAbility :=
  { ability with
    systemEventListener := listener
    currentUser := env.userIdFromCallingUid caller }.submit .onSystemReady

def onSystemEvent (listener : Option SystemEventListener) :
    ScreenLockError × ScreenLockSystemAbility :=
  if caller.systemApp = false then (.notSystemApp, ability)
  else if caller.checkPermission accessScreenLockInner = false then (.noPermission, ability)
  else (.ok, ability.registerSystemEventListener env caller listener)

def screenLockEvent (event : String) (param : Int) : ScreenLockSystemAbility :=
  if event = unlockScreenResult then ability.unlockScreenEvent env caller param
  else if event = screenDrawdone then ability.notifyDisplayEvent .keyguardDrawn
  else if event = lockScreenResult then ability.lockScreenEvent env caller param
  else ability

def sendScreenLockEvent (event : String) (param : Int) :
    ScreenLockError × ScreenLockSystemAbility :=
  if caller.systemApp = false then (.notSystemApp, ability)
  else if caller.checkPermission accessScreenLockInner = false then (.noPermission, ability)
  else (.ok, ability.screenLockEvent env caller event param)

end LockAndUnlock

section Settings

variable (ability : ScreenLockSystemAbility)

def setScreenLockDisabled (disable : Bool) (userId : UserId) :
    ReturnCode × ScreenLockSystemAbility :=
  if env.currentActiveOsAccountId ≠ userId then (.screenFail, ability)
  else if disable = true ∧ getSecure env caller = true then (.screenFail, ability)
  else if caller.checkPermission accessScreenLock = false then (.error .noPermission, ability)
  else (ability.freshDisabledState env disable userId).map .error id

/-- A change is announced only where an earlier state is on record. -/
def storeAuthState (authState : Int) (userId : UserId) : ScreenLockSystemAbility :=
  let announced := match ability.authStateInfo[userId]? with
    | some current =>
        let nextState := getDeviceLockedStateByAuth authState
        if nextState ≠ getDeviceLockedStateByAuth current then
          ability.onDeviceLockStateChanged userId nextState
        else []
    | none => []
  { ability with authStateInfo := ability.authStateInfo.insert userId authState }.send
    (announced ++ ability.preAuthStateNotify userId authState)

/-- `SetScreenLockAuthState`; the token is not read. -/
def setScreenLockAuthState (authState : Int) (userId : UserId) :
    ScreenLockError × ScreenLockSystemAbility :=
  if caller.checkSystemPermission then (.notSystemApp, ability)
  else if caller.checkPermission accessScreenLockInner = false then (.noPermission, ability)
  else (.ok, ability.storeAuthState authState userId)

def requestStrongAuth (reasonFlag : Int) (userId : UserId) :
    ScreenLockError × ScreenLockSystemAbility :=
  if caller.checkSystemPermission then (.notSystemApp, ability)
  else if caller.checkPermission accessScreenLock = false then (.noPermission, ability)
  else (.ok, ability.enterStrongAuth env (.setStrongAuthStat userId reasonFlag))

def storeUnlockPolicy (userId : UserId) (policy : Int) : ScreenLockSystemAbility :=
  if ability.preferences.obtainInt (env.preferences 0) (unlockPolicyKey userId) 0 = policy then
    ability
  else
    let saved :=
      (ability.preferences.saveInt (env.preferences 1) (unlockPolicyKey userId) policy).2
    { ability with preferences := saved.refresh (env.preferences 2) }.send
      (ability.unlockPolicyChanged userId policy)

def setUnlockPolicy (userId : UserId) (policy : Int) :
    ScreenLockError × ScreenLockSystemAbility :=
  if caller.checkPermission accessScreenLock = false then (.noPermission, ability)
  else if caller.isNativeAccess = false then (.noPermission, ability)
  else if env.preferencesUtil = false then (.nullptr, ability)
  else match ability.authStateInfo[userId]? with
    | none => (.userIdInvalid, ability)
    | some _ => (.ok, ability.storeUnlockPolicy env userId policy)

end Settings

section InnerListeners

variable (ability : ScreenLockSystemAbility)

/-- `RegisterInnerListener`; `attaches` is the answer of the remote object. -/
def registerInnerListener (attaches : Bool) (userId : UserId) (listenType : ListenType)
    (listener : Option InnerListener) : ScreenLockError × ScreenLockSystemAbility :=
  if caller.checkSystemPermission then (.notSystemApp, ability)
  else if listenType = ListenType.strongAuth ∧
      caller.checkPermission accessScreenLock = false then (.noPermission, ability)
  else (ability.innerListeners.registerInnerListener (env.userIdFromCallingUid caller) attaches
    userId listenType listener).map id fun registered =>
      { ability with innerListeners := registered }

/-- `UnRegisterInnerListener` does not pass the account on. -/
def unRegisterInnerListener (_userId : UserId) (listenType : ListenType)
    (listener : Option InnerListener) : ScreenLockError × ScreenLockSystemAbility :=
  if caller.checkSystemPermission then (.notSystemApp, ability)
  else if listenType = ListenType.strongAuth ∧
      caller.checkPermission accessScreenLock = false then (.noPermission, ability)
  else (ability.innerListeners.unRegisterInnerListener listenType listener).map id
    fun unregistered => { ability with innerListeners := unregistered }

end InnerListeners

end Screenlock.ScreenLockSystemAbility
