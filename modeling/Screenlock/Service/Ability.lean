import Screenlock.Service.Listeners
import Screenlock.StrongAuth.Manager
import Screenlock.InnerListener.Manager

/-! # The system ability

`ScreenLockSystemAbility` with the objects it owns. Each function below is one
member function, run to its end; what it sends to others during one entry into
the service is collected in `sent`. This is the build without the watch
application lock.
-/

namespace Screenlock

/-- Identity of a `ScreenLockSystemAbilityInterface` object. -/
abbrev SystemEventListener := Nat

/-- Work submitted to the serial queue of the service. -/
inductive QueueTask where
  | notifyDisplayEvent (event : DisplayEvent)
  | onSystemReady
  deriving DecidableEq, Repr

/-- What leaves the service. A state change is issued to the inner-listener
manager, which passes it to the receivers. -/
inductive Effect where
  | systemEvent (listener : SystemEventListener) (event : SystemEvent)
  | commonEvent (event : CommonEvent) (userId : UserId)
  | stateChanged (userId : UserId) (state : Int) (listenType : ListenType)
      (receivers : List InnerListener)
  deriving DecidableEq, Repr

structure ScreenLockSystemAbility where
  /-- Entries into the service so far. It stamps requests and tasks; no decision reads it. -/
  clock : Nat
  currentUser : UserId
  systemEventListener : Option SystemEventListener
  /-- `queue_`, with the tasks submitted to it; `none` for a null pointer. -/
  queue : Option (List QueueTask)
  waiting : WaitingListeners
  authStateInfo : Std.TreeMap UserId Int
  isScreenlockedMap : Std.TreeMap UserId Bool
  preferences : Preferences
  strongAuth : StrongAuthManger
  innerListeners : InnerListenerManager
  sent : List Effect

/-- The preference key of the disabled flag. -/
def disabledKey (userId : UserId) : String := toString userId

/-- `UNLOCK_POLICY_KEY_PREFIX` and the account. -/
def unlockPolicyKey (userId : UserId) : String := "unlockPolicy_" ++ toString userId

/-- Only fully authenticated states unlock the device. -/
def getDeviceLockedStateByAuth (authState : Int) : Bool :=
  !(authState = AuthState.authedByCredential || authState = AuthState.authedByFingerprint ||
    authState = AuthState.authedByFace)

namespace ScreenLockSystemAbility

/-- A freshly started service over what the preference store kept on disk. -/
def started (disk : Std.TreeMap String PreferencesValue) : ScreenLockSystemAbility where
  clock := 0
  currentUser := userNull
  systemEventListener := none
  queue := some []
  waiting := WaitingListeners.empty
  authStateInfo := ∅
  isScreenlockedMap := ∅
  preferences := ⟨disk, disk⟩
  strongAuth := StrongAuthManger.empty
  innerListeners := InnerListenerManager.empty
  sent := []

section Sending

def send (effects : List Effect) (ability : ScreenLockSystemAbility) : ScreenLockSystemAbility :=
  { ability with sent := ability.sent ++ effects }

/-! Functions that only send return what they send. -/

def systemEventCallBack (event : SystemEvent) (ability : ScreenLockSystemAbility) : List Effect :=
  match ability.systemEventListener with
  | none => []
  | some listener => [.systemEvent listener event]

def publishEvent (event : CommonEvent) (userId : UserId) : List Effect :=
  [.commonEvent event userId]

/-- `InnerListenerManager::OnStateChanged`. -/
def onStateChanged (userId : UserId) (state : Int) (listenType : ListenType)
    (ability : ScreenLockSystemAbility) : List Effect :=
  [.stateChanged userId state listenType
    (ability.innerListeners.onStateChanged userId listenType)]

def onDeviceLockStateChanged (userId : UserId) (lockState : Bool)
    (ability : ScreenLockSystemAbility) : List Effect :=
  ability.onStateChanged userId (if lockState then 1 else 0) ListenType.deviceLock

def strongAuthChanged (userId : UserId) (reasonFlag : Int) (ability : ScreenLockSystemAbility) :
    List Effect :=
  if ability.currentUser ≠ userId then []
  else ability.systemEventCallBack
    { eventType := SystemEvent.strongAuthChanged, params := toString reasonFlag, userId := userId }

/-- `PreAuthStateNotify`. -/
def preAuthStateNotify (userId : UserId) (authState : Int) (ability : ScreenLockSystemAbility) :
    List Effect :=
  if userId ≠ ability.currentUser then []
  else if authState = AuthState.preAuthedResultByCredential ∨
      authState = AuthState.preAuthedResultByFingerprint then
    ability.systemEventCallBack { eventType := SystemEvent.preAuthResult }
  else []

def unlockPolicyChanged (userId : UserId) (policy : Int) (ability : ScreenLockSystemAbility) :
    List Effect :=
  ability.systemEventCallBack
    { eventType := SystemEvent.unlockPolicyChange
      params := "\x7b \"userId\": " ++ toString userId ++ ", \"policy\": " ++ toString policy ++
        " \x7d" }

/-- An entry into the strong-authentication manager. Each change it hands to
`NotifyStrongAuthChange` goes to the lock-screen application and the listeners. -/
def enterStrongAuth (env : Environment) (event : StrongAuthEvent)
    (ability : ScreenLockSystemAbility) : ScreenLockSystemAbility :=
  let after := ability.strongAuth.enter env event
  let announced := after.changes.flatMap fun (userId, reasonFlag) =>
    ability.strongAuthChanged userId reasonFlag ++
      ability.onStateChanged userId reasonFlag ListenType.strongAuth
  { ability with strongAuth := { after with changes := [] } }.send announced

/-- Submission to `queue_`; a null queue takes nothing. -/
def submit (task : QueueTask) (ability : ScreenLockSystemAbility) : ScreenLockSystemAbility :=
  { ability with queue := ability.queue.map (· ++ [task]) }

def notifyDisplayEvent (event : DisplayEvent) (ability : ScreenLockSystemAbility) :
    ScreenLockSystemAbility :=
  ability.submit (.notifyDisplayEvent event)

end Sending

section LockState

def setScreenlocked (isScreenlocked : Bool) (userId : UserId)
    (ability : ScreenLockSystemAbility) : ScreenLockSystemAbility :=
  { ability with isScreenlockedMap := ability.isScreenlockedMap.insert userId isScreenlocked }

/-- `IsScreenLocked`: without a current user, the caller's account is asked for. -/
def isScreenLocked (env : Environment) (caller : Caller) (ability : ScreenLockSystemAbility) :
    Bool :=
  let userId :=
    if ability.currentUser = userNull ∨ ability.currentUser = 0 then
      env.userIdFromCallingUid caller
    else ability.currentUser
  (ability.isScreenlockedMap[userId]?).getD true

def lockScreenEvent (env : Environment) (caller : Caller) (stateResult : Int)
    (ability : ScreenLockSystemAbility) : ScreenLockSystemAbility :=
  let userId := env.userIdFromCallingUid caller
  let locked :=
    if stateResult = ScreenChange.screenSucc then ability.setScreenlocked true userId
    else ability
  let submitted :=
    { locked with waiting := locked.waiting.submitLockTask locked.clock stateResult }
  if stateResult = ScreenChange.screenSucc then submitted.send (publishEvent .screenLocked userId)
  else submitted

def notifyUnlockListener (env : Environment) (caller : Caller) (screenLockResult : Int)
    (ability : ScreenLockSystemAbility) : ScreenLockSystemAbility :=
  { ability with
    waiting := ability.waiting.notifyUnlockListener ability.clock screenLockResult
      (env.userIdFromCallingUid caller) }

def unlockScreenEvent (env : Environment) (caller : Caller) (stateResult : Int)
    (ability : ScreenLockSystemAbility) : ScreenLockSystemAbility :=
  let userId := env.userIdFromCallingUid caller
  if stateResult = ScreenChange.alreadyUnlocked then
    -- translated to a success, without a record of it
    ability.notifyUnlockListener env caller ScreenChange.screenSucc
  else if stateResult = ScreenChange.earlySuccess then
    (ability.setScreenlocked false userId).send (publishEvent .screenLockExiting userId)
  else
    let unlocked :=
      if stateResult = ScreenChange.screenSucc then
        ((ability.setScreenlocked false userId).notifyDisplayEvent .unlock).send
          (publishEvent .screenUnlocked userId)
      else ability
    if stateResult ≠ ScreenChange.screenFail then
      unlocked.notifyUnlockListener env caller stateResult
    else unlocked

end LockState

section Accounts

/-- `FreshDisabledState`. -/
def freshDisabledState (env : Environment) (disable : Bool) (userId : UserId)
    (ability : ScreenLockSystemAbility) : ScreenLockError × ScreenLockSystemAbility :=
  if env.preferencesUtil = false then (.nullptr, ability)
  else if disable ≠
      ability.preferences.obtainBool (env.preferences 0) (disabledKey userId) false then
    let saved :=
      (ability.preferences.saveBool (env.preferences 1) (disabledKey userId) disable).2
    (.ok, { ability with preferences := saved.refresh (env.preferences 2) })
  else (.ok, ability)

/-- `DeleteUnlockPolicyForUser`. -/
def deleteUnlockPolicyForUser (env : Environment) (userId : UserId)
    (ability : ScreenLockSystemAbility) : ScreenLockSystemAbility :=
  if env.preferencesUtil = false then ability
  else { ability with
    preferences :=
      (ability.preferences.removeKey (env.preferences 0) (unlockPolicyKey userId)).2 }

def onRemoveUser (env : Environment) (userId : UserId) (ability : ScreenLockSystemAbility) :
    ScreenLockSystemAbility :=
  { ability with
    authStateInfo := ability.authStateInfo.erase userId
    isScreenlockedMap := ability.isScreenlockedMap.erase userId }.deleteUnlockPolicyForUser
      env userId

def authStateInit (userId : UserId) (ability : ScreenLockSystemAbility) :
    ScreenLockSystemAbility :=
  { ability with
    authStateInfo := ability.authStateInfo.insertIfNew userId AuthState.unauth
    isScreenlockedMap := ability.isScreenlockedMap.insertIfNew userId true }

/-- What `OnActiveUser` and `InitUserId` do with the disabled flag. -/
def initDisabledState (env : Environment) (userId : UserId) (ability : ScreenLockSystemAbility) :
    ScreenLockSystemAbility :=
  if env.preferencesUtil = false then ability
  else if ability.preferences.obtainBool (env.preferences 0) (disabledKey userId) false then
    ability
  else
    let saved := (ability.preferences.saveBool (env.preferences 1) (disabledKey userId) false).2
    { ability with preferences := saved.refresh (env.preferences 2) }

def onActiveUser (env : Environment) (targetUser : UserId) (ability : ScreenLockSystemAbility) :
    ScreenLockSystemAbility :=
  ((ability.enterStrongAuth env (.getCredInfo targetUser)).authStateInit
    targetUser).initDisabledState env targetUser

def initUserId (env : Environment) (ability : ScreenLockSystemAbility) :
    ScreenLockSystemAbility :=
  ability.initDisabledState env env.currentActiveOsAccountId

def accountUnlocked (env : Environment) (targetUser : UserId)
    (ability : ScreenLockSystemAbility) : ScreenLockSystemAbility :=
  ability.enterStrongAuth env (.accountUnlocked targetUser)

end Accounts

section Notifications

/-- The uid of identity management. -/
def idmUid : Int := 1088

/-- `CredChangeListenerService::OnNotifyCredChangeEvent`. -/
def onNotifyCredChangeEvent (env : Environment) (callingUid : Int) (userId : UserId)
    (authType : AuthType) (eventType : CredChangeEventType) (isSilentCredChange : Bool)
    (ability : ScreenLockSystemAbility) : ScreenLockSystemAbility :=
  if callingUid ≠ idmUid then ability
  else
    let freshened :=
      if env.currentActiveOsAccountId = userId ∧ authType = .pin ∧ eventType = .addCred then
        (ability.freshDisabledState env false userId).2
      else ability
    freshened.enterStrongAuth env (.credChange userId authType eventType isSilentCredChange)

/-- `CommeventMgr::OnReceiveEvent` for `USER_CREDENTIAL_UPDATED_EVENT`; the
parameters of the event are texts. -/
def onReceiveEvent (env : Environment) (userId authType credentialCount : String)
    (ability : ScreenLockSystemAbility) : ScreenLockSystemAbility :=
  if authType = "1" ∧ credentialCount ≠ "0" then
    if env.preferencesUtil = false then ability
    else
      let removed := (ability.preferences.removeKey (env.preferences 0) userId).2
      { ability with preferences := removed.refresh (env.preferences 1) }
  else ability

end Notifications

end ScreenLockSystemAbility

end Screenlock
