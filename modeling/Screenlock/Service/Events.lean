import Screenlock.Service.Calls

/-! # Runs of the service

An entry into the service is an IPC request of some caller, a notification of
the platform, or a submitted task that runs. Each comes with what the platform
answers while it runs. An entry runs to its end before the next one begins.
-/

namespace Screenlock

open Foundation

/-- The IPC methods that can change the state. -/
inductive Request where
  | unlockScreen (listener : ScreenLockCallback)
  | unlock (listener : ScreenLockCallback)
  | lock (listener : ScreenLockCallback)
  | lockUser (userId : UserId)
  | onSystemEvent (listener : Option SystemEventListener)
  | sendScreenLockEvent (event : String) (param : Int)
  | setScreenLockDisabled (disable : Bool) (userId : UserId)
  | setScreenLockAuthState (authState : Int) (userId : UserId)
  | requestStrongAuth (reasonFlag : Int) (userId : UserId)
  | setUnlockPolicy (userId : UserId) (policy : Int)
  | registerInnerListener (attaches : Bool) (userId : UserId) (listenType : ListenType)
      (listener : Option InnerListener)
  | unRegisterInnerListener (userId : UserId) (listenType : ListenType)
      (listener : Option InnerListener)
  deriving DecidableEq, Repr

/-- What others tell the service. -/
inductive Notification where
  | activeUser (targetUser : UserId)
  | removeUser (userId : UserId)
  | accountUnlocked (targetUser : UserId)
  | initUserId
  | credChange (callingUid : Int) (userId : UserId) (authType : AuthType)
      (eventType : CredChangeEventType) (isSilentCredChange : Bool)
  | credentialUpdated (userId authType credentialCount : String)
  | authSuccess (userId : UserId) (authType : AuthType) (isWidgetAuth : Bool)
  | credentialInfo (userId : UserId) (result : ResultCode) (infoList : List CredentialInfo)
  | timerFired (userId : UserId)
  | destroyAllStrongAuthTimer
  | remoteDied (remote : Option RemoteObject)
  deriving DecidableEq, Repr

inductive ServiceEvent where
  | call (env : Environment) (caller : Caller) (request : Request)
  | notify (env : Environment) (notification : Notification)
  | runLockTask (reportedAt : Nat)
  | runUnlockTask (reportedAt : Nat)

namespace ScreenLockSystemAbility

variable (ability : ScreenLockSystemAbility)

def handle (env : Environment) (caller : Caller) :
    Request → ReturnCode × ScreenLockSystemAbility
  | .unlockScreen listener => (ability.unlockScreen env caller listener).map .error id
  | .unlock listener => (ability.unlock env caller listener).map .error id
  | .lock listener => (ability.lock caller listener).map .error id
  | .lockUser userId => (ability.lockUser caller userId).map .error id
  | .onSystemEvent listener => (ability.onSystemEvent env caller listener).map .error id
  | .sendScreenLockEvent event param =>
      (ability.sendScreenLockEvent env caller event param).map .error id
  | .setScreenLockDisabled disable userId =>
      ability.setScreenLockDisabled env caller disable userId
  | .setScreenLockAuthState authState userId =>
      (ability.setScreenLockAuthState caller authState userId).map .error id
  | .requestStrongAuth reasonFlag userId =>
      (ability.requestStrongAuth env caller reasonFlag userId).map .error id
  | .setUnlockPolicy userId policy =>
      (ability.setUnlockPolicy env caller userId policy).map .error id
  | .registerInnerListener attaches userId listenType listener =>
      (ability.registerInnerListener env caller attaches userId listenType listener).map .error id
  | .unRegisterInnerListener userId listenType listener =>
      (ability.unRegisterInnerListener caller userId listenType listener).map .error id

def onNotification (env : Environment) : Notification → ScreenLockSystemAbility
  | .activeUser targetUser => ability.onActiveUser env targetUser
  | .removeUser userId => ability.onRemoveUser env userId
  | .accountUnlocked targetUser => ability.accountUnlocked env targetUser
  | .initUserId => ability.initUserId env
  | .credChange callingUid userId authType eventType isSilentCredChange =>
      ability.onNotifyCredChangeEvent env callingUid userId authType eventType isSilentCredChange
  | .credentialUpdated userId authType credentialCount =>
      ability.onReceiveEvent env userId authType credentialCount
  | .authSuccess userId authType isWidgetAuth =>
      ability.enterStrongAuth env (.authSuccess userId authType isWidgetAuth)
  | .credentialInfo userId result infoList =>
      ability.enterStrongAuth env (.credentialInfo userId result infoList)
  | .timerFired userId => ability.enterStrongAuth env (.timerFired userId)
  | .destroyAllStrongAuthTimer => ability.enterStrongAuth env .destroyAllStrongAuthTimer
  | .remoteDied remote =>
      { ability with innerListeners := ability.innerListeners.onRemoteDied remote }

/-- The state an entry starts in: nothing has been sent yet. -/
def readied : ScreenLockSystemAbility :=
  { ability with sent := [] }

def enter : ServiceEvent → ScreenLockSystemAbility
  | .call env caller request => (ability.handle env caller request).2
  | .notify env notification => ability.onNotification env notification
  | .runLockTask reportedAt =>
      { ability with waiting := ability.waiting.runLockTask ability.clock reportedAt }
  | .runUnlockTask reportedAt =>
      { ability with
        waiting := ability.waiting.runUnlockTask ability.clock ability.isScreenlockedMap
          reportedAt }

def step (event : ServiceEvent) : ScreenLockSystemAbility :=
  { ability.readied.enter event with clock := ability.clock + 1 }

/-- Only submitted tasks run, and only submitted queries are answered. -/
def machine : Machine ScreenLockSystemAbility ServiceEvent where
  enabled ability event := match event with
    | .call .. => True
    | .notify _ (.credentialInfo userId _ _) => userId ∈ ability.strongAuth.queries
    | .notify .. => True
    | .runLockTask reportedAt =>
        ∃ stateResult, (reportedAt, stateResult) ∈ ability.waiting.lockTasks
    | .runUnlockTask reportedAt => ∃ result, (reportedAt, result) ∈ ability.waiting.unlockTasks
  step := step

end ScreenLockSystemAbility

end Screenlock
