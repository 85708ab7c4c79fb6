import Screenlock.Platform

/-! # The strong-authentication manager

`StrongAuthManger` keeps, for each account, the reason why a strong
authentication is required and the timer that will require the next one. The
time service's live timers, the credential queries not yet answered and the
changes handed out for notification are part of the state. Each function below
runs to its end; the mutex sections inside are separated elsewhere.
-/

namespace Screenlock

def credChangeFirstStrongAuthTimeoutMs : Int := 60 * 60 * 1000
def credChangeSecondStrongAuthTimeoutMs : Int := 3 * 60 * 60 * 1000
def credChangeThirdStrongAuthTimeoutMs : Int := 8 * 60 * 60 * 1000
def credChangeFourthStrongAuthTimeoutMs : Int := 24 * 60 * 60 * 1000
def defaultStrongAuthTimeoutMs : Int := 3 * 24 * 60 * 60 * 1000

/-- The stages of `GetStrongAuthTriggerPeriod`, each with its successor. -/
def periodStages : List (Int × Int) :=
  [(credChangeFirstStrongAuthTimeoutMs, credChangeSecondStrongAuthTimeoutMs),
    (credChangeSecondStrongAuthTimeoutMs, credChangeThirdStrongAuthTimeoutMs),
    (credChangeThirdStrongAuthTimeoutMs, credChangeFourthStrongAuthTimeoutMs),
    (credChangeFourthStrongAuthTimeoutMs, defaultStrongAuthTimeoutMs)]

structure TimerInfo where
  timerId : TimerId := 0
  triggerPeriod : Int := defaultStrongAuthTimeoutMs
  credChangeTimerStamp : Int := -1
  deriving DecidableEq, Repr

/-- The stage after one successful authentication seen at `currentTime`. -/
def TimerInfo.advance (info : TimerInfo) (currentTime : Int) : TimerInfo :=
  match periodStages.lookup info.triggerPeriod with
  | none => info
  | some next =>
      if currentTime - info.credChangeTimerStamp > info.triggerPeriod then
        { info with triggerPeriod := next, credChangeTimerStamp := currentTime }
      else info

/-- When a started timer fires. The period the starter added to the boot time
it had read is kept beside the sum. -/
structure ArmedAt where
  trigger : Int
  period : Int
  deriving DecidableEq, Repr

/-- A live timer of the time service, carrying the account it was created for. -/
structure AuthTimer where
  userId : UserId
  armed : Option ArmedAt := none
  deriving DecidableEq, Repr

structure StrongAuthManger where
  strongAuthStateInfo : Std.TreeMap UserId Int
  strongAuthTimerInfo : Std.TreeMap UserId TimerInfo
  timers : Std.TreeMap TimerId AuthTimer
  /-- Accounts whose credential query was submitted and not answered yet. -/
  queries : List UserId
  /-- Changes announced since the state was last collected. -/
  changes : List (UserId × Int)

namespace StrongAuthManger

def empty : StrongAuthManger := ⟨∅, ∅, ∅, [], []⟩

section TimeService

/-- `CreateTimer` returned `created`; 0 means that it failed. -/
def createTimer (created : TimerId) (userId : UserId) (manager : StrongAuthManger) :
    StrongAuthManger :=
  if created = 0 then manager
  else { manager with timers := manager.timers.insert created { userId := userId } }

def startTimer (timerId : TimerId) (currentTime triggerPeriod : Int)
    (manager : StrongAuthManger) : StrongAuthManger :=
  match manager.timers[timerId]? with
  | none => manager
  | some timer =>
      { manager with
        timers := manager.timers.insert timerId
          { timer with armed := some ⟨currentTime + triggerPeriod, triggerPeriod⟩ } }

def stopTimer (timerId : TimerId) (manager : StrongAuthManger) : StrongAuthManger :=
  match manager.timers[timerId]? with
  | none => manager
  | some timer =>
      { manager with timers := manager.timers.insert timerId { timer with armed := none } }

def destroyTimer (timerId : TimerId) (manager : StrongAuthManger) : StrongAuthManger :=
  { manager with timers := manager.timers.erase timerId }

end TimeService

section Flags

/-- `NotifyStrongAuthChange`: no requirement is announced only to a verified account. -/
def notifyStrongAuthChange (env : Environment) (userId : UserId) (reasonFlag : Int)
    (manager : StrongAuthManger) : StrongAuthManger :=
  if reasonFlag = StrongAuthReasonFlags.none then
    if env.isOsAccountUnlocked userId then
      { manager with changes := manager.changes ++ [(userId, reasonFlag)] }
    else manager
  else { manager with changes := manager.changes ++ [(userId, reasonFlag)] }

/-- The write both `SetStrongAuthStat` and `InitStrongAuthStat` make. -/
def storeFlag (userId : UserId) (reasonFlag : Int) (manager : StrongAuthManger) :
    StrongAuthManger :=
  { manager with
    strongAuthStateInfo := manager.strongAuthStateInfo.insert userId reasonFlag }

def setStrongAuthStat (env : Environment) (userId : UserId) (reasonFlag : Int)
    (manager : StrongAuthManger) : StrongAuthManger :=
  match manager.strongAuthStateInfo[userId]? with
  | none => (manager.storeFlag userId reasonFlag).notifyStrongAuthChange env userId reasonFlag
  | some oldFlag =>
      -- the requirement after boot gives way to nothing but its fulfilment
      if oldFlag = StrongAuthReasonFlags.afterBoot ∧ reasonFlag ≠ StrongAuthReasonFlags.none then
        manager
      else
        (manager.storeFlag userId reasonFlag).notifyStrongAuthChange env userId reasonFlag

def getStrongAuthStat (env : Environment) (userId : UserId) (manager : StrongAuthManger) : Int :=
  if env.isOsAccountUnlocked userId then
    (manager.strongAuthStateInfo[userId]?).getD StrongAuthReasonFlags.afterBoot
  else StrongAuthReasonFlags.afterBoot

def accountUnlocked (env : Environment) (userId : UserId) (manager : StrongAuthManger) :
    StrongAuthManger :=
  manager.notifyStrongAuthChange env userId StrongAuthReasonFlags.none

def destroyStrongAuthStateInfo (userId : UserId) (manager : StrongAuthManger) :
    StrongAuthManger :=
  { manager with strongAuthStateInfo := manager.strongAuthStateInfo.erase userId }

def initStrongAuthStat (env : Environment) (userId : UserId) (reasonFlag : Int)
    (manager : StrongAuthManger) : StrongAuthManger :=
  match manager.strongAuthStateInfo[userId]? with
  | none => (manager.storeFlag userId reasonFlag).notifyStrongAuthChange env userId reasonFlag
  | some _ => manager

def isUserExitInStrongAuthInfo (userId : UserId) (manager : StrongAuthManger) : Bool :=
  (manager.strongAuthStateInfo[userId]?).isSome

end Flags

section Timers

def getTimerId (userId : UserId) (manager : StrongAuthManger) : TimerId :=
  ((manager.strongAuthTimerInfo[userId]?).map TimerInfo.timerId).getD 0

/-- `StartStrongAuthTimer`. The record is inserted as `std::map::insert` does,
so an existing one, whose timer could not be created, stays. -/
def startStrongAuthTimer (created : TimerId) (currentTime : Int) (userId : UserId)
    (triggerPeriod : Int) (manager : StrongAuthManger) : StrongAuthManger :=
  if manager.getTimerId userId ≠ 0 then manager
  else
    let started := (manager.createTimer created userId).startTimer created currentTime triggerPeriod
    { started with
      strongAuthTimerInfo := started.strongAuthTimerInfo.insertIfNew userId
        ⟨created, triggerPeriod, currentTime⟩ }

def setCredChangeTriggerPeriod (currentTime : Int) (userId : UserId) (triggerPeriod : Int)
    (manager : StrongAuthManger) : StrongAuthManger :=
  match manager.strongAuthTimerInfo[userId]? with
  | none => manager
  | some info =>
      { manager with
        strongAuthTimerInfo := manager.strongAuthTimerInfo.insert userId
          { info with triggerPeriod := triggerPeriod, credChangeTimerStamp := currentTime } }

/-- `ResetStrongAuthTimer`; the two times are its successive boot-time reads. -/
def resetStrongAuthTimer (created : TimerId) (currentTime laterTime : Int) (userId : UserId)
    (triggerPeriod : Int) (manager : StrongAuthManger) : StrongAuthManger :=
  let timerId := manager.getTimerId userId
  if timerId = 0 then
    manager.startStrongAuthTimer created currentTime userId triggerPeriod
  else
    ((manager.stopTimer timerId).startTimer timerId currentTime
      triggerPeriod).setCredChangeTriggerPeriod laterTime userId triggerPeriod

def getStrongAuthTriggerPeriod (currentTime : Int) (userId : UserId)
    (manager : StrongAuthManger) : Int × StrongAuthManger :=
  match manager.strongAuthTimerInfo[userId]? with
  | none => (defaultStrongAuthTimeoutMs, manager)
  | some info =>
      let advanced := info.advance currentTime
      (advanced.triggerPeriod,
        { manager with
          strongAuthTimerInfo := manager.strongAuthTimerInfo.insert userId advanced })

def destroyStrongAuthTimer (userId : UserId) (manager : StrongAuthManger) : StrongAuthManger :=
  let timerId := manager.getTimerId userId
  if timerId = 0 then manager
  else
    let destroyed := (manager.stopTimer timerId).destroyTimer timerId
    { destroyed with strongAuthTimerInfo := destroyed.strongAuthTimerInfo.erase userId }

/-- The loop of `DestroyAllStrongAuthTimer` does for each record what
`DestroyStrongAuthTimer` does for one. -/
def destroyAllStrongAuthTimer (manager : StrongAuthManger) : StrongAuthManger :=
  manager.strongAuthTimerInfo.keys.foldl
    (fun current userId => current.destroyStrongAuthTimer userId) manager

/-- The conversion of a 64-bit period to the `int32_t` it is returned as. -/
def narrow (value : Int) : Int := value.bmod (2 ^ 32)

def getStrongAuthTimeTrigger (userId : UserId) (manager : StrongAuthManger) : Int :=
  match manager.strongAuthTimerInfo[userId]? with
  | none => 0
  | some info => narrow info.triggerPeriod

end Timers

section Handlers

/-- The flag a firing timer requests. -/
def timeoutReason (triggerPeriod : Int) : Int :=
  if triggerPeriod > 0 ∧ triggerPeriod < defaultStrongAuthTimeoutMs then
    StrongAuthReasonFlags.afterCredentialChanged
  else StrongAuthReasonFlags.afterTimeout

def strongAuthTimerCallback (env : Environment) (userId : UserId) (manager : StrongAuthManger) :
    StrongAuthManger :=
  manager.setStrongAuthStat env userId (timeoutReason (manager.getStrongAuthTimeTrigger userId))

/-- `AuthEventListenerService::OnNotifyAuthSuccessEvent`. -/
def onNotifyAuthSuccessEvent (env : Environment) (userId : UserId) (authType : AuthType)
    (isWidgetAuth : Bool) (manager : StrongAuthManger) : StrongAuthManger :=
  if authType = .pin ∧ isWidgetAuth = false then
    let cleared := manager.setStrongAuthStat env userId StrongAuthReasonFlags.none
    let (triggerPeriod, advanced) := cleared.getStrongAuthTriggerPeriod (env.bootTimeMs 0) userId
    advanced.resetStrongAuthTimer env.createdTimer (env.bootTimeMs 1) (env.bootTimeMs 2) userId
      triggerPeriod
  else manager

def onNotifyCredChangeEvent (env : Environment) (userId : UserId) (authType : AuthType)
    (eventType : CredChangeEventType) (isSilentCredChange : Bool) (manager : StrongAuthManger) :
    StrongAuthManger :=
  if env.deviceType = "2in1" then manager
  else if authType = .pin ∧ manager.isUserExitInStrongAuthInfo userId then
    if eventType = .addCred ∨ (eventType = .updateCred ∧ isSilentCredChange = false) then
      manager.resetStrongAuthTimer env.createdTimer (env.bootTimeMs 0) (env.bootTimeMs 1) userId
        credChangeFirstStrongAuthTimeoutMs
    else if eventType = .delUser then
      (manager.setStrongAuthStat env userId
        StrongAuthReasonFlags.none).destroyStrongAuthTimer userId
    else if eventType = .enforceDelUser then
      (manager.destroyStrongAuthStateInfo userId).destroyStrongAuthTimer userId
    else manager
  else manager

/-- `GetCredInfo` queries the credentials of an unknown account only. -/
def getCredInfo (env : Environment) (userId : UserId) (manager : StrongAuthManger) :
    Bool × StrongAuthManger :=
  if manager.isUserExitInStrongAuthInfo userId then (true, manager)
  else if env.credentialInfo = .success then
    (true, { manager with queries := manager.queries ++ [userId] })
  else (false, manager)

/-- `StrongAuthGetSecurity::OnCredentialInfo`. -/
def onCredentialInfo (env : Environment) (userId : UserId) (result : ResultCode)
    (infoList : List CredentialInfo) (manager : StrongAuthManger) : StrongAuthManger :=
  if infoList.length > 0 ∨ (result ≠ .success ∧ result ≠ .notEnrolled) then
    (manager.initStrongAuthStat env userId StrongAuthReasonFlags.afterBoot).startStrongAuthTimer
      env.createdTimer (env.bootTimeMs 0) userId defaultStrongAuthTimeoutMs
  else manager.initStrongAuthStat env userId StrongAuthReasonFlags.none

end Handlers

end StrongAuthManger

/-- The entries into the manager. -/
inductive StrongAuthEvent where
  | setStrongAuthStat (userId : UserId) (reasonFlag : Int)
  | accountUnlocked (userId : UserId)
  | getCredInfo (userId : UserId)
  | credentialInfo (userId : UserId) (result : ResultCode) (infoList : List CredentialInfo)
  | authSuccess (userId : UserId) (authType : AuthType) (isWidgetAuth : Bool)
  | credChange (userId : UserId) (authType : AuthType) (eventType : CredChangeEventType)
      (isSilentCredChange : Bool)
  | timerFired (userId : UserId)
  | destroyAllStrongAuthTimer
  deriving DecidableEq, Repr

namespace StrongAuthManger

/-- One entry. The answer to a credential query takes the query off the list. -/
def enter (env : Environment) (manager : StrongAuthManger) : StrongAuthEvent → StrongAuthManger
  | .setStrongAuthStat userId reasonFlag => manager.setStrongAuthStat env userId reasonFlag
  | .accountUnlocked userId => manager.accountUnlocked env userId
  | .getCredInfo userId => (manager.getCredInfo env userId).2
  | .credentialInfo userId result infoList =>
      { manager with queries := manager.queries.erase userId }.onCredentialInfo env userId result
        infoList
  | .authSuccess userId authType isWidgetAuth =>
      manager.onNotifyAuthSuccessEvent env userId authType isWidgetAuth
  | .credChange userId authType eventType isSilentCredChange =>
      manager.onNotifyCredChangeEvent env userId authType eventType isSilentCredChange
  | .timerFired userId => manager.strongAuthTimerCallback env userId
  | .destroyAllStrongAuthTimer => manager.destroyAllStrongAuthTimer

end StrongAuthManger

end Screenlock
