import Screenlock.Foundation.Locking
import Screenlock.Ipc.Interface

/-! # What the program locks

Every function of the service and of the client library that takes a mutex, as the
locks it takes and the tables it reads or writes under them. The mutexes of the watch
build are left out. A call of another process that is waited for is part of the code of
its caller. What the functions compute is in the model of the ability.
-/

namespace Screenlock.Locking

open Foundation

/-- The mutexes of the service. -/
inductive ServiceMutex where
  | rwMutex
  | instanceLock
  | runningStateMutex
  | queueLock
  | accountSubscriberMutex
  | listenerMutex
  | unlockListenerMutex
  | lockListenerMutex
  | authStateMutex
  | screenLockMutex
  | strongAuthInstanceLock
  | strongAuthTimerMutex
  | innerListenerInstanceLock
  | innerListenerMutex
  | commeventLock
  | dumpLock
  deriving DecidableEq, Repr

/-- The mutexes of a process that uses the client library. -/
inductive ClientMutex where
  | instanceLock
  | listenerLock
  | managerProxyLock
  | listenerWrapperMapMutex
  | eventHandlerMutex
  deriving DecidableEq, Repr

inductive Mutex where
  | service (mutex : ServiceMutex)
  | client (process : Nat) (mutex : ClientMutex)
  deriving DecidableEq, Repr

/-- The members that are read and written under one mutex wherever they are used. -/
inductive ServiceTable where
  | state
  | queue
  | accountSubscribers
  | systemEventListener
  | unlockVecListeners
  | lockVecListeners
  | authStateInfo
  | isScreenlockedMap
  | credChangeListener
  | authSuccessListener
  | strongAuthStateInfo
  | strongAuthTimerInfo
  | innerListenMap
  | deathRecipientMap
  | subscriber
  deriving DecidableEq, Repr

inductive ClientTable where
  | screenlockManagerProxy
  | innerListenerWrapperMap
  deriving DecidableEq, Repr

inductive Table where
  | service (table : ServiceTable)
  | client (process : Nat) (table : ClientTable)
  deriving DecidableEq, Repr

def ServiceTable.guard : ServiceTable → ServiceMutex
  | state => .runningStateMutex
  | queue => .queueLock
  | accountSubscribers => .accountSubscriberMutex
  | systemEventListener => .listenerMutex
  | unlockVecListeners => .unlockListenerMutex
  | lockVecListeners => .lockListenerMutex
  | authStateInfo => .authStateMutex
  | isScreenlockedMap => .screenLockMutex
  | credChangeListener => .instanceLock
  | authSuccessListener => .strongAuthInstanceLock
  | strongAuthStateInfo | strongAuthTimerInfo => .strongAuthTimerMutex
  | innerListenMap | deathRecipientMap => .innerListenerMutex
  | subscriber => .commeventLock

def ClientTable.guard : ClientTable → ClientMutex
  | screenlockManagerProxy => .managerProxyLock
  | innerListenerWrapperMap => .listenerWrapperMapMutex

def ServiceMutex.rank : ServiceMutex → Nat
  | rwMutex => 1
  | runningStateMutex | queueLock | accountSubscriberMutex | unlockListenerMutex
  | lockListenerMutex | commeventLock | dumpLock => 2
  | authStateMutex | screenLockMutex | strongAuthTimerMutex | strongAuthInstanceLock => 3
  | instanceLock | innerListenerInstanceLock => 4
  | listenerMutex | innerListenerMutex => 5

/-- A caller takes its own locks before those of the service it calls. -/
def order : LockOrder Mutex Table where
  rank
    | .service mutex => mutex.rank
    | .client _ _ => 0
  recursive lock := lock = .service .innerListenerMutex
  guard
    | .service table => .service table.guard
    | .client process table => .client process table.guard

abbrev Code := LockCode Mutex Table

open LockCode

/-- `std::lock_guard` on a mutex of the service. -/
def locked (mutex : ServiceMutex) (codes : List Code) : Code :=
  guarded (.service mutex) codes

def use (table : ServiceTable) : Code := read (.service table)

def lock (mutex : ServiceMutex) : Code := step (.acquire (.service mutex) .exclusive)

def unlock (mutex : ServiceMutex) : Code := step (.release (.service mutex) .exclusive)

/-- A part of a function that may be passed over. -/
def optional (codes : List Code) : Code := either skip (block codes)

section Instances

/-- `ScreenLockManagerStub::ScreenLockManagerStub`, the base of a new ability. -/
def screenLockManagerStub : Code := locked .rwMutex []

/-- `ScreenLockSystemAbility::GetInstance`. Once there is an instance, one is not
`created`. -/
def getInstance (created : Bool) : Code :=
  optional [locked .instanceLock [if created then optional [screenLockManagerStub] else skip]]

/-- `StrongAuthManger::GetInstance`. -/
def getStrongAuthManger : Code := optional [locked .strongAuthInstanceLock []]

/-- `InnerListenerManager::GetInstance`. -/
def getInnerListenerManager : Code := optional [locked .innerListenerInstanceLock []]

end Instances

section InnerListeners

/-! `InnerListenerManager`, whose functions take its recursive mutex anew. -/

def getListenerSet : Code := locked .innerListenerMutex [use .innerListenMap]

def onStateChanged : Code := locked .innerListenerMutex [getListenerSet, getListenerSet]

def addDeathRecipient : Code :=
  locked .innerListenerMutex
    [optional [use .deathRecipientMap, optional [use .deathRecipientMap]]]

def addInnerListener : Code := locked .innerListenerMutex [use .innerListenMap]

def registerInnerListener : Code :=
  locked .innerListenerMutex [optional [addDeathRecipient, optional [addInnerListener]]]

def removeDeathRecipient : Code :=
  locked .innerListenerMutex
    [optional [use .deathRecipientMap, optional [use .deathRecipientMap]]]

def removeInnerListener : Code :=
  locked .innerListenerMutex [use .innerListenMap, rounds (use .innerListenMap)]

def unRegisterInnerListener : Code :=
  locked .innerListenerMutex [optional [removeDeathRecipient, optional [removeInnerListener]]]

def getDeathRecipient : Code := locked .innerListenerMutex [use .deathRecipientMap]

/-- `InnerListenerDeathRecipient::OnRemoteDied`. -/
def onRemoteDied : Code :=
  optional [getInnerListenerManager, getDeathRecipient,
    rounds (optional [getInnerListenerManager, unRegisterInnerListener])]

end InnerListeners

section SystemEvents

def systemEventCallBack : Code :=
  block [locked .listenerMutex [use .systemEventListener],
    optional [locked .listenerMutex [use .systemEventListener]]]

def strongAuthChanged : Code := optional [systemEventCallBack]

def preAuthStateNotify : Code := optional [systemEventCallBack]

def unlockPolicyChanged : Code := systemEventCallBack

/-- Tried again until it has told a listener, or fifty times. -/
def onSystemReady : Code := rounds (locked .listenerMutex [use .systemEventListener])

def userIamReadyCallback (created : Bool) : Code :=
  optional [getInstance created, systemEventCallBack]

/-- `getScreenLockSystemAbility`, which reads the instance under its lock. -/
def getScreenLockSystemAbility : Code := locked .instanceLock []

def onDisplayPowerEvent : Code :=
  block [getScreenLockSystemAbility, optional [systemEventCallBack]]

end SystemEvents

section StrongAuth

/-! `StrongAuthManger` and the listeners it registers. -/

variable (created : Bool)

def notifyStrongAuthChange : Code :=
  optional [getInstance created, strongAuthChanged, getInnerListenerManager, onStateChanged]

/-- A new account is announced with the lock held, a change after it is released. -/
def setStrongAuthStat : Code :=
  block [lock .strongAuthTimerMutex, use .strongAuthStateInfo,
    either
      (block [use .strongAuthStateInfo, notifyStrongAuthChange created,
        unlock .strongAuthTimerMutex])
      (either (unlock .strongAuthTimerMutex)
        (block [use .strongAuthStateInfo, unlock .strongAuthTimerMutex,
          notifyStrongAuthChange created]))]

def initStrongAuthStat : Code :=
  locked .strongAuthTimerMutex [use .strongAuthStateInfo,
    optional [use .strongAuthStateInfo, notifyStrongAuthChange created]]

def getStrongAuthStat : Code := locked .strongAuthTimerMutex [use .strongAuthStateInfo]

def isUserExitInStrongAuthInfo : Code := locked .strongAuthTimerMutex [use .strongAuthStateInfo]

def getCredInfo : Code := locked .strongAuthTimerMutex [use .strongAuthStateInfo]

def destroyStrongAuthStateInfo : Code :=
  locked .strongAuthTimerMutex [use .strongAuthStateInfo, optional [use .strongAuthStateInfo]]

def getStrongAuthTimeTrigger : Code := locked .strongAuthTimerMutex [use .strongAuthTimerInfo]

def getStrongAuthTriggerPeriod : Code := locked .strongAuthTimerMutex [use .strongAuthTimerInfo]

def setCredChangeTriggerPeriod : Code := locked .strongAuthTimerMutex [use .strongAuthTimerInfo]

def startStrongAuthTimer : Code :=
  locked .strongAuthTimerMutex [use .strongAuthTimerInfo, optional [use .strongAuthTimerInfo]]

/-- The lock is given back between the look for a timer and what is done with it. -/
def resetStrongAuthTimer : Code :=
  block [locked .strongAuthTimerMutex [use .strongAuthTimerInfo],
    either startStrongAuthTimer setCredChangeTriggerPeriod]

def destroyStrongAuthTimer : Code :=
  locked .strongAuthTimerMutex [use .strongAuthTimerInfo, optional [use .strongAuthTimerInfo]]

def destroyAllStrongAuthTimer : Code :=
  locked .strongAuthTimerMutex [use .strongAuthTimerInfo, rounds (use .strongAuthTimerInfo)]

/-- `StrongAuthManger::OnNotifyCredChangeEvent`. -/
def strongAuthCredChange : Code :=
  optional [getStrongAuthManger, isUserExitInStrongAuthInfo,
    either (optional [getStrongAuthManger, resetStrongAuthTimer])
      (either
        (block [getStrongAuthManger, setStrongAuthStat created, getStrongAuthManger,
          destroyStrongAuthTimer])
        (block [getStrongAuthManger, destroyStrongAuthStateInfo, getStrongAuthManger,
          destroyStrongAuthTimer]))]

def onNotifyAuthSuccessEvent : Code :=
  optional [getStrongAuthManger, setStrongAuthStat created, getStrongAuthManger,
    getStrongAuthTriggerPeriod, getStrongAuthManger, resetStrongAuthTimer]

def strongAuthTimerCallback : Code :=
  block [getStrongAuthManger, getStrongAuthTimeTrigger, getStrongAuthManger,
    setStrongAuthStat created]

def onCredentialInfo : Code :=
  block [getStrongAuthManger, initStrongAuthStat created,
    optional [getStrongAuthManger, startStrongAuthTimer]]

def registAuthEventListener : Code := locked .strongAuthInstanceLock [use .authSuccessListener]

def unRegistAuthEventListener : Code := locked .strongAuthInstanceLock [use .authSuccessListener]

end StrongAuth

section Ability

/-! `ScreenLockSystemAbility`. -/

variable (created : Bool)

def initServiceHandler : Code := locked .queueLock [use .queue]

def publish : Code := getInstance created

def registerDisplayPowerEventListener : Code :=
  optional [either (locked .queueLock [use .queue]) (locked .runningStateMutex [use .state])]

/-- `CommeventMgr::SubscribeEvent`. -/
def subscribeEvent : Code := locked .commeventLock [use .subscriber]

/-- `CommeventMgr::OnReceiveEvent` uses the preferences alone. -/
def onReceiveEvent : Code := skip

def unSubscribeEvent : Code := locked .commeventLock [use .subscriber]

def initUserId : Code :=
  block [locked .accountSubscriberMutex [use .accountSubscribers], subscribeEvent]

def registIamEventListener : Code := locked .instanceLock [use .credChangeListener]

def unRegistIamEventListener : Code := locked .instanceLock [use .credChangeListener]

def registerDumpCommand : Code := locked .dumpLock []

def onStart : Code :=
  block [locked .instanceLock [], locked .runningStateMutex [use .state],
    optional [initServiceHandler, publish created, optional [locked .queueLock [use .queue]],
      registerDumpCommand]]

def onAddSystemAbility : Code :=
  block [optional [locked .instanceLock [], registerDisplayPowerEventListener],
    optional [initUserId], optional [registIamEventListener],
    optional [getStrongAuthManger, registAuthEventListener]]

def onRemoveSystemAbility : Code :=
  block [optional [unRegistIamEventListener],
    optional [getStrongAuthManger, unRegistAuthEventListener]]

def onStop : Code :=
  block [locked .runningStateMutex [use .state],
    optional [locked .queueLock [use .queue], locked .instanceLock [], unRegistIamEventListener,
      getStrongAuthManger, destroyAllStrongAuthTimer,
      locked .accountSubscriberMutex [use .accountSubscribers]]]

def authStateInit : Code :=
  block [locked .authStateMutex [use .authStateInfo],
    locked .screenLockMutex [use .isScreenlockedMap]]

def onActiveUser : Code :=
  block [getStrongAuthManger, getCredInfo, getInstance created, authStateInit]

def onRemoveUser : Code :=
  block [locked .authStateMutex [use .authStateInfo],
    locked .screenLockMutex [use .isScreenlockedMap]]

def accountActive : Code := block [getInstance created, onActiveUser created]

def accountRemove : Code := block [getInstance created, onRemoveUser]

def accountUnlocked : Code := block [getStrongAuthManger, notifyStrongAuthChange created]

/-- `CredChangeListenerService::OnNotifyCredChangeEvent`. -/
def onNotifyCredChangeEvent : Code :=
  optional [optional [getInstance created], getStrongAuthManger, strongAuthCredChange created]

def setScreenlocked : Code := locked .screenLockMutex [use .isScreenlockedMap]

def isScreenLocked : Code := locked .screenLockMutex [use .isScreenlockedMap]

def notifyDisplayEvent : Code := locked .queueLock [use .queue]

def notifyUnlockListener : Code := locked .unlockListenerMutex [use .unlockVecListeners]

def unlockScreenEvent : Code :=
  either notifyUnlockListener
    (either setScreenlocked
      (block [optional [setScreenlocked, notifyDisplayEvent], optional [notifyUnlockListener]]))

def lockScreenEvent : Code :=
  block [optional [setScreenlocked], locked .lockListenerMutex [use .lockVecListeners]]

/-- The task of `NotifyUnlockListener`, with `CallbackUnlockListener` for each listener. -/
def unlockTask : Code :=
  locked .unlockListenerMutex [use .unlockVecListeners,
    rounds (optional [locked .screenLockMutex [use .isScreenlockedMap]]), use .unlockVecListeners]

/-- The task of `LockScreenEvent`. -/
def lockTask : Code := locked .lockListenerMutex [use .lockVecListeners]

def unlockInner : Code :=
  block [locked .runningStateMutex [use .state],
    optional [locked .unlockListenerMutex [use .unlockVecListeners], systemEventCallBack]]

def getSecure : Code := locked .runningStateMutex [use .state]

/-- The command `-all` of `RegisterDumpCommand`. -/
def dumpAll : Code :=
  block [locked .authStateMutex [use .authStateInfo],
    locked .screenLockMutex [use .isScreenlockedMap],
    rounds (block [getStrongAuthManger, getStrongAuthStat, getStrongAuthManger,
      getStrongAuthTimeTrigger])]

def dump : Code := optional [locked .dumpLock [optional [dumpAll]]]

/-- What the ability does for a call. -/
def call {Listener : Type} {kind : ReplyKind} : ManagerCall Listener kind → Code
  | .isLocked => optional [isScreenLocked]
  | .isScreenLocked => isScreenLocked
  | .getSecure => getSecure
  | .unlock _ => optional [unlockInner]
  | .unlockScreen _ => unlockInner
  | .lock _ =>
      optional [isScreenLocked, locked .lockListenerMutex [use .lockVecListeners],
        systemEventCallBack]
  | .lockUser _ => optional [isScreenLocked, systemEventCallBack]
  | .onSystemEvent _ =>
      optional [locked .listenerMutex [use .systemEventListener], locked .queueLock [use .queue]]
  | .sendScreenLockEvent _ _ =>
      optional [either unlockScreenEvent (either notifyDisplayEvent lockScreenEvent)]
  | .isScreenLockDisabled _ => skip
  | .setScreenLockDisabled disable _ => if disable then optional [getSecure] else skip
  | .setScreenLockAuthState _ _ _ =>
      optional [locked .authStateMutex [use .authStateInfo,
        optional [getInnerListenerManager, onStateChanged], use .authStateInfo,
        preAuthStateNotify]]
  | .getScreenLockAuthState _ => optional [locked .authStateMutex [use .authStateInfo]]
  | .requestStrongAuth _ _ => optional [getStrongAuthManger, setStrongAuthStat created]
  | .getStrongAuth _ => optional [getStrongAuthManger, getStrongAuthStat]
  | .isDeviceLocked _ => optional [locked .authStateMutex [use .authStateInfo]]
  | .isLockedWithUserId _ => optional [isScreenLocked]
  | .registerInnerListener _ _ _ => optional [getInnerListenerManager, registerInnerListener]
  | .unRegisterInnerListener _ _ _ => optional [getInnerListenerManager, unRegisterInnerListener]
  | .setUnlockPolicy _ _ =>
      optional [locked .authStateMutex [use .authStateInfo, optional [unlockPolicyChanged]]]
  | .getUnlockPolicy _ => optional [locked .authStateMutex [use .authStateInfo]]

/-- `ScreenLockManagerStub::OnRemoteRequest`: the handlers are looked up and run with the
lock held for reading. -/
def onRemoteRequest {Listener : Type} {kind : ReplyKind} (request : ManagerCall Listener kind) :
    Code :=
  optional [scope (.service .rwMutex) .shared [optional [call created request]]]

end Ability

section Client

/-! `ScreenLockManager` of the process. -/

variable (process : Nat)

def clientLocked (mutex : ClientMutex) (codes : List Code) : Code :=
  guarded (.client process mutex) codes

def useClient (table : ClientTable) : Code := read (.client process table)

/-- `ScreenLockManager::GetInstance`. -/
def getManager : Code := optional [clientLocked process .instanceLock []]

def getProxy : Code :=
  clientLocked process .managerProxyLock [useClient process .screenlockManagerProxy,
    optional [useClient process .screenlockManagerProxy]]

def onRemoteSaDied : Code :=
  clientLocked process .managerProxyLock [useClient process .screenlockManagerProxy]

def removeDeathRecipientOfSa : Code :=
  clientLocked process .managerProxyLock [useClient process .screenlockManagerProxy]

/-- `ScreenlockSystemAbilityCallback::GetEventHandler`. -/
def getEventHandler : Code := clientLocked process .eventHandlerMutex []

variable {Listener : Type} {kind : ReplyKind}

/-- A method of `ScreenLockManager`, with what the service does meanwhile. A listener is
registered and withdrawn with its map locked; `OnSystemEvent` keeps the listener first. -/
def manager (created : Bool) (request : ManagerCall Listener kind) : Code :=
  let transact := onRemoteRequest created request
  match request with
  | .registerInnerListener _ _ _ =>
      block [getProxy process, optional [getProxy process],
        optional [clientLocked process .listenerWrapperMapMutex
          [useClient process .innerListenerWrapperMap,
            optional [useClient process .innerListenerWrapperMap, transact]]]]
  | .unRegisterInnerListener _ _ _ =>
      block [getProxy process, optional [getProxy process],
        optional [clientLocked process .listenerWrapperMapMutex
          [useClient process .innerListenerWrapperMap,
            optional [transact, useClient process .innerListenerWrapperMap]]]]
  | .onSystemEvent _ =>
      block [getProxy process, optional [clientLocked process .listenerLock [], transact]]
  | _ => block [getProxy process, optional [transact]]

end Client

end Screenlock.Locking
