import Screenlock.Client.Ipc
import Screenlock.Foundation.Parcel

/-! # The interface of the service

`ScreenLockManagerInterface`, which the proxy, the stub and the service
implement: a method with its arguments is a call, and its result is an answer.
This is the build without the watch application lock.
-/

namespace Screenlock

open Foundation

/-- `ScreenLockServerIpcInterfaceCode`. -/
inductive ScreenLockServerIpcInterfaceCode where
  | isScreenLocked
  | isSecureMode
  | unlockScreen
  | onSystemEvent
  | lock
  | sendScreenLockEvent
  | isLocked
  | unlock
  | lockScreen
  | isScreenLockDisabled
  | setScreenLockDisabled
  | setScreenLockAuthState
  | getScreenLockAuthState
  | requestStrongAuthState
  | getStrongAuthState
  | isDeviceLocked
  | registerInnerListener
  | unregisterInnerListener
  | isUserScreenLocked
  | setUnlockPolicy
  | getUnlockPolicy
  deriving DecidableEq, Repr

/-- The number of a code: the enumeration starts at 0. -/
def ScreenLockServerIpcInterfaceCode.value (code : ScreenLockServerIpcInterfaceCode) : Nat :=
  code.ctorIdx

/-- The interface descriptor, which a request starts with. -/
def getDescriptor : String := "ohos.screenlock.ScreenLockManagerInterface"

/-- What a method hands back. -/
inductive ReplyKind where
  | status
  | flag
  | statusAndFlag
  | statusAndNumber
  deriving DecidableEq, Repr

/-- The return value, with the out-parameter where there is one: none when the
method leaves it alone. -/
abbrev ReplyKind.Answer : ReplyKind → Type
  | status => Int
  | flag => Bool
  | statusAndFlag => Int × Option Bool
  | statusAndNumber => Int × Option Int

/-- A method of `ScreenLockManagerInterface` with its arguments. The two
overloads of `Lock` are told apart by name. -/
inductive ManagerCall (Listener : Type) : ReplyKind → Type where
  | isLocked : ManagerCall Listener .statusAndFlag
  | isScreenLocked : ManagerCall Listener .flag
  | getSecure : ManagerCall Listener .flag
  | unlock (listener : Listener) : ManagerCall Listener .status
  | unlockScreen (listener : Listener) : ManagerCall Listener .status
  | lock (listener : Listener) : ManagerCall Listener .status
  | lockUser (userId : UserId) : ManagerCall Listener .status
  | onSystemEvent (listener : Listener) : ManagerCall Listener .status
  | sendScreenLockEvent (event : String) (param : Int) : ManagerCall Listener .status
  | isScreenLockDisabled (userId : UserId) : ManagerCall Listener .statusAndFlag
  | setScreenLockDisabled (disable : Bool) (userId : UserId) : ManagerCall Listener .status
  | setScreenLockAuthState (authState : Int) (userId : UserId) (authToken : String) :
      ManagerCall Listener .status
  | getScreenLockAuthState (userId : UserId) : ManagerCall Listener .statusAndNumber
  | requestStrongAuth (reasonFlag : Int) (userId : UserId) : ManagerCall Listener .status
  | getStrongAuth (userId : UserId) : ManagerCall Listener .statusAndNumber
  | isDeviceLocked (userId : UserId) : ManagerCall Listener .statusAndFlag
  | isLockedWithUserId (userId : UserId) : ManagerCall Listener .statusAndFlag
  | registerInnerListener (userId : UserId) (listenType : ListenType) (listener : Listener) :
      ManagerCall Listener .status
  | unRegisterInnerListener (userId : UserId) (listenType : ListenType) (listener : Listener) :
      ManagerCall Listener .status
  | setUnlockPolicy (userId : UserId) (policy : Int) : ManagerCall Listener .status
  | getUnlockPolicy (userId : UserId) : ManagerCall Listener .statusAndNumber

/-- The events whose parameter the stub reads. -/
def carriesParam (event : String) : Bool :=
  event = unlockScreenResult || event = lockScreenResult || event = screenDrawdone

namespace ManagerCall

variable {Listener Other : Type} {kind : ReplyKind}

/-- The call with its listener replaced. -/
def map (replace : Listener → Other) : ManagerCall Listener kind → ManagerCall Other kind
  | isLocked => isLocked
  | isScreenLocked => isScreenLocked
  | getSecure => getSecure
  | unlock listener => unlock (replace listener)
  | unlockScreen listener => unlockScreen (replace listener)
  | lock listener => lock (replace listener)
  | lockUser userId => lockUser userId
  | onSystemEvent listener => onSystemEvent (replace listener)
  | sendScreenLockEvent event param => sendScreenLockEvent event param
  | isScreenLockDisabled userId => isScreenLockDisabled userId
  | setScreenLockDisabled disable userId => setScreenLockDisabled disable userId
  | setScreenLockAuthState authState userId authToken =>
      setScreenLockAuthState authState userId authToken
  | getScreenLockAuthState userId => getScreenLockAuthState userId
  | requestStrongAuth reasonFlag userId => requestStrongAuth reasonFlag userId
  | getStrongAuth userId => getStrongAuth userId
  | isDeviceLocked userId => isDeviceLocked userId
  | isLockedWithUserId userId => isLockedWithUserId userId
  | registerInnerListener userId listenType listener =>
      registerInnerListener userId listenType (replace listener)
  | unRegisterInnerListener userId listenType listener =>
      unRegisterInnerListener userId listenType (replace listener)
  | setUnlockPolicy userId policy => setUnlockPolicy userId policy
  | getUnlockPolicy userId => getUnlockPolicy userId

/-- The listener a call passes. -/
def listener? : ManagerCall Listener kind → Option Listener
  | unlock listener | unlockScreen listener | lock listener | onSystemEvent listener
  | registerInnerListener _ _ listener | unRegisterInnerListener _ _ listener => some listener
  | _ => none

end ManagerCall

/-- A listener object of a caller, with the remote object it stands for. -/
structure ListenerObject where
  asObject : Option RemoteObject
  deriving DecidableEq, Repr

/-- A listener as a caller passes it: possibly null. -/
abbrev ListenerPointer := Option ListenerObject

def ListenerPointer.of (object : RemoteObject) : ListenerPointer := some ⟨some object⟩

/-- An implementation of the interface behind the stub. The listeners it is
called with were cast from remote objects. -/
structure ManagerService (σ : Type) where
  invoke {kind : ReplyKind} (call : ManagerCall RemoteObject kind) (state : σ) : kind.Answer × σ

/-- A call of any method. -/
abbrev AnyManagerCall := Σ kind : ReplyKind, ManagerCall RemoteObject kind

/-- The service with a list of the calls it has been given. -/
def ManagerService.recorded {σ : Type} (service : ManagerService σ) :
    ManagerService (List AnyManagerCall × σ) where
  invoke {kind} call state :=
    let (answer, after) := service.invoke call state.2
    (answer, (state.1 ++ [⟨kind, call⟩], after))

end Screenlock
