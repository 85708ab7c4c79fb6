import Mathlib.Logic.Function.Basic
import Screenlock.Client.Ipc
import Screenlock.InnerListener.Coherence

/-! # The listeners of a client

The client's `ScreenLockManager` wraps each listener in an object of its own,
registers the wrapper with the service and keeps it in a map. The service runs
in another process; its state is kept beside the client's, and so is the list of
the wrappers made so far. A listener is of one of two classes, which fixes the
listen type of its calls; a null listener is refused before anything happens.
-/

namespace Screenlock

open Foundation

inductive ListenerClass where
  | strongAuthListener
  | deviceLockedListener
  deriving DecidableEq, Repr

/-- A listener of the application; the account is fixed when it is made. -/
structure ClientListener where
  address : Nat
  listenerClass : ListenerClass
  userId : UserId
  deriving DecidableEq, Repr

def ClientListener.listenType (listener : ClientListener) : ListenType :=
  match listener.listenerClass with
  | .strongAuthListener => ListenType.strongAuth
  | .deviceLockedListener => ListenType.deviceLock

/-- One call of the application: the way to the service, and what the service
meets if the call gets there. -/
structure ClientCall where
  passage : Passage
  makesWrapper : Bool
  env : Environment
  caller : Caller
  /-- Address of the object the service casts the remote object to. -/
  address : Nat
  /-- Whether the wrapper takes the service's death recipient. -/
  attaches : Bool

/-- A call of a caller on a way without a failure. -/
def ClientCall.ofCaller (caller : Caller) : ClientCall :=
  ⟨.clear, true, .single 100, caller, 1, true⟩

structure ClientManager where
  /-- Whether `screenlockManagerProxy_` is not null. -/
  screenlockManagerProxy : Bool
  innerListenerWrapperMap : ClientListener → Option RemoteObject
  /-- The wrappers made so far, each with its `listener_`. -/
  wrappers : List (RemoteObject × ClientListener)
  nextWrapper : RemoteObject
  service : ScreenLockSystemAbility

namespace ClientManager

variable (offset : ErrOffset) (call : ClientCall) (listener : ClientListener)
  (manager : ClientManager)

/-- `GetProxy`. -/
def getProxy : Bool × ClientManager :=
  if manager.screenlockManagerProxy then (true, manager)
  else (call.passage.findsProxy,
    { manager with screenlockManagerProxy := call.passage.findsProxy })

/-- `new InnerListenerWrapper(listener)`. -/
def makeWrapper : ClientManager :=
  { manager with
    wrappers := manager.wrappers ++ [(manager.nextWrapper, listener)]
    nextWrapper := manager.nextWrapper + 1 }

/-- `RegisterInnerListener` of the proxy, for a wrapper. -/
def registerWithService (wrapper : RemoteObject) (service : ScreenLockSystemAbility) :
    Int × ScreenLockSystemAbility :=
  call.passage.sendRequest offset
    (fun ability => ability.registerInnerListener call.env call.caller call.attaches
      listener.userId listener.listenType (some ⟨call.address, some wrapper⟩)) service

def unRegisterWithService (wrapper : RemoteObject) (service : ScreenLockSystemAbility) :
    Int × ScreenLockSystemAbility :=
  call.passage.sendRequest offset
    (fun ability => ability.unRegisterInnerListener call.caller listener.userId
      listener.listenType (some ⟨call.address, some wrapper⟩)) service

def registerListenerInner : Int × ClientManager :=
  let (found, asked) := manager.getProxy call
  if found = false then (ScreenLockError.nullptr.toInt offset, asked)
  else if call.makesWrapper = false then (ScreenLockError.nullptr.toInt offset, asked)
  else
    let wrapper := asked.nextWrapper
    let made := asked.makeWrapper listener
    match made.innerListenerWrapperMap listener with
    | some _ => (ScreenLockError.parametersInvalid.toInt offset, made)
    | none =>
        let (status, service) := registerWithService offset call listener wrapper made.service
        (status, { made with
          innerListenerWrapperMap :=
            Function.update made.innerListenerWrapperMap listener (some wrapper)
          service := service })

def unRegisterListenerInner : Int × ClientManager :=
  let (found, asked) := manager.getProxy call
  if found = false then (ScreenLockError.nullptr.toInt offset, asked)
  else
    match asked.innerListenerWrapperMap listener with
    | none => (ScreenLockError.nullptr.toInt offset, asked)
    | some wrapper =>
        let (status, service) := unRegisterWithService offset call listener wrapper asked.service
        -- the wrapper is dropped whatever the service has answered
        (status, { asked with
          innerListenerWrapperMap := Function.update asked.innerListenerWrapperMap listener none
          service := service })

end ClientManager

/-- The calls of the application about its listeners. -/
inductive ListenerCall where
  | register (call : ClientCall) (listener : ClientListener)
  | unRegister (call : ClientCall) (listener : ClientListener)

namespace ClientManager

def perform (offset : ErrOffset) (manager : ClientManager) : ListenerCall → Int × ClientManager
  | .register call listener => manager.registerListenerInner offset call listener
  | .unRegister call listener => manager.unRegisterListenerInner offset call listener

/-- A call can be made at any time. -/
def machine (offset : ErrOffset) : Machine ClientManager ListenerCall where
  enabled _ _ := True
  step manager event := (manager.perform offset event).2

end ClientManager

end Screenlock
