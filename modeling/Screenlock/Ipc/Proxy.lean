import Screenlock.Ipc.Interface

/-! # The proxy

`ScreenLockManagerProxy`, which writes the arguments of a call into a parcel,
sends it and reads the reply. A parcel takes every field but a null remote
object, so the checks of the other writes never fail.
-/

namespace Screenlock

open Foundation

/-- `SendRequest` of the remote object: the reply, or none when it fails. -/
abbrev Remote (σ : Type) := Nat → Parcel RemoteObject → σ → Option (Parcel RemoteObject) × σ

namespace ScreenLockManagerProxy

variable {σ : Type} {α : Type} (offset : ErrOffset) (remote : Remote σ)

/-- One exchange. The request starts with the interface token. -/
def transact (code : ScreenLockServerIpcInterfaceCode) (fields : Parcel RemoteObject) (failed : α)
    (readReply : Parcel RemoteObject → α) (state : σ) : α × σ :=
  match remote code.value (.interfaceToken getDescriptor :: fields) state with
  | (none, after) => (failed, after)
  | (some reply, after) => (readReply reply, after)

def sendRequestFailed : Int := ScreenLockError.sendRequestFailed.toInt offset

/-- A method that is answered with a code. -/
def transactStatus (code : ScreenLockServerIpcInterfaceCode) (fields : Parcel RemoteObject) :
    σ → Int × σ :=
  transact remote code fields (sendRequestFailed offset) fun reply => reply.readInt32.1

/-- A method that passes a listener on, after its other arguments. -/
def transactListener (code : ScreenLockServerIpcInterfaceCode) (fields : Parcel RemoteObject)
    (listener : ListenerPointer) (state : σ) : Int × σ :=
  match listener with
  | none => (ScreenLockError.nullptr.toInt offset, state)
  | some ⟨none⟩ => (ScreenLockError.writeParcelError.toInt offset, state)
  | some ⟨some object⟩ =>
      transactStatus offset remote code (fields ++ [.remoteObject object]) state

section Queries

/-- The out-parameter is read after a success only. -/
def readOnSuccess (reply : Parcel RemoteObject) : Int × Option Bool :=
  let (retCode, rest) := reply.readInt32
  if retCode ≠ ScreenLockError.ok.toInt offset then (retCode, none)
  else (retCode, some rest.readBool.1)

def readFlag (reply : Parcel RemoteObject) : Int × Option Bool :=
  let (retCode, rest) := reply.readInt32
  (retCode, some rest.readBool.1)

def readNumber (reply : Parcel RemoteObject) : Int × Option Int :=
  let (retCode, rest) := reply.readInt32
  (retCode, some rest.readInt32.1)

def isLocked : σ → (Int × Option Bool) × σ :=
  transact remote .isLocked [] (sendRequestFailed offset, none) (readOnSuccess offset)

def isScreenLocked : σ → Bool × σ :=
  transact remote .isScreenLocked [] false fun reply => reply.readBool.1

def isLockedWithUserId (userId : UserId) : σ → (Int × Option Bool) × σ :=
  transact remote .isUserScreenLocked [.int32 userId] (sendRequestFailed offset, none) readFlag

def getSecure : σ → Bool × σ :=
  transact remote .isSecureMode [] false fun reply => reply.readBool.1

def isScreenLockDisabled (userId : UserId) : σ → (Int × Option Bool) × σ :=
  transact remote .isScreenLockDisabled [.int32 userId] (sendRequestFailed offset, none)
    (readOnSuccess offset)

def getScreenLockAuthState (userId : UserId) : σ → (Int × Option Int) × σ :=
  transact remote .getScreenLockAuthState [.int32 userId] (sendRequestFailed offset, none)
    readNumber

def getStrongAuth (userId : UserId) : σ → (Int × Option Int) × σ :=
  transact remote .getStrongAuthState [.int32 userId] (sendRequestFailed offset, none) readNumber

def isDeviceLocked (userId : UserId) : σ → (Int × Option Bool) × σ :=
  transact remote .isDeviceLocked [.int32 userId] (sendRequestFailed offset, none) readFlag

/-- The reads of the reply are checked: without a code the policy is left
alone, without a policy it is 0. -/
def getUnlockPolicy (userId : UserId) : σ → (Int × Option Int) × σ :=
  transact remote .getUnlockPolicy [.int32 userId] (sendRequestFailed offset, none) fun reply =>
    match reply.readInt32? with
    | (none, _) => (ScreenLockError.readParcelError.toInt offset, none)
    | (some retCode, rest) => (retCode, some (rest.readInt32?.1.getD 0))

end Queries

section Commands

def unlock (listener : ListenerPointer) : σ → Int × σ :=
  transactListener offset remote .unlock [] listener

def unlockScreen (listener : ListenerPointer) : σ → Int × σ :=
  transactListener offset remote .unlockScreen [] listener

def lock (listener : ListenerPointer) : σ → Int × σ :=
  transactListener offset remote .lock [] listener

def lockUser (userId : UserId) : σ → Int × σ :=
  transactStatus offset remote .lockScreen [.int32 userId]

def onSystemEvent (listener : ListenerPointer) : σ → Int × σ :=
  transactListener offset remote .onSystemEvent [] listener

def sendScreenLockEvent (event : String) (param : Int) : σ → Int × σ :=
  transactStatus offset remote .sendScreenLockEvent [.string event, .int32 param]

def setScreenLockDisabled (disable : Bool) (userId : UserId) : σ → Int × σ :=
  transactStatus offset remote .setScreenLockDisabled [.bool disable, .int32 userId]

def setScreenLockAuthState (authState : Int) (userId : UserId) (authToken : String) :
    σ → Int × σ :=
  transactStatus offset remote .setScreenLockAuthState
    [.int32 authState, .int32 userId, .string authToken]

def requestStrongAuth (reasonFlag : Int) (userId : UserId) : σ → Int × σ :=
  transactStatus offset remote .requestStrongAuthState [.int32 reasonFlag, .int32 userId]

def registerInnerListener (userId : UserId) (listenType : ListenType)
    (listener : ListenerPointer) : σ → Int × σ :=
  transactListener offset remote .registerInnerListener [.int32 userId, .int32 listenType] listener

def unRegisterInnerListener (userId : UserId) (listenType : ListenType)
    (listener : ListenerPointer) : σ → Int × σ :=
  transactListener offset remote .unregisterInnerListener [.int32 userId, .int32 listenType]
    listener

/-- The code is read with a check. -/
def setUnlockPolicy (userId : UserId) (policy : Int) : σ → Int × σ :=
  transact remote .setUnlockPolicy [.int32 userId, .int32 policy] (sendRequestFailed offset)
    fun reply => reply.readInt32?.1.getD (ScreenLockError.readParcelError.toInt offset)

end Commands

/-- The method of a call. -/
def invoke {kind : ReplyKind} : ManagerCall ListenerPointer kind → σ → kind.Answer × σ
  | .isLocked => isLocked offset remote
  | .isScreenLocked => isScreenLocked remote
  | .getSecure => getSecure remote
  | .unlock listener => unlock offset remote listener
  | .unlockScreen listener => unlockScreen offset remote listener
  | .lock listener => lock offset remote listener
  | .lockUser userId => lockUser offset remote userId
  | .onSystemEvent listener => onSystemEvent offset remote listener
  | .sendScreenLockEvent event param => sendScreenLockEvent offset remote event param
  | .isScreenLockDisabled userId => isScreenLockDisabled offset remote userId
  | .setScreenLockDisabled disable userId => setScreenLockDisabled offset remote disable userId
  | .setScreenLockAuthState authState userId authToken =>
      setScreenLockAuthState offset remote authState userId authToken
  | .getScreenLockAuthState userId => getScreenLockAuthState offset remote userId
  | .requestStrongAuth reasonFlag userId => requestStrongAuth offset remote reasonFlag userId
  | .getStrongAuth userId => getStrongAuth offset remote userId
  | .isDeviceLocked userId => isDeviceLocked offset remote userId
  | .isLockedWithUserId userId => isLockedWithUserId offset remote userId
  | .registerInnerListener userId listenType listener =>
      registerInnerListener offset remote userId listenType listener
  | .unRegisterInnerListener userId listenType listener =>
      unRegisterInnerListener offset remote userId listenType listener
  | .setUnlockPolicy userId policy => setUnlockPolicy offset remote userId policy
  | .getUnlockPolicy userId => getUnlockPolicy offset remote userId

/-- A remote that keeps the last request and fails it. -/
def capture : Remote (Option (Nat × Parcel RemoteObject)) :=
  fun code data _ => (none, some (code, data))

/-- The request the proxy sends for a call, if it sends one. -/
def written {kind : ReplyKind} (call : ManagerCall ListenerPointer kind) :
    Option (Nat × Parcel RemoteObject) :=
  (invoke offset capture call none).2

end ScreenLockManagerProxy

end Screenlock
