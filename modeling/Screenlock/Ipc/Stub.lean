import Screenlock.Ipc.Proxy

/-! # The stub

`ScreenLockManagerStub`, which reads a request, calls the service and writes the
reply. What a handler returns is dropped: a request it could not read counts as
handled, with what it wrote until then.
-/

namespace Screenlock.ScreenLockManagerStub

open Foundation

variable {σ : Type} (offset : ErrOffset) (casts : RemoteObject → Bool)
  (service : ManagerService σ)

section Replies

def replyStatus (answer : Int × σ) : Parcel RemoteObject × σ := ([.int32 answer.1], answer.2)

def replyBool (answer : Bool × σ) : Parcel RemoteObject × σ := ([.bool answer.1], answer.2)

/-- The out-parameter is written after a success only. `initial` is the value
the handler gave it. -/
def replyOnSuccess (initial : Bool) (answer : (Int × Option Bool) × σ) :
    Parcel RemoteObject × σ :=
  let ((ret, value), after) := answer
  if ret = ScreenLockError.ok.toInt offset then
    ([.int32 ret, .bool (value.getD initial)], after)
  else ([.int32 ret], after)

def replyFlag (initial : Bool) (answer : (Int × Option Bool) × σ) : Parcel RemoteObject × σ :=
  let ((ret, value), after) := answer
  ([.int32 ret, .bool (value.getD initial)], after)

def replyNumber (initial : Int) (answer : (Int × Option Int) × σ) : Parcel RemoteObject × σ :=
  let ((ret, value), after) := answer
  ([.int32 ret, .int32 (value.getD initial)], after)

theorem replyOnSuccess_state (initial : Bool) (answer : (Int × Option Bool) × σ) :
    (replyOnSuccess offset initial answer).2 = answer.2 := by
  unfold replyOnSuccess
  dsimp only
  split <;> rfl

/-- A request that failed a checked read. -/
def replyReadParcelError (state : σ) : Parcel RemoteObject × σ :=
  ([.int32 (ScreenLockError.readParcelError.toInt offset)], state)

end Replies

/-- The handlers of a listener refuse a null object, and one that is not cast,
without a reply. -/
def withListener (call : RemoteObject → ManagerCall RemoteObject .status)
    (data : Parcel RemoteObject) (state : σ) : Parcel RemoteObject × σ :=
  match data.readRemoteObject.1 with
  | none => ([], state)
  | some remote =>
      if casts remote then replyStatus (service.invoke (call remote) state) else ([], state)

section Handlers

variable (data : Parcel RemoteObject) (state : σ)

def onIsLocked : Parcel RemoteObject × σ :=
  replyOnSuccess offset false (service.invoke .isLocked state)

def onIsScreenLocked : Parcel RemoteObject × σ :=
  replyBool (service.invoke .isScreenLocked state)

def onGetSecure : Parcel RemoteObject × σ :=
  replyBool (service.invoke .getSecure state)

def onUnlock : Parcel RemoteObject × σ := withListener casts service .unlock data state

def onUnlockScreen : Parcel RemoteObject × σ :=
  withListener casts service .unlockScreen data state

def onLock : Parcel RemoteObject × σ := withListener casts service .lock data state

def onScreenLockOn : Parcel RemoteObject × σ :=
  withListener casts service .onSystemEvent data state

def onSendScreenLockEvent : Parcel RemoteObject × σ :=
  let (event, rest) := data.readString
  if carriesParam event then
    match rest.readInt32?.1 with
    | none => replyReadParcelError offset state
    | some param => replyStatus (service.invoke (.sendScreenLockEvent event param) state)
  else replyStatus (service.invoke (.sendScreenLockEvent event 0) state)

def onIsScreenLockDisabled : Parcel RemoteObject × σ :=
  let (userId, _) := data.readInt32
  replyOnSuccess offset false (service.invoke (.isScreenLockDisabled userId) state)

def onSetScreenLockDisabled : Parcel RemoteObject × σ :=
  let (disable, rest) := data.readBool
  let (userId, _) := rest.readInt32
  replyStatus (service.invoke (.setScreenLockDisabled disable userId) state)

def onSetScreenLockAuthState : Parcel RemoteObject × σ :=
  match data.readInt32? with
  | (none, _) => replyReadParcelError offset state
  | (some authState, afterState) =>
      match afterState.readInt32? with
      | (none, _) => replyReadParcelError offset state
      | (some userId, afterUser) =>
          match afterUser.readString? with
          | (none, _) => replyReadParcelError offset state
          | (some authToken, _) =>
              replyStatus
                (service.invoke (.setScreenLockAuthState authState userId authToken) state)

def onGetScreenLockAuthState : Parcel RemoteObject × σ :=
  let (userId, _) := data.readInt32
  replyNumber (-1) (service.invoke (.getScreenLockAuthState userId) state)

def onRequestStrongAuth : Parcel RemoteObject × σ :=
  let (reasonFlag, rest) := data.readInt32
  let (userId, _) := rest.readInt32
  replyStatus (service.invoke (.requestStrongAuth reasonFlag userId) state)

def onGetStrongAuth : Parcel RemoteObject × σ :=
  let (userId, _) := data.readInt32
  replyNumber (-1) (service.invoke (.getStrongAuth userId) state)

def onRegistInnerListener : Parcel RemoteObject × σ :=
  let (userId, afterUser) := data.readInt32
  let (listenType, rest) := afterUser.readInt32
  withListener casts service (.registerInnerListener userId listenType) rest state

def onUnRegistInnerListener : Parcel RemoteObject × σ :=
  let (userId, afterUser) := data.readInt32
  let (listenType, rest) := afterUser.readInt32
  withListener casts service (.unRegisterInnerListener userId listenType) rest state

def onLockScreen : Parcel RemoteObject × σ :=
  let (userId, _) := data.readInt32
  replyStatus (service.invoke (.lockUser userId) state)

def onIsDeviceLocked : Parcel RemoteObject × σ :=
  let (userId, _) := data.readInt32
  replyFlag true (service.invoke (.isDeviceLocked userId) state)

def onIsLockedWithUserId : Parcel RemoteObject × σ :=
  let (userId, _) := data.readInt32
  replyFlag true (service.invoke (.isLockedWithUserId userId) state)

def onSetUnlockPolicy : Parcel RemoteObject × σ :=
  let (userId, rest) := data.readInt32
  let (policy, _) := rest.readInt32
  replyStatus (service.invoke (.setUnlockPolicy userId policy) state)

def onGetUnlockPolicy : Parcel RemoteObject × σ :=
  let (userId, _) := data.readInt32
  replyNumber 0 (service.invoke (.getUnlockPolicy userId) state)

end Handlers

abbrev Handler (σ : Type) := Parcel RemoteObject → σ → Parcel RemoteObject × σ

/-- `InitHandleMap`. -/
def handleFuncMap : List (ScreenLockServerIpcInterfaceCode × Handler σ) :=
  [(.isLocked, fun _ => onIsLocked offset service),
    (.isScreenLocked, fun _ => onIsScreenLocked service),
    (.isSecureMode, fun _ => onGetSecure service),
    (.unlock, onUnlock casts service),
    (.unlockScreen, onUnlockScreen casts service),
    (.lock, onLock casts service),
    (.sendScreenLockEvent, onSendScreenLockEvent offset service),
    (.onSystemEvent, onScreenLockOn casts service),
    (.lockScreen, onLockScreen service),
    (.isScreenLockDisabled, onIsScreenLockDisabled offset service),
    (.setScreenLockDisabled, onSetScreenLockDisabled service),
    (.setScreenLockAuthState, onSetScreenLockAuthState offset service),
    (.getScreenLockAuthState, onGetScreenLockAuthState service),
    (.requestStrongAuthState, onRequestStrongAuth service),
    (.getStrongAuthState, onGetStrongAuth service),
    (.isDeviceLocked, onIsDeviceLocked service),
    (.registerInnerListener, onRegistInnerListener casts service),
    (.unregisterInnerListener, onUnRegistInnerListener casts service),
    (.isUserScreenLocked, onIsLockedWithUserId service),
    (.setUnlockPolicy, onSetUnlockPolicy service),
    (.getUnlockPolicy, onGetUnlockPolicy service)]

def findHandler (code : Nat) : Option (Handler σ) :=
  ((handleFuncMap offset casts service).find? fun entry => entry.1.value = code).map Prod.snd

/-- `OnRemoteRequest`. What the base class answers to a foreign or unknown
request is an error. -/
def onRemoteRequest : Remote σ := fun code data state =>
  let (descriptor, rest) := data.readInterfaceToken
  if descriptor ≠ getDescriptor then (none, state)
  else match findHandler offset casts service code with
    | none => (none, state)
    | some handler =>
        let (reply, after) := handler rest state
        (some reply, after)

/-- A request reaches the handler of its code, behind the interface token. -/
theorem onRemoteRequest_of_handler (code : ScreenLockServerIpcInterfaceCode) {handler : Handler σ}
    (hhandler : findHandler offset casts service code.value = some handler)
    (rest : Parcel RemoteObject) (state : σ) :
    onRemoteRequest offset casts service code.value (.interfaceToken getDescriptor :: rest) state =
      (some (handler rest state).1, (handler rest state).2) := by
  simp [onRemoteRequest, hhandler]

end Screenlock.ScreenLockManagerStub
