import Mathlib.Logic.Function.Basic
import Screenlock.Client.Ipc

/-! # Lock and unlock calls of an application

The JavaScript binding makes a callback object for each call, passes it to the
service and hands every result the object gets to the event loop of the
application. A call that fails is told through the same object, with the error
code in the place of the result.
-/

namespace Screenlock

open Foundation

/-- `Action`. -/
inductive Action where
  | lock
  | unlock
  | unlockScreen
  deriving DecidableEq, Repr

structure ErrorInfo where
  errorCode_ : Nat := 0
  message_ : String := ""
  deriving DecidableEq, Repr

/-! `JsErrorCode`, the codes an application sees. -/

namespace JsErrorCode

abbrev noPermission : Nat := 201
abbrev notSystemApp : Nat := 202
abbrev invalidParams : Nat := 401
abbrev cancelUnlock : Nat := 13200001
abbrev serviceAbnormal : Nat := 13200002
abbrev illegalUse : Nat := 13200003
abbrev userIdInvalid : Nat := 13200004

end JsErrorCode

def cancelUnlockOperation : String := "The user canceled the unlock operation."

def screenlockFail : String := "ScreenLock failed."

section ErrorTables

/-- `ERROR_CODE_CONVERSION`. -/
def errorCodeConversion : List (ScreenLockError × Nat) :=
  [(.noPermission, JsErrorCode.noPermission),
    (.parametersInvalid, JsErrorCode.invalidParams),
    (.writeParcelError, JsErrorCode.serviceAbnormal),
    (.nullptr, JsErrorCode.serviceAbnormal),
    (.sendRequestFailed, JsErrorCode.serviceAbnormal),
    (.notFocusApp, JsErrorCode.illegalUse),
    (.notSystemApp, JsErrorCode.notSystemApp),
    (.userIdInvalid, JsErrorCode.userIdInvalid)]

/-- `ERROR_INFO_MAP`. -/
def errorInfoMap : List (Nat × String) :=
  [(JsErrorCode.noPermission, "Permission verification failed."),
    (JsErrorCode.invalidParams, "Parameter verification failed."),
    (JsErrorCode.cancelUnlock, cancelUnlockOperation),
    (JsErrorCode.serviceAbnormal, "The screenlock management service is abnormal."),
    (JsErrorCode.illegalUse, "Invalid use."),
    (JsErrorCode.notSystemApp, "Permission verification failed, application which is not a " ++
      "system application uses system API."),
    (JsErrorCode.userIdInvalid,
      "The userId is not same as the caller, and is not allowed for the caller.")]

def getErrorMessage (code : Nat) : String := (errorInfoMap.lookup code).getD ""

/-- `GetErrorInfo`; a code that is not converted leaves the error as it is. -/
def getErrorInfo (offset : ErrOffset) (errorCode : Int) (errorInfo : ErrorInfo) : ErrorInfo :=
  match (errorCodeConversion.map fun entry => (entry.1.toInt offset, entry.2)).lookup errorCode with
  | some jsCode => ⟨jsCode, getErrorMessage jsCode⟩
  | none => errorInfo

end ErrorTables

section Callbacks

/-- `ScreenlockCallback`, the callback object of the binding. -/
structure BindingCallback where
  action : Action
  errorInfo_ : ErrorInfo
  deriving DecidableEq, Repr

/-- `ScreenlockOnCallBack`, the work for the event loop. The callback stands for
the promise or the function of the application that its object keeps. -/
structure ScreenlockOnCallBack where
  callback : ScreenLockCallback
  action : Action
  errorInfo : ErrorInfo
  screenLockResult : Int
  deriving DecidableEq, Repr

/-- What the application gets: its function both parts, a promise the error if
there is one and the data otherwise. `none` is null and undefined. -/
structure ShownResult where
  error : Option ErrorInfo
  data : Option Bool
  deriving DecidableEq, Repr

def BindingCallback.setErrorInfo (errorInfo : ErrorInfo) (object : BindingCallback) :
    BindingCallback :=
  { object with errorInfo_ := errorInfo }

/-- `OnCallBack` and the work it queues. The object keeps the text it sets. -/
def BindingCallback.onCallBack (callback : ScreenLockCallback) (screenLockResult : Int)
    (object : BindingCallback) : ScreenlockOnCallBack × BindingCallback :=
  let told :=
    if screenLockResult = ScreenChange.screenCancel then
      object.setErrorInfo { object.errorInfo_ with message_ := cancelUnlockOperation }
    else if screenLockResult = ScreenChange.screenFail then
      object.setErrorInfo { object.errorInfo_ with message_ := screenlockFail }
    else object
  (⟨callback, told.action, told.errorInfo_, screenLockResult⟩, told)

def ScreenlockOnCallBack.uvWorkOnCallBack (work : ScreenlockOnCallBack) : ShownResult :=
  let screenLockSuccess := decide (work.screenLockResult = ScreenChange.screenSucc)
  let cancelUnlock := decide (work.action = .unlock ∧
    work.screenLockResult = ScreenChange.screenCancel)
  { error := if screenLockSuccess || cancelUnlock then none else some work.errorInfo
    data := if work.action = .unlockScreen then none else some screenLockSuccess }

end Callbacks

/-- How far a call of the binding gets, and whether its reply is written. -/
structure Exchange extends Passage where
  writesReply : Bool
  deriving DecidableEq, Repr

namespace Exchange

variable {σ : Type*} (exchange : Exchange) (offset : ErrOffset)
  (method : σ → ScreenLockError × σ) (service : σ)

/-- `OnRemoteRequest`, with no care for whether the reply takes the code. -/
def onRemoteRequest : List Int × σ :=
  let (reply, after) := exchange.toPassage.onRemoteRequest offset method service
  (if exchange.writesReply then reply else [], after)

/-- `Unlock` and `UnlockScreen` of the proxy. -/
def unlock : Int × σ :=
  exchange.toPassage.transact offset service (exchange.onRemoteRequest offset method service)

/-- `Lock` of the proxy, which checks that the interface token is written. -/
def lock : Int × σ :=
  if exchange.writesInterfaceToken = false then
    (ScreenLockError.writeParcelError.toInt offset, service)
  else exchange.toPassage.transact offset service (exchange.onRemoteRequest offset method service)

end Exchange

/-- One call of the application: the object made for it, the way to the service,
and what the service meets if the call gets there. -/
structure AsyncCall where
  action : Action
  callback : ScreenLockCallback
  makesCallback : Bool
  exchange : Exchange
  env : Environment
  caller : Caller

namespace AsyncCall

variable (call : AsyncCall)

def request : Request :=
  match call.action with
  | .lock => .lock call.callback
  | .unlock => .unlock call.callback
  | .unlockScreen => .unlockScreen call.callback

/-- The method of the service that the stub calls. -/
def serve (ability : ScreenLockSystemAbility) : ScreenLockError × ScreenLockSystemAbility :=
  let (code, after) := match call.action with
    | .lock => ability.readied.lock call.caller call.callback
    | .unlock => ability.readied.unlock call.env call.caller call.callback
    | .unlockScreen => ability.readied.unlockScreen call.env call.caller call.callback
  (code, { after with clock := ability.clock + 1 })

end AsyncCall

/-- The binding in one process, and the service in its own. -/
structure AsyncClient where
  /-- Whether `screenlockManagerProxy_` is not null. -/
  screenlockManagerProxy : Bool
  callbacks : ScreenLockCallback → Option BindingCallback
  /-- The invocations of `OnCallBack`, by the works they queue. -/
  onCallBacks : List ScreenlockOnCallBack
  ability : ScreenLockSystemAbility

namespace AsyncClient

variable (offset : ErrOffset) (call : AsyncCall) (client : AsyncClient)

/-- `Lock` and `Unlock` of `ScreenLockManager`. -/
def ask : Int × AsyncClient :=
  let found := client.screenlockManagerProxy || call.exchange.findsProxy
  let asked := { client with screenlockManagerProxy := found }
  if found = false then (ScreenLockError.nullptr.toInt offset, asked)
  else
    let (status, ability) := match call.action with
      | .lock => call.exchange.lock offset call.serve client.ability
      | .unlock => call.exchange.unlock offset call.serve client.ability
      | .unlockScreen => call.exchange.unlock offset call.serve client.ability
    (status, { asked with ability := ability })

def keep (callback : ScreenLockCallback) (object : BindingCallback) : AsyncClient :=
  { client with callbacks := Function.update client.callbacks callback (some object) }

/-- `OnCallBack` of the object behind a callback. -/
def onCallBack (callback : ScreenLockCallback) (screenLockResult : Int) : AsyncClient :=
  match client.callbacks callback with
  | none => client
  | some object =>
      let (work, told) := object.onCallBack callback screenLockResult
      { client.keep callback told with onCallBacks := client.onCallBacks ++ [work] }

/-- The work that `AsyncCallFunc` queues. -/
def asyncCallFunc : AsyncClient :=
  if call.makesCallback = false then client
  else
    let object : BindingCallback := ⟨call.action, {}⟩
    let (status, asked) := (client.keep call.callback object).ask offset call
    if status ≠ ScreenLockError.ok.toInt offset then
      -- the status of the call becomes the result that is shown
      let errInfo := getErrorInfo offset status { errorCode_ := (status % 2 ^ 32).toNat }
      (asked.keep call.callback (object.setErrorInfo errInfo)).onCallBack call.callback status
    else asked

/-- `FOUNDATION_UID`, under which the service runs. -/
def foundationUid : Int := 5523

/-- `OnRemoteRequest` of `ScreenLockCallbackStub`. -/
def onCallBackRequest (callingUid : Int) (callback : ScreenLockCallback)
    (screenLockResult : Int) : AsyncClient :=
  if callingUid ≠ foundationUid then client else client.onCallBack callback screenLockResult

end AsyncClient

namespace WaitingListeners

variable (waiting : WaitingListeners) (callback : ScreenLockCallback)

/-- The callback waits, or has been called back. -/
def Knows : Prop :=
  (∃ entry ∈ waiting.lockVecListeners, entry.2 = callback) ∨
    (∃ done ∈ waiting.lockCalled, done.entry = callback) ∨
    (∃ entry ∈ waiting.unlockVecListeners, entry.2 = callback) ∨
    ∃ called ∈ waiting.unlockCalled, called.completion.entry.1 = callback

/-- The callback was queued, and called back with the value. -/
def CalledBack (value : Int) (pushedAt ranAt : Nat) : Prop :=
  (∃ done ∈ waiting.lockCalled, done.entry = callback ∧ done.result = value ∧
      done.pushedAt = pushedAt ∧ done.ranAt = ranAt) ∨
    ∃ called ∈ waiting.unlockCalled, called.completion.entry.1 = callback ∧
      called.value = value ∧ called.completion.pushedAt = pushedAt ∧
      called.completion.ranAt = ranAt

end WaitingListeners

/-- The callback a request brings to the service. -/
def ServiceEvent.passed : ServiceEvent → Option ScreenLockCallback
  | .call _ _ (.lock listener) => some listener
  | .call _ _ (.unlock listener) => some listener
  | .call _ _ (.unlockScreen listener) => some listener
  | _ => none

inductive AsyncEvent where
  | call (call : AsyncCall)
  /-- Anything else the service does, for others as well. -/
  | service (event : ServiceEvent)
  | onCallBackRequest (callingUid : Int) (callback : ScreenLockCallback) (screenLockResult : Int)

namespace AsyncClient

/-- A new object is none of those made before, nobody else has the objects of the
binding, and the service calls back what it has recorded. -/
def machine (offset : ErrOffset) : Machine AsyncClient AsyncEvent where
  enabled client event := match event with
    | .call call =>
        client.callbacks call.callback = none ∧ ¬ client.ability.waiting.Knows call.callback
    | .service event =>
        ScreenLockSystemAbility.machine.enabled client.ability event ∧
          ∀ callback ∈ event.passed, client.callbacks callback = none
    | .onCallBackRequest callingUid callback screenLockResult =>
        callingUid = foundationUid →
          ∃ pushedAt ranAt,
            client.ability.waiting.CalledBack callback screenLockResult pushedAt ranAt
  step client event := match event with
    | .call call => client.asyncCallFunc offset call
    | .service event => { client with ability := client.ability.step event }
    | .onCallBackRequest callingUid callback screenLockResult =>
        client.onCallBackRequest callingUid callback screenLockResult

end AsyncClient

end Screenlock
