import Screenlock.Foundation.Relay
import Screenlock.Ipc.EventChannel

/-! # The way of a state change

`ScreenLockInnerListenerProxy` writes the account and the state into a parcel and
sends it without waiting for an answer. In the process of the listener the stub
reads them back for the `InnerListenerWrapper`, which calls the listener at once
or posts the call to the event handler of the thread.
-/

namespace Screenlock

open Foundation

namespace InnerListenerIf

def descriptor : String := "OHOS.ScreenLock.InnerListenerIf"

def onListenerStateChanged : Nat := 0

/-- A request under way: its code and its parcel. -/
abbrev Message := Nat × Parcel Empty

end InnerListenerIf

open InnerListenerIf

/-- The process of a listener: requests under way to it, calls posted to its event
handler, and the calls its listener has got. -/
abbrev ListenerProcess := Relay Message (UserId × Int)

namespace ScreenLockInnerListenerProxy

def written (userId : UserId) (state : Int) : Parcel Empty :=
  [.interfaceToken descriptor, .int32 userId, .int32 state]

/-- `OnStateChanged`, over a remote object that takes every request. -/
def onStateChanged (userId : UserId) (state : Int) (process : ListenerProcess) :
    ListenerProcess :=
  process.send [(onListenerStateChanged, written userId state)]

end ScreenLockInnerListenerProxy

namespace ScreenLockInnerListenerStub

variable {σ : Type} (onStateChanged : UserId → Int → σ → σ)

/-- A field that cannot be read ends the request, and its error is dropped. -/
def onStateChangedStub (data : Parcel Empty) (state : σ) : σ :=
  match data.readInt32? with
  | (none, _) => state
  | (some userId, rest) =>
      match rest.readInt32? with
      | (none, _) => state
      | (some value, _) => onStateChanged userId value state

def onRemoteRequest (code : Nat) (data : Parcel Empty) (state : σ) : RequestStatus × σ :=
  let (descriptorToken, rest) := data.readInterfaceToken
  if descriptorToken ≠ descriptor then (.transactError, state)
  else if code = onListenerStateChanged then (.noError, onStateChangedStub onStateChanged rest state)
  else (.unknownTransaction, state)

/-- The calls a request asks for. -/
def received (message : Message) : List (UserId × Int) :=
  (onRemoteRequest (fun userId state calls => calls ++ [(userId, state)]) message.1 message.2
    []).2

end ScreenLockInnerListenerStub

namespace InnerListenerWrapper

/-- `OnStateChanged`; `current` tells whether the thread has an event handler. -/
def onStateChanged (current : Bool) (userId : UserId) (state : Int) (process : ListenerProcess) :
    ListenerProcess :=
  if current then { process with posted := process.posted ++ [(userId, state)] }
  else { process with handled := process.handled ++ [(userId, state)] }

/-- A thread of the process takes the first request. -/
def serve (current : Bool) (process : ListenerProcess) : ListenerProcess :=
  match process.inFlight with
  | [] => process
  | (code, data) :: rest =>
      (ScreenLockInnerListenerStub.onRemoteRequest (onStateChanged current) code data
        { process with inFlight := rest }).2

open ScreenLockInnerListenerStub

theorem onStateChangedStub_eq (current : Bool) (data : Parcel Empty) (process : ListenerProcess) :
    onStateChangedStub (onStateChanged current) data process =
      process.accept current
        (onStateChangedStub (fun userId state calls => calls ++ [(userId, state)]) data []) := by
  unfold onStateChangedStub
  split
  · cases current <;> simp [Relay.accept]
  · split
    · cases current <;> simp [Relay.accept]
    · rfl

/-- The stub and the wrapper take a request as a relay does. -/
theorem serve_eq_take (current : Bool) (process : ListenerProcess) :
    serve current process = process.move received (.take current) := by
  unfold serve Relay.move received onRemoteRequest
  cases process.inFlight with
  | nil => rfl
  | cons message rest =>
      dsimp only
      split
      · cases current <;> simp [Relay.accept]
      · split
        · exact onStateChangedStub_eq current _ _
        · cases current <;> simp [Relay.accept]

end InnerListenerWrapper

theorem received_written (userId : UserId) (state : Int) :
    ScreenLockInnerListenerStub.received
      (onListenerStateChanged, ScreenLockInnerListenerProxy.written userId state) =
        [(userId, state)] := rfl

/-- `DeviceLockedListener::OnStateChanged`, as the call of `OnDeviceLockStateChanged`. -/
def DeviceLockedListener.onStateChanged (change : UserId × Int) : UserId × Bool :=
  (change.1, change.2 ≠ 0)

end Screenlock
