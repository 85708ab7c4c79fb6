import Screenlock.Ipc.Interface
import Screenlock.Service.Events

/-! # The system ability behind the stub

`ScreenLockSystemAbility` implements the interface. The methods answered with a
code alone are the ones that can change its state.
-/

namespace Screenlock

def ReturnCode.toInt (offset : ErrOffset) : ReturnCode → Int
  | .error code => code.toInt offset
  | .screenFail => ScreenChange.screenFail

/-- What the service meets while it serves one call. -/
structure Serving where
  env : Environment
  caller : Caller
  /-- The answer of the remote object to a death recipient. -/
  attaches : Bool
  /-- The object that a remote object is cast to. -/
  address : RemoteObject → Nat

namespace Serving

variable (offset : ErrOffset) (serving : Serving)

/-- A query with the output that a failed one leaves alone. -/
def answer {α : Type} : Except ScreenLockError α → Int × Option α
  | .error code => (code.toInt offset, none)
  | .ok value => (ScreenLockError.ok.toInt offset, some value)

def request : ManagerCall RemoteObject .status → Request
  | .unlock listener => .unlock (serving.address listener)
  | .unlockScreen listener => .unlockScreen (serving.address listener)
  | .lock listener => .lock (serving.address listener)
  | .lockUser userId => .lockUser userId
  | .onSystemEvent listener => .onSystemEvent (some (serving.address listener))
  | .sendScreenLockEvent event param => .sendScreenLockEvent event param
  | .setScreenLockDisabled disable userId => .setScreenLockDisabled disable userId
  | .setScreenLockAuthState authState userId _ => .setScreenLockAuthState authState userId
  | .requestStrongAuth reasonFlag userId => .requestStrongAuth reasonFlag userId
  | .registerInnerListener userId listenType listener =>
      .registerInnerListener serving.attaches userId listenType
        (some ⟨serving.address listener, some listener⟩)
  | .unRegisterInnerListener userId listenType listener =>
      .unRegisterInnerListener userId listenType (some ⟨serving.address listener, some listener⟩)
  | .setUnlockPolicy userId policy => .setUnlockPolicy userId policy

/-- The methods of the service. The queries change nothing. -/
def invoke (ability : ScreenLockSystemAbility) :
    {kind : ReplyKind} → ManagerCall RemoteObject kind → kind.Answer × ScreenLockSystemAbility
  | .status, call =>
      (ability.handle serving.env serving.caller (serving.request call)).map
        (ReturnCode.toInt offset) id
  | _, .isScreenLocked => (ability.isScreenLocked serving.env serving.caller, ability)
  | _, .getSecure => (ScreenLockSystemAbility.getSecure serving.env serving.caller, ability)
  | _, .isLocked => (answer offset (ability.isLocked serving.env serving.caller), ability)
  | _, .isScreenLockDisabled userId =>
      (answer offset (ability.isScreenLockDisabled serving.env serving.caller userId), ability)
  | _, .isDeviceLocked userId =>
      ((ability.isDeviceLocked serving.caller userId).map (ScreenLockError.toInt offset) id,
        ability)
  | _, .isLockedWithUserId userId =>
      ((ability.isLockedWithUserId serving.caller userId).map (ScreenLockError.toInt offset) id,
        ability)
  | _, .getScreenLockAuthState userId =>
      (answer offset (ability.getScreenLockAuthState serving.caller userId), ability)
  | _, .getStrongAuth userId =>
      (answer offset (ability.getStrongAuth serving.env serving.caller userId), ability)
  | _, .getUnlockPolicy userId =>
      ((ability.getUnlockPolicy serving.env serving.caller userId).map
        (ScreenLockError.toInt offset) id, ability)

/-- The service the stub calls. -/
def service : ManagerService ScreenLockSystemAbility where
  invoke call ability := serving.invoke offset ability call

end Serving

end Screenlock
