import Mathlib.Data.Int.Basic

/-! # Shared constants of the screen-lock service

Result codes, listener types, authentication states and event names. Values
that arrive unchecked over IPC (results, reason flags, listener types,
authentication states) stay integers, with the enumerators as constants.
-/

namespace Screenlock

/-- An account id. No operation computes with ids, so their 32-bit width plays no role. -/
abbrev UserId := Int

/-- `ScreenLockError`. -/
inductive ScreenLockError where
  | ok
  | saDied
  | readParcelError
  | writeParcelError
  | publishFail
  | transactError
  | dealFailed
  | parametersInvalid
  | setRtcFailed
  | notFound
  | noPermission
  | nullptr
  | sendRequestFailed
  | notSystemApp
  | notFocusApp
  | userIdInvalid
  deriving DecidableEq, Repr

/-! `ScreenChange`, the results the lock-screen application reports. -/

namespace ScreenChange

abbrev screenSucc : Int := 0
abbrev screenFail : Int := 1
abbrev screenCancel : Int := 2
abbrev earlySuccess : Int := 3
abbrev alreadyUnlocked : Int := 4

end ScreenChange

/-- What an IPC method answers: an error code, or the bare `SCREEN_FAIL` that
`SetScreenLockDisabled` returns. -/
inductive ReturnCode where
  | error (code : ScreenLockError)
  | screenFail
  deriving DecidableEq, Repr

/-! `StrongAuthReasonFlags`. -/

namespace StrongAuthReasonFlags

abbrev none : Int := 0x00
abbrev afterBoot : Int := 0x01
abbrev afterTimeout : Int := 0x02
abbrev activeRequest : Int := 0x04
abbrev afterCredentialChanged : Int := 0x20

end StrongAuthReasonFlags

/-! `SpecialUserId`, the account ids with a meaning of their own. -/

namespace SpecialUserId

abbrev userAll : UserId := -1
abbrev userCurrent : UserId := -2

end SpecialUserId

/-- `USER_NULL`, the current user while no lock screen has registered. -/
abbrev userNull : UserId := -10000

/-- `ListenType`. The stub casts any received integer to it. -/
abbrev ListenType := Int

namespace ListenType

abbrev strongAuth : ListenType := 0
abbrev deviceLock : ListenType := 1

end ListenType

/-! `AuthState`, as stored: any integer. -/

namespace AuthState

abbrev unauth : Int := 0
abbrev authedByCredential : Int := 4
abbrev authedByFingerprint : Int := 5
abbrev authedByFace : Int := 6
abbrev preAuthedResultByCredential : Int := 7
abbrev preAuthedResultByFingerprint : Int := 8

end AuthState

/-- `UserIam::UserAuth::AuthType`. -/
inductive AuthType where
  | pin
  | face
  | fingerprint
  | other (code : Int)
  deriving DecidableEq, Repr

/-- `CredChangeEventType`. -/
inductive CredChangeEventType where
  | addCred
  | updateCred
  | delUser
  | enforceDelUser
  | other (code : Int)
  deriving DecidableEq, Repr

/-- `UserIam::UserAuth::ResultCode`, as far as the service tells codes apart. -/
inductive ResultCode where
  | success
  | notEnrolled
  | other (code : Int)
  deriving DecidableEq, Repr

structure CredentialInfo where
  credentialId : Nat
  deriving DecidableEq, Repr

/-- The event handed to the lock-screen application. -/
structure SystemEvent where
  eventType : String
  params : String := ""
  userId : UserId := -1
  deriving DecidableEq, Repr

namespace SystemEvent

def unlockscreen : String := "unlockScreen"
def lockscreen : String := "lockScreen"
def strongAuthChanged : String := "strongAuthChanged"
def systemReady : String := "systemReady"
def useriamReady : String := "useriamReady"
def preAuthResult : String := "preAuthResult"
def unlockPolicyChange : String := "unlockPolicyChanged"

end SystemEvent

/-- Names accepted by `SendScreenLockEvent`. -/
def unlockScreenResult : String := "unlockScreenResult"
def lockScreenResult : String := "lockScreenResult"
def screenDrawdone : String := "screenDrawDone"

/-- Common events the service publishes. -/
inductive CommonEvent where
  | screenLocked
  | screenLockExiting
  | screenUnlocked
  deriving DecidableEq, Repr

/-- `DisplayEvent`. -/
inductive DisplayEvent where
  | unlock
  | keyguardDrawn
  deriving DecidableEq, Repr

end Screenlock
