import Screenlock.Common
import Screenlock.Preferences

/-! # What the platform tells the service

The identity of an IPC caller, and the answers that account management,
identity management, the window manager, the time service and the preference
store give while one entry into the service runs.
-/

namespace Screenlock

/-- `ATokenTypeEnum`, as far as the service tells tokens apart. -/
inductive TokenType where
  | hap
  | native
  | other
  deriving DecidableEq, Repr

/-- The calling identity of an IPC request. -/
structure Caller where
  pid : Int
  uid : Int
  tokenType : TokenType
  systemApp : Bool
  permissions : List String
  deriving DecidableEq, Repr

def accessScreenLock : String := "ohos.permission.ACCESS_SCREEN_LOCK"

def accessScreenLockInner : String := "ohos.permission.ACCESS_SCREEN_LOCK_INNER"

/-- Identity of a timer of the time service; 0 stands for none. -/
abbrev TimerId := Nat

/-- Answers of the platform during one entry into the service. Where a call is
made repeatedly, the answers are numbered in the order of the calls. -/
structure Environment where
  /-- `QueryActiveOsAccountIds`; `none` when it fails. -/
  activeOsAccountIds : Option (List UserId)
  /-- `GetOsAccountLocalIdFromUid`; a failed call leaves the initial 0. -/
  osAccountLocalIdFromUid : Int → UserId
  foregroundOsAccountLocalId : UserId
  /-- `IsOsAccountVerified`; `none` when it fails. -/
  osAccountVerified : UserId → Option Bool
  /-- `GetCredentialInfoSync` for the PIN. -/
  credentialInfoSync : UserId → ResultCode × List CredentialInfo
  /-- What `GetCredentialInfo` answers when the query is submitted. -/
  credentialInfo : ResultCode
  /-- Processes of the focused windows; `none` for a null entry. -/
  focusWindowPids : List (Option Int)
  /-- `CheckUIExtensionIsFocused`; `none` when it fails. -/
  uiExtensionFocused : Option Bool
  /-- Whether `PreferencesUtil::GetInstance` yields an instance. -/
  preferencesUtil : Bool
  preferences : Nat → PreferencesAccess
  bootTimeMs : Nat → Int
  /-- The id `CreateTimer` returns. -/
  createdTimer : TimerId
  deviceType : String

namespace Environment

/-- `GetCurrentActiveOsAccountId`: a failed query answers `SCREEN_FAIL`. -/
def currentActiveOsAccountId (env : Environment) : UserId :=
  match env.activeOsAccountIds with
  | none => ScreenChange.screenFail
  | some [] => ScreenChange.screenFail
  | some (first :: _) => first

/-- `GetUserIdFromCallingUid`. -/
def userIdFromCallingUid (env : Environment) (caller : Caller) : UserId :=
  let userId := env.osAccountLocalIdFromUid caller.uid
  if userId = 0 then env.foregroundOsAccountLocalId else userId

/-- `IsOsAccountUnlocked`. -/
def isOsAccountUnlocked (env : Environment) (userId : UserId) : Bool :=
  (env.osAccountVerified userId).getD false

/-- `IsAppInForeground`, outside factory mode. -/
def isAppInForeground (env : Environment) (caller : Caller) : Bool :=
  env.focusWindowPids.any (fun pid => pid = some caller.pid) ||
    env.uiExtensionFocused.getD false

/-- A platform on which every call succeeds, with one active account and no
credentials. Each account is verified and owns a block of uids. -/
def single (userId : UserId) : Environment where
  activeOsAccountIds := some [userId]
  osAccountLocalIdFromUid uid := uid / 200000
  foregroundOsAccountLocalId := userId
  osAccountVerified _ := some true
  credentialInfoSync _ := (.notEnrolled, [])
  credentialInfo := .success
  focusWindowPids := []
  uiExtensionFocused := some false
  preferencesUtil := true
  preferences _ := PreferencesAccess.works
  bootTimeMs _ := 0
  createdTimer := 1
  deviceType := "phone"

end Environment

namespace Caller

/-- A system application of the account that holds both permissions. -/
def privileged (userId : UserId) : Caller :=
  ⟨1, userId * 200000, .hap, true, [accessScreenLock, accessScreenLockInner]⟩

def checkPermission (caller : Caller) (permissionName : String) : Bool :=
  caller.permissions.contains permissionName

/-- `CheckSystemPermission` answers true when the caller is *refused*. -/
def checkSystemPermission (caller : Caller) : Bool :=
  !caller.systemApp && caller.tokenType ≠ .native

def isNativeAccess (caller : Caller) : Bool :=
  caller.tokenType = .native

end Caller

end Screenlock
