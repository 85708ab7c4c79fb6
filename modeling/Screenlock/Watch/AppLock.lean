import Mathlib.Data.Finset.Basic
import Mathlib.Data.Finset.Insert
import Screenlock.Common
import Screenlock.Foundation.Machine

/-! # The application lock of a watch

`WatchAppLockManager` remembers an unlocking twice: the bundles that have
authenticated, and that one did while the watch was on the wrist. It listens to
windows and to the leave-wrist setting only while its record of bundles is not
empty. The two settings and the observers that the platform holds are kept
beside its own fields.
-/

namespace Screenlock

open Foundation

def settingEnableValue : String := "1"
def settingDisenableValue : String := "0"
def stateTrue : String := "true"

/-- What the platform answers during one entry. -/
structure WatchPlatform where
  /-- `persist.useriam.isPinEnrolled`. -/
  isPinEnrolled : String
  queriesHwLeaveWrist : Bool
  queriesPasswordScope : Bool
  registersAppState : Bool
  registersLeaveWrist : Bool
  unregistersAppState : Bool
  unregistersLeaveWrist : Bool
  deriving DecidableEq, Repr

/-- A platform on which everything succeeds and a PIN is enrolled. -/
def WatchPlatform.willing : WatchPlatform := ⟨stateTrue, true, true, true, true, true, true⟩

structure WatchAppLockManager where
  isWearOn : Bool := false
  isWristUnlock : Bool := false
  /-- Whether `appStateObserver_` is not null. -/
  appStateObserver : Bool := false
  /-- Whether `leaveWristSettingObserver_` is not null. -/
  leaveWristSettingObserver : Bool := false
  unlockedRecord : Finset String := ∅
  /-- Observers registered with the application manager. -/
  appStateObservers : Nat := 0
  /-- Observers registered with the settings. -/
  leaveWristObservers : Nat := 0
  hwLeaveWrist : String
  passwordScope : String
  deriving DecidableEq

namespace WatchAppLockManager

section Settings

variable (platform : WatchPlatform) (manager : WatchAppLockManager)

/-- `GetSettingsValue`; a failed query answers the default. -/
def getSettingsValue (answers : Bool) (value defaultValue : String) : String :=
  if answers then value else defaultValue

def isDeviceScope : Bool :=
  getSettingsValue platform.queriesPasswordScope manager.passwordScope settingDisenableValue =
    settingEnableValue

def isLeaveWrist : Bool :=
  getSettingsValue platform.queriesHwLeaveWrist manager.hwLeaveWrist settingDisenableValue =
    settingEnableValue

def hasPin : Bool := platform.isPinEnrolled = stateTrue

/-- The leave-wrist setting is switched on. -/
def LeaveWristEnabled : Prop := manager.hwLeaveWrist = settingEnableValue

/-- The password protects the device as a whole. -/
def DeviceScopeEnabled : Prop := manager.passwordScope = settingEnableValue

instance : Decidable manager.LeaveWristEnabled :=
  inferInstanceAs (Decidable (_ = _))

instance : Decidable manager.DeviceScopeEnabled :=
  inferInstanceAs (Decidable (_ = _))

end Settings

section Observers

variable (platform : WatchPlatform) (manager : WatchAppLockManager)

def registerAppStateObserver : WatchAppLockManager :=
  { manager with
    appStateObserver := true
    appStateObservers := manager.appStateObservers + if platform.registersAppState then 1 else 0 }

/-- A refused unregistration keeps the pointer. -/
def unregisterAppStateObserver : WatchAppLockManager :=
  if manager.appStateObserver ∧ platform.unregistersAppState then
    { manager with
      appStateObserver := false
      appStateObservers := manager.appStateObservers - 1 }
  else manager

def registerLeaveWristSettingObserver : WatchAppLockManager :=
  { manager with
    leaveWristSettingObserver := true
    leaveWristObservers :=
      manager.leaveWristObservers + if platform.registersLeaveWrist then 1 else 0 }

/-- The pointer is dropped whatever the settings answer. -/
def unregisterLeaveWristSettingObserver : WatchAppLockManager :=
  if manager.leaveWristSettingObserver then
    { manager with
      leaveWristSettingObserver := false
      leaveWristObservers :=
        manager.leaveWristObservers - if platform.unregistersLeaveWrist then 1 else 0 }
  else manager

end Observers

section UnlockedRecord

variable (platform : WatchPlatform) (manager : WatchAppLockManager)

def add (element : String) : WatchAppLockManager :=
  let watched :=
    if manager.unlockedRecord = ∅ then
      (manager.registerAppStateObserver platform).registerLeaveWristSettingObserver platform
    else manager
  { watched with unlockedRecord := insert element watched.unlockedRecord }

/-- What `remove` and `clear` do once the record is empty. -/
def unwatch : WatchAppLockManager :=
  (manager.unregisterAppStateObserver platform).unregisterLeaveWristSettingObserver platform

def remove (element : String) : WatchAppLockManager :=
  let removed := { manager with unlockedRecord := manager.unlockedRecord.erase element }
  if removed.unlockedRecord = ∅ then removed.unwatch platform else removed

def clear : WatchAppLockManager :=
  { manager with unlockedRecord := ∅ }.unwatch platform

end UnlockedRecord

section Handlers

variable (platform : WatchPlatform) (manager : WatchAppLockManager)

/-- `IsFinishUnlock` for a caller whose bundle is found to be `bundleName`. -/
def isFinishUnlock (bundleName : String) : Bool :=
  manager.isWristUnlock || decide (bundleName ∈ manager.unlockedRecord)

def isScreenLocked (bundleName : String) (isOHScreenLocked : Bool) : Bool :=
  if hasPin platform then
    if manager.isLeaveWrist platform then
      if manager.isDeviceScope platform then isOHScreenLocked
      else !manager.isFinishUnlock bundleName
    else !manager.isFinishUnlock bundleName
  else false

/-- `unlockScreen`; `resultCode` is what `BeginWidgetAuth` waits for. -/
def unlockScreen (bundleName : String) (isScreenLocked : Bool) (resultCode : Int) :
    ScreenLockError × WatchAppLockManager :=
  if isScreenLocked = false ∨ hasPin platform = false then (.notFocusApp, manager)
  else if resultCode = 0 then
    let added := manager.add platform bundleName
    (.ok,
      if added.isLeaveWrist platform ∧ added.isWearOn then { added with isWristUnlock := true }
      else added)
  else (.notFocusApp, manager)

def onScreenOffEnd : WatchAppLockManager := manager.clear platform

def wearStateChange (isWearOn : Bool) : WatchAppLockManager :=
  let worn := { manager with isWearOn := isWearOn }
  if isWearOn then worn else { worn.clear platform with isWristUnlock := false }

/-- `AppStateObserver::OnWindowHidden`. -/
def onWindowHidden (bundleName : String) : WatchAppLockManager :=
  manager.remove platform bundleName

/-- `LeaveWristSettingObserver::OnChange`. -/
def onChange : WatchAppLockManager :=
  if manager.isLeaveWrist platform then manager
  else { manager.clear platform with isWristUnlock := false }

end Handlers

end WatchAppLockManager

/-- What reaches the manager. A hidden window and a changed setting reach it
only through an observer. -/
inductive WatchEvent where
  | unlockScreen (bundleName : String) (isScreenLocked : Bool) (resultCode : Int)
  | wearStateChange (isWearOn : Bool)
  | onScreenOffEnd
  | windowHidden (bundleName : String)
  | hwLeaveWrist (value : String)
  | passwordScope (value : String)
  deriving DecidableEq, Repr

namespace WatchAppLockManager

def step (manager : WatchAppLockManager) (entry : WatchPlatform × WatchEvent) :
    WatchAppLockManager :=
  match entry.2 with
  | .unlockScreen bundleName isScreenLocked resultCode =>
      (manager.unlockScreen entry.1 bundleName isScreenLocked resultCode).2
  | .wearStateChange isWearOn => manager.wearStateChange entry.1 isWearOn
  | .onScreenOffEnd => manager.onScreenOffEnd entry.1
  | .windowHidden bundleName =>
      if 0 < manager.appStateObservers then manager.onWindowHidden entry.1 bundleName else manager
  | .hwLeaveWrist value =>
      let changed := { manager with hwLeaveWrist := value }
      if 0 < changed.leaveWristObservers then changed.onChange entry.1 else changed
  | .passwordScope value => { manager with passwordScope := value }

/-- Registrations succeed; everything else can happen at any time. -/
def machine : Machine WatchAppLockManager (WatchPlatform × WatchEvent) where
  enabled _ entry := entry.1.registersAppState = true ∧ entry.1.registersLeaveWrist = true
  step := step

instance (manager : WatchAppLockManager) (entry : WatchPlatform × WatchEvent) :
    Decidable (machine.enabled manager entry) :=
  inferInstanceAs (Decidable (_ ∧ _))

/-- The manager as it is constructed, on a watch with these settings. -/
def start (hwLeaveWrist passwordScope : String) : WatchAppLockManager :=
  { hwLeaveWrist := hwLeaveWrist, passwordScope := passwordScope }

end WatchAppLockManager

end Screenlock
