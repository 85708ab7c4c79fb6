import Screenlock.Service.SettingKeys
import Screenlock.Service.StoreSteps

/-! # Settings of different accounts and kinds

The disabled flags and the unlock policies of all accounts lie in one store
under computed keys, and six operations write it. Each of them writes under the
key of its own account and kind, with the type that the readers of that kind
ask for.
-/

namespace Screenlock

/-- The two settings of an account. -/
inductive SettingKind where
  | unlockPolicy
  | disabledFlag
  deriving DecidableEq, Repr

namespace SettingKind

def key : SettingKind → UserId → String
  | unlockPolicy => unlockPolicyKey
  | disabledFlag => disabledKey

/-- The value is of the type in which the setting is read. -/
def Typed : SettingKind → PreferencesValue → Prop
  | unlockPolicy, value => value.int? ≠ none
  | disabledFlag, value => value.bool? ≠ none

/-- What the readers of the setting get, with its type. -/
def read (access : PreferencesAccess) (user : UserId) (store : Preferences) :
    SettingKind → PreferencesValue
  | unlockPolicy => .int (store.obtainInt access (unlockPolicyKey user) 0)
  | disabledFlag => .bool (store.obtainBool access (disabledKey user) false)

theorem read_of_typed {kind : SettingKind} {access : PreferencesAccess} {user : UserId}
    {store : Preferences} {value : PreferencesValue} (htyped : kind.Typed value)
    (hhandle : access.handle = true) (hstored : store.memory[kind.key user]? = some value) :
    kind.read access user store = value := by
  cases kind <;> cases value
  case unlockPolicy.int =>
    simp [read, Preferences.obtainInt, Preferences.obtain, hhandle, ← key.eq_1, hstored,
      PreferencesValue.int?]
  case disabledFlag.bool =>
    simp [read, Preferences.obtainBool, Preferences.obtain, hhandle, ← key.eq_2, hstored,
      PreferencesValue.bool?]
  case unlockPolicy.bool | disabledFlag.int => exact absurd rfl htyped

theorem key_inj {kind other : SettingKind} {userId user : UserId}
    (hsame : kind.key userId = other.key user) : kind = other ∧ userId = user := by
  cases kind <;> cases other
  case unlockPolicy.unlockPolicy => exact ⟨rfl, unlockPolicyKey_injective hsame⟩
  case unlockPolicy.disabledFlag => exact absurd hsame (unlockPolicyKey_ne_disabledKey _ _)
  case disabledFlag.unlockPolicy => exact absurd hsame.symm (unlockPolicyKey_ne_disabledKey _ _)
  case disabledFlag.disabledFlag => exact ⟨rfl, disabledKey_injective hsame⟩

end SettingKind

/-- The operations on the settings. -/
inductive SettingsOperation where
  | setUnlockPolicy (caller : Caller) (userId : UserId) (policy : Int)
  | setScreenLockDisabled (caller : Caller) (disable : Bool) (userId : UserId)
  | onActiveUser (targetUser : UserId)
  | onRemoveUser (userId : UserId)
  /-- A PIN is enrolled. -/
  | addPinCred (callingUid : Int) (userId : UserId) (isSilentCredChange : Bool)
  /-- `USER_CREDENTIAL_UPDATED_EVENT`, whose account is given as a text. -/
  | credentialUpdated (userId : UserId) (authType credentialCount : String)
  deriving DecidableEq, Repr

namespace SettingsOperation

def userId : SettingsOperation → UserId
  | setUnlockPolicy _ userId _ | setScreenLockDisabled _ _ userId | onActiveUser userId
  | onRemoveUser userId | addPinCred _ userId _ | credentialUpdated userId _ _ => userId

def kind : SettingsOperation → SettingKind
  | setUnlockPolicy .. | onRemoveUser _ => .unlockPolicy
  | setScreenLockDisabled .. | onActiveUser _ | addPinCred .. | credentialUpdated .. =>
      .disabledFlag

def event (env : Environment) : SettingsOperation → ServiceEvent
  | setUnlockPolicy caller userId policy => .call env caller (.setUnlockPolicy userId policy)
  | setScreenLockDisabled caller disable userId =>
      .call env caller (.setScreenLockDisabled disable userId)
  | onActiveUser targetUser => .notify env (.activeUser targetUser)
  | onRemoveUser userId => .notify env (.removeUser userId)
  | addPinCred callingUid userId isSilentCredChange =>
      .notify env (.credChange callingUid userId .pin .addCred isSilentCredChange)
  | credentialUpdated userId authType credentialCount =>
      .notify env (.credentialUpdated (toString userId) authType credentialCount)

end SettingsOperation

namespace ScreenLockSystemAbility

/-- What is stored for a setting. -/
def stored (ability : ScreenLockSystemAbility) (kind : SettingKind) (user : UserId) :
    Option PreferencesValue :=
  ability.preferences.memory[kind.key user]?

/-- What is on disk for it. -/
def durable (ability : ScreenLockSystemAbility) (kind : SettingKind) (user : UserId) :
    Option PreferencesValue :=
  ability.preferences.disk[kind.key user]?

/-- The service after operations, each with the answers of the platform. -/
def operated (ability : ScreenLockSystemAbility)
    (operations : List (Environment × SettingsOperation)) : ScreenLockSystemAbility :=
  machine.run ability (operations.map fun entry => entry.2.event entry.1)

theorem operated_concat (ability : ScreenLockSystemAbility)
    (operations : List (Environment × SettingsOperation)) (env : Environment)
    (operation : SettingsOperation) :
    ability.operated (operations ++ [(env, operation)]) =
      (ability.operated operations).step (operation.event env) := by
  unfold operated
  rw [List.map_append, List.map_singleton, machine.run_concat]
  rfl

/-- Every operation keeps to the setting of its account. -/
structure SettingsIsolated (ability : ScreenLockSystemAbility)
    (operations : List (Environment × SettingsOperation)) : Prop where
  /-- It changes no setting of another account. -/
  users : ∀ before env operation, before ++ [(env, operation)] <+: operations →
    ∀ kind user, user ≠ operation.userId →
      (ability.operated (before ++ [(env, operation)])).stored kind user =
        (ability.operated before).stored kind user
  /-- It changes no setting of another kind. -/
  kinds : ∀ before env operation, before ++ [(env, operation)] <+: operations →
    ∀ kind user, kind ≠ operation.kind →
      (ability.operated (before ++ [(env, operation)])).stored kind user =
        (ability.operated before).stored kind user
  /-- What it leaves on disk of those is what was there or was to be read before. -/
  flushes : ∀ before env operation, before ++ [(env, operation)] <+: operations →
    ∀ kind user, user ≠ operation.userId ∨ kind ≠ operation.kind →
      (ability.operated (before ++ [(env, operation)])).durable kind user =
          (ability.operated before).durable kind user ∨
        (ability.operated (before ++ [(env, operation)])).durable kind user =
          (ability.operated before).stored kind user
  /-- A value that was not there at first is read as it was stored. -/
  types : ∀ before, before <+: operations → ∀ kind user value,
    (ability.operated before).stored kind user = some value →
      ability.stored kind user = some value ∨
        ∀ access, access.handle = true →
          SettingKind.read access user (ability.operated before).preferences kind = value

section Steps

variable {ability : ScreenLockSystemAbility} {env : Environment}
  {operation : SettingsOperation}

theorem written_operation {written : String} (hwrites : Writes (operation.event env) written) :
    written = operation.kind.key operation.userId := by
  cases operation <;> cases hwrites <;> rfl

/-- Only the setting of its own account and kind can change. -/
theorem stored_step {kind : SettingKind} {user : UserId}
    (hother : user ≠ operation.userId ∨ kind ≠ operation.kind) :
    (ability.step (operation.event env)).stored kind user = ability.stored kind user := by
  unfold stored
  rw [step_preferences, StoreAction.apply_memory]
  split
  next => rfl
  next written value hwrite =>
    have hkey := written_operation (writes_of_key (StoreAction.key_of_write hwrite))
    rw [if_neg fun hsame => ?_]
    obtain ⟨hkind, huser⟩ := SettingKind.key_inj (hkey.symm.trans hsame)
    rcases hother with hne | hne
    · exact hne huser.symm
    · exact hne hkind.symm

theorem durable_step {kind : SettingKind} {user : UserId}
    (hother : user ≠ operation.userId ∨ kind ≠ operation.kind) :
    (ability.step (operation.event env)).durable kind user = ability.durable kind user ∨
      (ability.step (operation.event env)).durable kind user = ability.stored kind user := by
  have hstored := @stored_step ability env operation kind user hother
  unfold durable
  rw [step_preferences, StoreAction.apply_disk]
  split
  next =>
    rw [← hstored, stored, step_preferences]
    exact Or.inr rfl
  next => exact Or.inl rfl

theorem typed_freshAction {disable : Bool} {userId : UserId} {put refresh : PreferencesAccess}
    {written : String} {value : PreferencesValue}
    (hsave : ability.freshAction env disable userId = .save put refresh written value) :
    SettingKind.disabledFlag.Typed value := by
  unfold freshAction at hsave
  split at hsave
  next => cases hsave
  next =>
    cases hsave
    exact Option.some_ne_none disable

/-- What an operation puts has the type of its kind. -/
theorem typed_operation {put refresh : PreferencesAccess} {written : String}
    {value : PreferencesValue}
    (hsave : ability.storeAction (operation.event env) = .save put refresh written value) :
    operation.kind.Typed value := by
  cases operation with
  | setUnlockPolicy caller userId policy =>
      simp only [SettingsOperation.event, storeAction, performAction, policyAction] at hsave
      split at hsave
      next =>
        split at hsave
        next => cases hsave
        next =>
          cases hsave
          exact Option.some_ne_none policy
      next => cases hsave
  | setScreenLockDisabled caller disable userId =>
      simp only [SettingsOperation.event, storeAction, performAction] at hsave
      split at hsave
      next => exact typed_freshAction hsave
      next => cases hsave
  | onActiveUser targetUser =>
      simp only [SettingsOperation.event, storeAction, noticeAction, initAction] at hsave
      split at hsave
      next => cases hsave
      next =>
        cases hsave
        exact Option.some_ne_none false
  | onRemoveUser userId =>
      simp only [SettingsOperation.event, storeAction, noticeAction] at hsave
      split at hsave <;> cases hsave
  | addPinCred callingUid userId isSilentCredChange =>
      simp only [SettingsOperation.event, storeAction, noticeAction] at hsave
      split at hsave
      next => exact typed_freshAction hsave
      next => cases hsave
  | credentialUpdated userId authType credentialCount =>
      simp only [SettingsOperation.event, storeAction, noticeAction] at hsave
      split at hsave <;> cases hsave

/-- A stored value was there before the step, or the operation put it. -/
theorem stored_step_or_typed {kind : SettingKind} {user : UserId} {value : PreferencesValue}
    (hstored : (ability.step (operation.event env)).stored kind user = some value) :
    ability.stored kind user = some value ∨ kind.Typed value := by
  unfold stored at hstored
  rw [step_preferences, StoreAction.apply_memory] at hstored
  split at hstored
  next => exact Or.inl hstored
  next written update hwrite =>
    split at hstored
    next hsame =>
      subst hstored
      obtain ⟨put, refresh, hsave, -⟩ := StoreAction.eq_save_of_put hwrite
      have hkey := written_operation (writes_of_key (StoreAction.key_of_write hwrite))
      obtain ⟨rfl, -⟩ := SettingKind.key_inj (hkey.symm.trans hsame)
      exact Or.inr (typed_operation hsave)
    next => exact Or.inl hstored

end Steps

theorem typed_operated (ability : ScreenLockSystemAbility)
    (operations : List (Environment × SettingsOperation)) {kind : SettingKind} {user : UserId}
    {value : PreferencesValue}
    (hstored : (ability.operated operations).stored kind user = some value) :
    ability.stored kind user = some value ∨ kind.Typed value := by
  induction operations using List.reverseRecOn with
  | nil => exact Or.inl hstored
  | append_singleton past entry ih =>
      rw [operated_concat] at hstored
      rcases stored_step_or_typed hstored with hbefore | htyped
      · exact ih hbefore
      · exact Or.inr htyped

/-- The settings of different accounts and of different kinds never meet. -/
theorem settings_isolated (ability : ScreenLockSystemAbility)
    (operations : List (Environment × SettingsOperation)) :
    SettingsIsolated ability operations where
  users before env operation _ kind user hother := by
    rw [operated_concat]
    exact stored_step (Or.inl hother)
  kinds before env operation _ kind user hother := by
    rw [operated_concat]
    exact stored_step (Or.inr hother)
  flushes before env operation _ kind user hother := by
    rw [operated_concat]
    exact durable_step hother
  types before _ kind user value hstored := by
    refine (typed_operated ability before hstored).imp_right fun htyped access hhandle => ?_
    exact SettingKind.read_of_typed htyped hhandle hstored

end ScreenLockSystemAbility

end Screenlock
