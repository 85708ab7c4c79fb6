import Screenlock.Service.Mediation
import Screenlock.Service.StoreSteps

/-! # Whether a setting is stored

`SetUnlockPolicy` and `SetScreenLockDisabled` read the stored value, write the
new one where it differs, and report success without a look at what the write
answered. A read that fails answers the default, which may be the new value.
-/

namespace Screenlock

open ScreenLockSystemAbility

/-- The calls that change a setting of an account. -/
inductive SettingsCall where
  | setUnlockPolicy (userId : UserId) (policy : Int)
  | setScreenLockDisabled (disable : Bool) (userId : UserId)
  deriving DecidableEq, Repr

namespace SettingsCall

def request : SettingsCall → Request
  | setUnlockPolicy userId policy => .setUnlockPolicy userId policy
  | setScreenLockDisabled disable userId => .setScreenLockDisabled disable userId

def key : SettingsCall → String
  | setUnlockPolicy userId _ => unlockPolicyKey userId
  | setScreenLockDisabled _ userId => disabledKey userId

def value : SettingsCall → PreferencesValue
  | setUnlockPolicy _ policy => .int policy
  | setScreenLockDisabled disable _ => .bool disable

/-- What a read answers where nothing is stored. -/
def defValue : SettingsCall → PreferencesValue
  | setUnlockPolicy _ _ => .int 0
  | setScreenLockDisabled _ _ => .bool false

/-- What the call reads at its first access. -/
def obtained (env : Environment) (store : Preferences) : SettingsCall → PreferencesValue
  | setUnlockPolicy userId _ =>
      .int (store.obtainInt (env.preferences 0) (unlockPolicyKey userId) 0)
  | setScreenLockDisabled _ userId =>
      .bool (store.obtainBool (env.preferences 0) (disabledKey userId) false)

/-- The store holds the value of the call, or nothing where that is the default. -/
def InEffect (store : Preferences) (call : SettingsCall) : Prop :=
  store.memory[call.key]? = some call.value ∨
    (call.value = call.defValue ∧ store.memory[call.key]? = none)

instance (store : Preferences) (call : SettingsCall) : Decidable (call.InEffect store) :=
  inferInstanceAs (Decidable (_ ∨ _))

/-- The change of the unlock policy is announced. -/
def AnnouncesPolicy (effects : List Effect) : Prop :=
  ∃ listener event, Effect.systemEvent listener event ∈ effects ∧
    event.eventType = SystemEvent.unlockPolicyChange

/-- A success means that the setting is in effect, and a setting that is not is
neither reported nor announced. -/
structure TookEffect (env : Environment) (caller : Caller) (ability : ScreenLockSystemAbility)
    (call : SettingsCall) : Prop where
  success : (ability.readied.handle env caller call.request).1 = .error .ok →
    call.InEffect (ability.readied.handle env caller call.request).2.preferences
  failure : ¬ call.InEffect (ability.readied.handle env caller call.request).2.preferences →
    (ability.readied.handle env caller call.request).1 ≠ .error .ok ∧
      ¬ AnnouncesPolicy (ability.readied.handle env caller call.request).2.sent

/-- The call is turned down: by its checks, or for want of a store. -/
def TurnedDown (env : Environment) (caller : Caller) (ability : ScreenLockSystemAbility)
    (call : SettingsCall) : Prop :=
  accepts env caller ability call.request = false ∨ env.preferencesUtil = false

/-- The call finds another value and puts its own at the second access. -/
def Puts (env : Environment) (store : Preferences) (call : SettingsCall) : Prop :=
  call.obtained env store ≠ call.value ∧ (env.preferences 1).handle = true ∧
    (env.preferences 1).writes = true

variable {env : Environment} {caller : Caller} {ability : ScreenLockSystemAbility}
  {call : SettingsCall}

theorem handle_ok_iff_not_turnedDown :
    (ability.readied.handle env caller call.request).1 = .error .ok ↔
      ¬ call.TurnedDown env caller ability := by
  have haccepts : accepts env caller ability.readied call.request =
      accepts env caller ability call.request := by
    cases call <;> rfl
  rw [handle_ok_iff, haccepts, TurnedDown, not_or, Bool.not_eq_false, Bool.not_eq_false]
  refine and_congr_right fun hpassed => ?_
  cases call with
  | setUnlockPolicy userId policy =>
      simp only [request, accepts, Bool.and_eq_true] at hpassed
      exact iff_of_true rfl hpassed.1.2
  | setScreenLockDisabled disable userId => exact freshDisabledState_ok_iff env

/-- What an accepted call asks of the store. -/
theorem performAction_eq (hutil : env.preferencesUtil = true) :
    ability.performAction env call.request =
      if call.obtained env ability.preferences = call.value then .keep
      else .save (env.preferences 1) (env.preferences 2) call.key call.value := by
  cases call with
  | setUnlockPolicy userId policy =>
      simp [request, performAction, policyAction, obtained, value, key]
  | setScreenLockDisabled disable userId =>
      simp [request, performAction, freshAction, obtained, value, key, hutil, eq_comm]

theorem inEffect_handle (hgranted : ¬ call.TurnedDown env caller ability) :
    call.InEffect (ability.readied.handle env caller call.request).2.preferences ↔
      call.InEffect ability.preferences ∨ call.Puts env ability.preferences := by
  rw [TurnedDown, not_or, Bool.not_eq_false, Bool.not_eq_false] at hgranted
  have haccepts : accepts env caller ability.readied call.request = true := by
    rw [← hgranted.1]
    cases call <;> rfl
  have hstore : (ability.readied.handle env caller call.request).2.preferences =
      (ability.performAction env call.request).apply ability.preferences := by
    rw [handle_eq, if_pos haccepts]
    exact ability.readied.perform_preferences env caller call.request
  rw [hstore, InEffect, StoreAction.apply_memory, performAction_eq hgranted.2, Puts]
  by_cases hsame : call.obtained env ability.preferences = call.value
  · simp [hsame, StoreAction.write, InEffect]
  · cases hhandle : (env.preferences 1).handle <;> cases hwrites : (env.preferences 1).writes <;>
      simp [hsame, StoreAction.write, InEffect, hhandle, hwrites]

/-- A settings call that reports success took effect exactly if it is turned
down, sets what is in effect already, or finds another value and its put succeeds. -/
theorem tookEffect_iff (env : Environment) (caller : Caller) (ability : ScreenLockSystemAbility)
    (call : SettingsCall) :
    call.TookEffect env caller ability ↔
      call.TurnedDown env caller ability ∨ call.InEffect ability.preferences ∨
        call.Puts env ability.preferences := by
  by_cases hdown : call.TurnedDown env caller ability
  · refine iff_of_true ⟨fun hok => absurd hdown (handle_ok_iff_not_turnedDown.mp hok), ?_⟩
      (Or.inl hdown)
    intro _
    have hfailed := mt handle_ok_iff_not_turnedDown.mp (not_not.mpr hdown)
    refine ⟨hfailed, ?_⟩
    rintro ⟨listener, event, hmem, _⟩
    rw [handle_eq] at hmem
    split at hmem
    next haccepts =>
      -- accepted and yet not performed: there is no store
      have hkept := perform_failed fun hok => hfailed ((handle_ok_iff env caller _ _).mpr
        ⟨haccepts, hok⟩)
      rw [hkept] at hmem
      cases hmem
    next => cases hmem
  · rw [or_iff_right hdown, ← inEffect_handle hdown]
    have hok := handle_ok_iff_not_turnedDown.mpr hdown
    exact ⟨fun htook => htook.success hok,
      fun heffect => ⟨fun _ => heffect, fun hnot => absurd heffect hnot⟩⟩

/-- A service with a lock-screen application, for which the account is known. -/
def knownAccount : ScreenLockSystemAbility :=
  { started ∅ with
    systemEventListener := some 7
    authStateInfo := Std.TreeMap.insert ∅ 100 AuthState.unauth }

/-- A preference store that refuses the put of the second access. -/
def putFails : Environment :=
  { Environment.single 100 with preferences := fun access => ⟨true, access ≠ 1⟩ }

/-- A policy that could not be stored is reported as set and announced. -/
theorem unstored_policy_reported :
    ¬ (setUnlockPolicy 100 3).TookEffect putFails
        ⟨1, 1000, .native, false, [accessScreenLock]⟩ knownAccount ∧
      AnnouncesPolicy (knownAccount.readied.handle putFails
        ⟨1, 1000, .native, false, [accessScreenLock]⟩ (.setUnlockPolicy 100 3)).2.sent := by
  constructor
  · intro htook
    have hstored := htook.success (by decide)
    revert hstored
    decide
  · exact ⟨7, _, List.mem_singleton_self _, rfl⟩

end SettingsCall

end Screenlock
