import Screenlock.Service.Steps
import Screenlock.InnerListener.Coherence

/-! # What a caller has to hold, and what a refusal leaves behind

Every method that can change the service checks its caller before it acts. A
method that reports anything but success has changed nothing and sent nothing,
also where it fails after its checks in an object it passes the call on to.
-/

namespace Screenlock

namespace Caller

variable {caller : Caller}

/-- A system application or a native process. -/
def Trusted (caller : Caller) : Prop :=
  caller.systemApp = true ∨ caller.tokenType = .native

theorem checkPermission_iff (permissionName : String) :
    caller.checkPermission permissionName = true ↔ permissionName ∈ caller.permissions := by
  simp [checkPermission]

theorem checkSystemPermission_iff : caller.checkSystemPermission = false ↔ caller.Trusted := by
  unfold checkSystemPermission Trusted
  cases caller.systemApp <;> simp

end Caller

namespace ScreenLockSystemAbility

open Caller

variable (env : Environment) (caller : Caller) (ability : ScreenLockSystemAbility)

/-- The privilege each operation asks of its caller. -/
def HasPrivilege : Request → Prop
  | .unlockScreen _ =>
      caller.tokenType = .native ∨ env.isAppInForeground caller = true ∨
        accessScreenLock ∈ caller.permissions
  | .unlock _ =>
      caller.systemApp = true ∧ (caller.tokenType = .native ∨
        env.isAppInForeground caller = true ∨ accessScreenLock ∈ caller.permissions)
  | .lock _ | .onSystemEvent _ | .sendScreenLockEvent _ _ =>
      caller.systemApp = true ∧ accessScreenLockInner ∈ caller.permissions
  | .lockUser _ => accessScreenLockInner ∈ caller.permissions
  | .setScreenLockAuthState _ _ =>
      caller.Trusted ∧ accessScreenLockInner ∈ caller.permissions
  | .requestStrongAuth _ _ => caller.Trusted ∧ accessScreenLock ∈ caller.permissions
  | .registerInnerListener _ _ listenType _ | .unRegisterInnerListener _ listenType _ =>
      caller.Trusted ∧
        (listenType = ListenType.strongAuth → accessScreenLock ∈ caller.permissions)
  | .setScreenLockDisabled _ _ => accessScreenLock ∈ caller.permissions
  | .setUnlockPolicy _ _ =>
      caller.tokenType = .native ∧ accessScreenLock ∈ caller.permissions

/-- The checks of a request are passed by callers that hold its privilege only. -/
theorem hasPrivilege_of_accepts {request : Request}
    (haccepts : accepts env caller ability request = true) : HasPrivilege env caller request := by
  have hunlock : mayUnlock env caller = true ↔ caller.tokenType = .native ∨
      env.isAppInForeground caller = true ∨ accessScreenLock ∈ caller.permissions := by
    simp [mayUnlock, Caller.isNativeAccess, checkPermission_iff, or_assoc]
  have hcontrol : mayControl caller = true ↔
      caller.systemApp = true ∧ accessScreenLockInner ∈ caller.permissions := by
    simp [mayControl, checkPermission_iff]
  cases request with
  | unlockScreen listener => exact hunlock.mp haccepts
  | unlock listener =>
      obtain ⟨hsystem, hmay⟩ := (Bool.and_eq_true _ _).mp haccepts
      exact ⟨hsystem, hunlock.mp hmay⟩
  | lock listener => exact hcontrol.mp haccepts
  | lockUser userId => exact (checkPermission_iff _).mp haccepts
  | onSystemEvent listener => exact hcontrol.mp haccepts
  | sendScreenLockEvent event param => exact hcontrol.mp haccepts
  | setScreenLockDisabled disable userId =>
      obtain ⟨_, hpermission⟩ := (Bool.and_eq_true _ _).mp haccepts
      exact (checkPermission_iff _).mp hpermission
  | setScreenLockAuthState authState userId =>
      simpa [accepts, checkSystemPermission_iff, checkPermission_iff, HasPrivilege] using haccepts
  | requestStrongAuth reasonFlag userId =>
      simpa [accepts, checkSystemPermission_iff, checkPermission_iff, HasPrivilege] using haccepts
  | setUnlockPolicy userId policy =>
      simp only [accepts, Bool.and_eq_true, checkPermission_iff] at haccepts
      exact ⟨of_decide_eq_true haccepts.1.1.2, haccepts.1.1.1⟩
  | registerInnerListener attaches userId listenType listener =>
      simpa [accepts, checkSystemPermission_iff, checkPermission_iff, HasPrivilege,
        imp_iff_not_or] using haccepts
  | unRegisterInnerListener userId listenType listener =>
      simpa [accepts, checkSystemPermission_iff, checkPermission_iff, HasPrivilege,
        imp_iff_not_or] using haccepts

/-- Success is reported for accepted requests that succeed, and for no other. -/
theorem handle_ok_iff (request : Request) :
    (ability.handle env caller request).1 = .error .ok ↔
      accepts env caller ability request = true ∧
        performed env caller ability request = .ok := by
  rcases ability.handle_cases env caller request with
    ⟨haccepts, heq⟩ | ⟨hrefuses, code, hcode, heq⟩
  · simp [heq, haccepts]
  · simp [heq, hrefuses, hcode]

section Failures

/-! Where an accepted request can still fail, it fails before it changes anything. -/

variable {ability}

theorem freshDisabledState_ok_iff {disable : Bool} {userId : UserId} :
    (ability.freshDisabledState env disable userId).1 = .ok ↔ env.preferencesUtil = true := by
  unfold freshDisabledState
  cases env.preferencesUtil with
  | false => exact iff_of_false ScreenLockError.noConfusion Bool.noConfusion
  | true =>
      rw [if_neg Bool.noConfusion]
      split <;> exact iff_of_true rfl rfl

theorem freshDisabledState_failed {disable : Bool} {userId : UserId}
    (hfailed : (ability.freshDisabledState env disable userId).1 ≠ .ok) :
    (ability.freshDisabledState env disable userId).2 = ability := by
  unfold freshDisabledState at hfailed ⊢
  split at hfailed
  · next hutil => rw [if_pos hutil]
  · split at hfailed <;> exact absurd rfl hfailed

end Failures

end ScreenLockSystemAbility

namespace InnerListenerManager

variable (manager : InnerListenerManager)

theorem addDeathRecipient_failed {attaches : Bool} {listenType : ListenType}
    {listener : InnerListener}
    (hfailed : (manager.addDeathRecipient attaches listenType listener).1 ≠ .ok) :
    (manager.addDeathRecipient attaches listenType listener).2 = manager := by
  cases hlive : listener.asObject with
  | none => simp [addDeathRecipient, hlive]
  | some obj =>
      simp only [addDeathRecipient, hlive] at hfailed ⊢
      split
      · rfl
      · next hunwatched =>
          rw [if_neg hunwatched] at hfailed
          cases attaches with
          | false => rfl
          | true => exact absurd rfl hfailed

theorem registerInnerListener_failed {callingUser userId : UserId} {attaches : Bool}
    {listenType : ListenType} {listener : Option InnerListener}
    (hfailed : (manager.registerInnerListener callingUser attaches userId listenType
      listener).1 ≠ .ok) :
    (manager.registerInnerListener callingUser attaches userId listenType listener).2 =
      manager := by
  cases listener with
  | none => rfl
  | some listener =>
      simp only [registerInnerListener] at hfailed ⊢
      split
      · next hwatch => exact manager.addDeathRecipient_failed hwatch
      · next hwatch =>
          rw [if_neg hwatch] at hfailed
          exact absurd rfl hfailed

theorem unRegisterInnerListener_failed {listenType : ListenType}
    {listener : Option InnerListener}
    (hfailed : (manager.unRegisterInnerListener listenType listener).1 ≠ .ok) :
    (manager.unRegisterInnerListener listenType listener).2 = manager := by
  cases listener with
  | none => rfl
  | some listener =>
      cases hlive : listener.asObject with
      | none => exact manager.unRegisterInnerListener_dead listenType listener hlive
      | some obj =>
          -- a live object is always let go of
          have hremoved := manager.removeDeathRecipient_result listener obj hlive
          simp [unRegisterInnerListener, hremoved] at hfailed

end InnerListenerManager

namespace ScreenLockSystemAbility

variable {env : Environment} {caller : Caller} {ability : ScreenLockSystemAbility}

/-- An accepted request that fails has changed nothing. -/
theorem perform_failed {request : Request}
    (hfailed : performed env caller ability request ≠ .ok) :
    ability.perform env caller request = ability := by
  cases request with
  | setScreenLockDisabled disable userId => exact freshDisabledState_failed env hfailed
  | registerInnerListener attaches userId listenType listener =>
      have hsame := ability.innerListeners.registerInnerListener_failed hfailed
      simp only [perform, hsame]
  | unRegisterInnerListener userId listenType listener =>
      have hsame := ability.innerListeners.unRegisterInnerListener_failed hfailed
      simp only [perform, hsame]
  | _ => exact absurd rfl hfailed

/-- Complete mediation with atomic rejection: success is reported to callers
that hold the privilege only, and whatever else is reported, the service is as
it was and has sent nothing. -/
theorem mediated_atomically (env : Environment) (caller : Caller)
    (ability : ScreenLockSystemAbility) (request : Request) :
    (¬ HasPrivilege env caller request →
        (ability.handle env caller request).1 ≠ .error .ok) ∧
      ((ability.handle env caller request).1 ≠ .error .ok →
        (ability.handle env caller request).2 = ability) := by
  rw [ne_eq, handle_ok_iff, handle_eq]
  constructor
  · rintro hunprivileged ⟨haccepts, _⟩
    exact hunprivileged (hasPrivilege_of_accepts env caller ability haccepts)
  · intro hfailed
    split
    · next haccepts => exact perform_failed fun hok => hfailed ⟨haccepts, hok⟩
    · rfl

end ScreenLockSystemAbility

end Screenlock
