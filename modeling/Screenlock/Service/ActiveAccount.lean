import Screenlock.Service.Mediation
import Screenlock.Service.StoreSteps

/-! # When the active account cannot be told

`GetCurrentActiveOsAccountId` answers a failed query with `SCREEN_FAIL`, which is
an account id like any other. Three functions use the answer: two compare an
account with it, one takes it for an account.
-/

namespace Screenlock

/-- The account a successful query reports as active. -/
def Environment.activeAccount (env : Environment) : Option UserId :=
  env.activeOsAccountIds.bind List.head?

theorem Environment.currentActiveOsAccountId_eq (env : Environment) :
    env.currentActiveOsAccountId = env.activeAccount.getD ScreenChange.screenFail := by
  unfold currentActiveOsAccountId activeAccount
  split
  next hfailed => simp [hfailed]
  next hempty => simp [hempty]
  next hlisted => simp [hlisted]

namespace ScreenLockSystemAbility

/-- The functions that ask for the active account. -/
inductive FlagEntry where
  | setScreenLockDisabled (caller : Caller) (disable : Bool) (userId : UserId)
  | onNotifyCredChangeEvent (callingUid : Int) (userId : UserId) (authType : AuthType)
      (eventType : CredChangeEventType) (isSilentCredChange : Bool)
  | initUserId

def FlagEntry.event (env : Environment) : FlagEntry → ServiceEvent
  | setScreenLockDisabled caller disable userId =>
      .call env caller (.setScreenLockDisabled disable userId)
  | onNotifyCredChangeEvent callingUid userId authType eventType isSilentCredChange =>
      .notify env (.credChange callingUid userId authType eventType isSilentCredChange)
  | initUserId => .notify env .initUserId

variable (env : Environment) (ability : ScreenLockSystemAbility)

/-- Only the flag of an account that a successful query reports is written, and
without such an account no call is granted. -/
structure TellsAccounts (entry : FlagEntry) : Prop where
  writes : ∀ key value, (ability.storeAction (entry.event env)).write = some (key, value) →
    ∃ userId, env.activeAccount = some userId ∧ key = disabledKey userId
  refuses : env.activeAccount = none → ∀ caller disable userId,
    entry = .setScreenLockDisabled caller disable userId →
      (ability.handle env caller (.setScreenLockDisabled disable userId)).1 ≠ .error .ok

/-- The store is there, the flag of the account reads as `current`, and it can be written. -/
def CanChange (userId : UserId) (current : Bool) : Prop :=
  env.preferencesUtil = true ∧
    ability.preferences.obtainBool (env.preferences 0) (disabledKey userId) false = current ∧
      (env.preferences 1).handle = true ∧ (env.preferences 1).writes = true

/-- With `SCREEN_FAIL` in the place of the active account the entry gets through. -/
def ActsOnScreenFail : FlagEntry → Prop
  | .setScreenLockDisabled caller disable userId =>
      userId = ScreenChange.screenFail ∧ ¬ (disable = true ∧ getSecure env caller = true) ∧
        caller.checkPermission accessScreenLock = true ∧ env.preferencesUtil = true
  | .onNotifyCredChangeEvent callingUid userId authType eventType _ =>
      callingUid = idmUid ∧ userId = ScreenChange.screenFail ∧ authType = .pin ∧
        eventType = .addCred ∧ ability.CanChange env ScreenChange.screenFail true
  | .initUserId => ability.CanChange env ScreenChange.screenFail false

section Writes

variable {env} {ability}

theorem freshAction_write {disable : Bool} {userId : UserId} {key : String}
    {value : Option PreferencesValue} :
    (ability.freshAction env disable userId).write = some (key, value) ↔
      ability.CanChange env userId (!disable) ∧ key = disabledKey userId ∧
        value = some (.bool disable) := by
  unfold freshAction CanChange
  cases hutil : env.preferencesUtil with
  | false => simp [StoreAction.write]
  | true =>
      cases hhandle : (env.preferences 1).handle <;>
        cases hwrites : (env.preferences 1).writes <;>
          cases hcurrent : ability.preferences.obtainBool (env.preferences 0)
            (disabledKey userId) false <;>
            cases disable <;> simp [StoreAction.write, hhandle, hwrites, eq_comm]

theorem initAction_write {userId : UserId} {key : String} {value : Option PreferencesValue} :
    (ability.initAction env userId).write = some (key, value) ↔
      ability.CanChange env userId false ∧ key = disabledKey userId ∧
        value = some (.bool false) := by
  unfold initAction CanChange
  cases hutil : env.preferencesUtil with
  | false => simp [StoreAction.write]
  | true =>
      cases hhandle : (env.preferences 1).handle <;>
        cases hwrites : (env.preferences 1).writes <;>
          cases hcurrent : ability.preferences.obtainBool (env.preferences 0)
            (disabledKey userId) false <;>
            simp [StoreAction.write, hhandle, hwrites, eq_comm]

theorem setScreenLockDisabled_ok_iff {caller : Caller} {disable : Bool} {userId : UserId} :
    (ability.handle env caller (.setScreenLockDisabled disable userId)).1 = .error .ok ↔
      accepts env caller ability (.setScreenLockDisabled disable userId) = true ∧
        env.preferencesUtil = true :=
  (handle_ok_iff env caller ability _).trans
    (and_congr_right fun _ => freshDisabledState_ok_iff env)

theorem accepts_setScreenLockDisabled_iff {caller : Caller} {disable : Bool} {userId : UserId} :
    accepts env caller ability (.setScreenLockDisabled disable userId) = true ↔
      env.currentActiveOsAccountId = userId ∧ ¬ (disable = true ∧ getSecure env caller = true) ∧
        caller.checkPermission accessScreenLock = true := by
  cases disable <;> simp [accepts, and_assoc]

/-- What an entry writes is the flag of the account it takes for the active one, and
only what gets through writes. -/
theorem flagEntry_write {entry : FlagEntry} {key : String} {value : Option PreferencesValue}
    (hwrite : (ability.storeAction (entry.event env)).write = some (key, value)) :
    key = disabledKey env.currentActiveOsAccountId ∧ match entry with
      | .setScreenLockDisabled caller disable userId =>
          accepts env caller ability (.setScreenLockDisabled disable userId) = true ∧
            env.preferencesUtil = true
      | .onNotifyCredChangeEvent callingUid userId authType eventType _ =>
          (callingUid = idmUid ∧ env.currentActiveOsAccountId = userId ∧ authType = .pin ∧
            eventType = .addCred) ∧ ability.CanChange env userId true
      | .initUserId => ability.CanChange env env.currentActiveOsAccountId false := by
  cases entry with
  | setScreenLockDisabled caller disable userId =>
      simp only [FlagEntry.event, storeAction] at hwrite
      split at hwrite
      next haccepts =>
        obtain ⟨hactive, _⟩ := accepts_setScreenLockDisabled_iff.mp haccepts
        obtain ⟨⟨hutil, _⟩, hkey, _⟩ := freshAction_write.mp hwrite
        exact ⟨hactive ▸ hkey, haccepts, hutil⟩
      next => cases hwrite
  | onNotifyCredChangeEvent callingUid userId authType eventType isSilentCredChange =>
      simp only [FlagEntry.event, storeAction, noticeAction] at hwrite
      split at hwrite
      next hnotified =>
        obtain ⟨hchange, hkey, _⟩ := freshAction_write.mp hwrite
        exact ⟨hnotified.2.1 ▸ hkey, hnotified, hchange⟩
      next => cases hwrite
  | initUserId =>
      obtain ⟨hchange, hkey, _⟩ := initAction_write.mp hwrite
      exact ⟨hkey, hchange⟩

end Writes

variable {env} {ability}

theorem acts_of_write (hnone : env.activeAccount = none) {entry : FlagEntry} {key : String}
    {value : Option PreferencesValue}
    (hwrite : (ability.storeAction (entry.event env)).write = some (key, value)) :
    ability.ActsOnScreenFail env entry := by
  have hfail : env.currentActiveOsAccountId = ScreenChange.screenFail := by
    rw [env.currentActiveOsAccountId_eq, hnone]
    rfl
  obtain ⟨_, hentry⟩ := flagEntry_write hwrite
  cases entry with
  | setScreenLockDisabled caller disable userId =>
      obtain ⟨haccepts, hutil⟩ := hentry
      obtain ⟨hactive, hopen, hpermission⟩ := accepts_setScreenLockDisabled_iff.mp haccepts
      exact ⟨hactive.symm.trans hfail, hopen, hpermission, hutil⟩
  | onNotifyCredChangeEvent callingUid userId authType eventType isSilentCredChange =>
      obtain ⟨⟨hidm, hactive, hpin, hadded⟩, hchange⟩ := hentry
      obtain rfl := hfail.symm.trans hactive
      exact ⟨hidm, rfl, hpin, hadded, hchange⟩
  | initUserId => rwa [hfail] at hentry

/-- An entry keeps a failed query apart from an account exactly if the query does
not fail, or the entry does not get through for account 1. -/
theorem tellsAccounts_iff (env : Environment) (ability : ScreenLockSystemAbility)
    (entry : FlagEntry) :
    ability.TellsAccounts env entry ↔
      (env.activeAccount = none → ¬ ability.ActsOnScreenFail env entry) := by
  have hactive := env.currentActiveOsAccountId_eq
  constructor
  · intro htells hnone hacts
    rw [hnone, Option.getD_none] at hactive
    have hnowrite : ∀ key value,
        (ability.storeAction (entry.event env)).write ≠ some (key, value) := by
      intro key value hwrite
      obtain ⟨userId, hsome, _⟩ := htells.writes key value hwrite
      rw [hnone] at hsome
      cases hsome
    cases entry with
    | setScreenLockDisabled caller disable userId =>
        obtain ⟨rfl, hopen, hpermission, hutil⟩ := hacts
        refine htells.refuses hnone caller disable _ rfl ?_
        refine setScreenLockDisabled_ok_iff.mpr ⟨?_, hutil⟩
        exact accepts_setScreenLockDisabled_iff.mpr ⟨hactive, hopen, hpermission⟩
    | onNotifyCredChangeEvent callingUid userId authType eventType isSilentCredChange =>
        obtain ⟨rfl, rfl, rfl, rfl, hchange⟩ := hacts
        apply hnowrite (disabledKey ScreenChange.screenFail) (some (.bool false))
        rw [FlagEntry.event, storeAction, noticeAction, if_pos ⟨rfl, hactive, rfl, rfl⟩]
        exact freshAction_write.mpr ⟨hchange, rfl, rfl⟩
    | initUserId =>
        apply hnowrite (disabledKey ScreenChange.screenFail) (some (.bool false))
        rw [FlagEntry.event, storeAction, noticeAction, hactive]
        exact initAction_write.mpr ⟨hacts, rfl, rfl⟩
  · intro hspared
    constructor
    · intro key value hwrite
      cases haccount : env.activeAccount with
      | none => exact absurd (acts_of_write haccount hwrite) (hspared haccount)
      | some userId =>
          rw [haccount, Option.getD_some] at hactive
          exact ⟨userId, rfl, hactive ▸ (flagEntry_write hwrite).1⟩
    · rintro hnone caller disable userId rfl hok
      obtain ⟨haccepts, hutil⟩ := setScreenLockDisabled_ok_iff.mp hok
      obtain ⟨hsame, hopen, hpermission⟩ := accepts_setScreenLockDisabled_iff.mp haccepts
      rw [hnone, Option.getD_none] at hactive
      exact hspared hnone ⟨hsame.symm.trans hactive, hopen, hpermission, hutil⟩

/-- A platform that does not tell its active account. -/
def queryDenied : Environment := { Environment.single 100 with activeOsAccountIds := none }

/-- Without an active account the flag of account 1 is set. -/
theorem screenFail_taken_for_account :
    ((started ∅).handle queryDenied (.privileged 1) (.setScreenLockDisabled true 1)).1 =
        .error .ok ∧
      ((started ∅).handle queryDenied (.privileged 1)
        (.setScreenLockDisabled true 1)).2.preferences.memory[disabledKey 1]? =
          some (.bool true) ∧
      ¬ (started ∅).TellsAccounts queryDenied
        (.setScreenLockDisabled (.privileged 1) true 1) := by
  refine ⟨by decide, by decide, fun htells => ?_⟩
  exact htells.refuses rfl (.privileged 1) true 1 rfl (by decide)

end ScreenLockSystemAbility

end Screenlock
