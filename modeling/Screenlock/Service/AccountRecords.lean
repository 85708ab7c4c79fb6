import Screenlock.Service.Steps

/-! # What one entry does to the records of an account

The service keeps an authentication state and a lock state for each account. A
removal drops both and an activation enters both where they are missing; a
report of the account's own lock screen and `SetScreenLockAuthState` write one.
-/

namespace Screenlock.ScreenLockSystemAbility

/-- The lock state that a successful report of a caller of the account tells. -/
def reported (userId : UserId) : ServiceEvent → Option Bool
  | .call env caller (.sendScreenLockEvent event param) =>
      if mayControl caller = true ∧ env.userIdFromCallingUid caller = userId then
        if event = unlockScreenResult ∧
            (param = ScreenChange.screenSucc ∨ param = ScreenChange.earlySuccess) then some false
        else if event = lockScreenResult ∧ param = ScreenChange.screenSucc then some true
        else none
      else none
  | _ => none

def activates (userId : UserId) : ServiceEvent → Bool
  | .notify _ (.activeUser targetUser) => targetUser = userId
  | _ => false

def removes (userId : UserId) : ServiceEvent → Bool
  | .notify _ (.removeUser user) => user = userId
  | _ => false

/-- The authentication state that an accepted call stores for the account. -/
def authStated (userId : UserId) : ServiceEvent → Option Int
  | .call _ caller (.setScreenLockAuthState authState user) =>
      if (caller.checkSystemPermission = false ∧
          caller.checkPermission accessScreenLockInner = true) ∧ user = userId then some authState
      else none
  | _ => none

variable {userId : UserId}

/-- A key that is entered only if it is missing. -/
theorem insertIfNew_get {α : Type} (records : Std.TreeMap UserId α) (targetUser : UserId)
    (value : α) :
    (records.insertIfNew targetUser value)[userId]? =
      if targetUser = userId then some (records[userId]?.getD value) else records[userId]? := by
  rw [Std.TreeMap.getElem?_insertIfNew]
  by_cases htarget : targetUser = userId
  · subst htarget
    cases hold : records[targetUser]? <;> simp [Std.TreeMap.mem_iff_isSome_getElem?, hold]
  · simp [htarget]

/-- What a notification does to the records kept by account, `initial` being the
value an account is entered with. -/
def noticed {α : Type} (initial : α) (records : Std.TreeMap UserId α) :
    Notification → Std.TreeMap UserId α
  | .activeUser targetUser => records.insertIfNew targetUser initial
  | .removeUser user => records.erase user
  | _ => records

theorem noticed_get {α : Type} (initial : α) (records : Std.TreeMap UserId α) (env : Environment)
    (notification : Notification) :
    (noticed initial records notification)[userId]? =
      if removes userId (.notify env notification) then none
      else if activates userId (.notify env notification) then
        some (records[userId]?.getD initial)
      else records[userId]? := by
  cases notification with
  | activeUser targetUser =>
      rw [noticed, insertIfNew_get]
      by_cases htarget : targetUser = userId <;> simp [removes, activates, htarget]
  | removeUser user =>
      rw [noticed, Std.TreeMap.getElem?_erase]
      by_cases huser : user = userId <;> simp [removes, activates, huser]
  | _ => rfl

/-- A notification treats both tables alike, each with its own initial entry. -/
theorem onNotification_records (ability : ScreenLockSystemAbility) (env : Environment)
    (notification : Notification) :
    (ability.onNotification env notification).isScreenlockedMap =
        noticed true ability.isScreenlockedMap notification ∧
      (ability.onNotification env notification).authStateInfo =
        noticed AuthState.unauth ability.authStateInfo notification := by
  obtain ⟨store, heq⟩ := ability.onNotification_touches env notification
  rw [heq]
  cases notification with
  | credChange callingUid user authType eventType isSilentCredChange =>
      simp only [notice]
      split <;> exact ⟨rfl, rfl⟩
  | _ => exact ⟨rfl, rfl⟩

theorem perform_isScreenlockedMap (ability : ScreenLockSystemAbility) (env : Environment)
    (caller : Caller) (request : Request) :
    (ability.perform env caller request).isScreenlockedMap =
      match request with
      | .sendScreenLockEvent event param =>
          recordReport (env.userIdFromCallingUid caller) event param ability.isScreenlockedMap
      | _ => ability.isScreenlockedMap := by
  obtain ⟨queue, store, effects, heq⟩ := ability.perform_touches env caller request
  rw [heq]
  cases request <;> rfl

/-- What a request does to the recorded lock states. -/
theorem call_isScreenlockedMap (ability : ScreenLockSystemAbility) (env : Environment)
    (caller : Caller) (request : Request) :
    (ability.step (.call env caller request)).isScreenlockedMap =
      if accepts env caller ability.readied request then
        match request with
        | .sendScreenLockEvent event param =>
            recordReport (env.userIdFromCallingUid caller) event param ability.isScreenlockedMap
        | _ => ability.isScreenlockedMap
      else ability.isScreenlockedMap := by
  change (ability.readied.handle env caller request).2.isScreenlockedMap = _
  rw [handle_eq]
  split
  · exact ability.readied.perform_isScreenlockedMap env caller request
  · rfl

theorem recordReport_get (env : Environment) (caller : Caller) (event : String) (param : Int)
    (hcontrol : mayControl caller = true) (isScreenlockedMap : Std.TreeMap UserId Bool) :
    (recordReport (env.userIdFromCallingUid caller) event param isScreenlockedMap)[userId]? =
      (reported userId (.call env caller (.sendScreenLockEvent event param))).or
        isScreenlockedMap[userId]? := by
  unfold recordReport reported
  simp only [hcontrol, true_and, or_comm]
  by_cases howner : env.userIdFromCallingUid caller = userId
  · rw [if_pos howner]
    split
    · simp [howner]
    · split
      · simp [howner]
      · rfl
  · rw [if_neg howner]
    split
    · simp [Std.TreeMap.getElem?_insert, howner]
    · split
      · simp [Std.TreeMap.getElem?_insert, howner]
      · rfl

/-- What one entry does to the recorded lock state of the account. -/
theorem isScreenlockedMap_step (ability : ScreenLockSystemAbility) (event : ServiceEvent) :
    (ability.step event).isScreenlockedMap[userId]? =
      if removes userId event then none
      else if activates userId event then some (ability.isScreenlockedMap[userId]?.getD true)
      else (reported userId event).or ability.isScreenlockedMap[userId]? := by
  cases event with
  | call env caller request =>
      rw [call_isScreenlockedMap]
      split
      next haccepts =>
        cases request with
        | sendScreenLockEvent event param =>
            exact recordReport_get env caller event param haccepts _
        | _ => rfl
      next hrefused =>
        cases request with
        | sendScreenLockEvent event param =>
            have hcontrol : ¬ mayControl caller = true := hrefused
            simp [removes, activates, reported, hcontrol]
        | _ => rfl
  | notify env notification =>
      change (ability.readied.onNotification env notification).isScreenlockedMap[userId]? = _
      rw [(onNotification_records _ env notification).1, noticed_get _ _ env]
      rfl
  | runLockTask reportedAt => rfl
  | runUnlockTask reportedAt => rfl

/-- What one entry does to the recorded authentication state of the account. -/
theorem authStateInfo_step (ability : ScreenLockSystemAbility) (event : ServiceEvent) :
    (ability.step event).authStateInfo[userId]? =
      if removes userId event then none
      else if activates userId event then
        some (ability.authStateInfo[userId]?.getD AuthState.unauth)
      else (authStated userId event).or ability.authStateInfo[userId]? := by
  cases event with
  | call env caller request =>
      obtain ⟨queue, store, effects, heq⟩ := ability.readied.perform_touches env caller request
      change (ability.readied.handle env caller request).2.authStateInfo[userId]? = _
      rw [handle_eq, heq]
      cases request with
      | setScreenLockAuthState authState user =>
          by_cases haccepts : accepts env caller ability.readied
              (.setScreenLockAuthState authState user) = true
          · have hpermitted : caller.checkSystemPermission = false ∧
                caller.checkPermission accessScreenLockInner = true := by
              simpa [accepts] using haccepts
            rw [if_pos haccepts]
            change (ability.authStateInfo.insert user authState)[userId]? = _
            rw [Std.TreeMap.getElem?_insert]
            by_cases huser : user = userId <;>
              simp [removes, activates, authStated, hpermitted, huser]
          · have hrefused : ¬ (caller.checkSystemPermission = false ∧
                caller.checkPermission accessScreenLockInner = true) := by
              simpa [accepts] using haccepts
            have hnone : authStated userId
                (.call env caller (.setScreenLockAuthState authState user)) = none :=
              if_neg fun hall => hrefused hall.1
            rw [if_neg haccepts, hnone]
            rfl
      | _ => split <;> rfl
  | notify env notification =>
      change (ability.readied.onNotification env notification).authStateInfo[userId]? = _
      rw [(onNotification_records _ env notification).2, noticed_get _ _ env]
      rfl
  | runLockTask reportedAt => rfl
  | runUnlockTask reportedAt => rfl

end Screenlock.ScreenLockSystemAbility
