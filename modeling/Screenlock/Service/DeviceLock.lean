import Screenlock.Service.Notices

/-! # Device-lock listeners

The device is locked for an account unless a full authentication is on record
for it. Three entries can change what is on record; one of them compares the
old state with the new one before it tells the listeners.
-/

namespace Screenlock.ScreenLockSystemAbility

variable (ability : ScreenLockSystemAbility)

/-- What `IsDeviceLocked` answers for the account. -/
def deviceLocked (userId : UserId) : Bool :=
  ((ability.authStateInfo[userId]?).map getDeviceLockedStateByAuth).getD true

theorem isDeviceLocked_answer (caller : Caller) (hallowed : caller.checkSystemPermission = false)
    (userId : UserId) :
    (isDeviceLocked caller userId ability).2 = some (ability.deviceLocked userId) := by
  unfold isDeviceLocked deviceLocked
  rw [hallowed]
  cases ability.authStateInfo[userId]? <;> rfl

/-- The states announced to device-lock listeners of the account. -/
def deviceNotices (userId : UserId) (effects : List Effect) : List Int :=
  effects.filterMap fun effect => match effect with
    | .stateChanged user state listenType _ =>
        if user = userId ∧ listenType = ListenType.deviceLock then some state else none
    | _ => none

/-- The notices sent by an entry tell the account's new state once if it differs
from the old one, and are none otherwise. -/
def Announces (userId : UserId) (before after : ScreenLockSystemAbility) : Prop :=
  deviceNotices userId after.sent =
    if before.deviceLocked userId = after.deviceLocked userId then []
    else [if after.deviceLocked userId then 1 else 0]

/-- The first authentication of an account that is not on record, and the
removal of an authenticated account. -/
def Unannounced (userId : UserId) : ServiceEvent → Prop
  | .call _ caller (.setScreenLockAuthState authState user) =>
      user = userId ∧ caller.checkSystemPermission = false ∧
        caller.checkPermission accessScreenLockInner = true ∧
        ability.authStateInfo[userId]? = none ∧ getDeviceLockedStateByAuth authState = false
  | .notify _ (.removeUser user) => user = userId ∧ ability.deviceLocked userId = false
  | _ => False

section Notices

/-- The device-lock notices among all that an account's listeners are told. -/
theorem deviceNotices_eq (userId : UserId) (effects : List Effect) :
    deviceNotices userId effects =
      (noticesOf userId effects).filterMap fun notice =>
        if notice.1 = ListenType.deviceLock then some notice.2 else none := by
  rw [noticesOf, List.filterMap_filterMap]
  refine List.filterMap_congr fun effect _ => ?_
  cases effect with
  | stateChanged user state listenType receivers =>
      by_cases huser : user = userId <;> simp [huser]
  | systemEvent listener event => rfl
  | commonEvent event user => rfl

theorem deviceNotices_congr {userId : UserId} {first second : List Effect}
    (hsame : noticesOf userId first = noticesOf userId second) :
    deviceNotices userId first = deviceNotices userId second := by
  rw [deviceNotices_eq, hsame, ← deviceNotices_eq]

@[simp] theorem deviceNotices_enterStrongAuth (userId : UserId) (env : Environment)
    (event : StrongAuthEvent) :
    deviceNotices userId (ability.enterStrongAuth env event).sent =
      deviceNotices userId ability.sent := by
  have hother : ListenType.strongAuth ≠ ListenType.deviceLock := by decide
  rw [deviceNotices_eq, noticesOf_enterStrongAuth, List.filterMap_append, ← deviceNotices_eq,
    List.filterMap_map]
  simp [hother]

end Notices

section Changes

variable (env : Environment) (caller : Caller) (userId : UserId)

theorem deviceLocked_congr {first second : ScreenLockSystemAbility}
    (hsame : first.authStateInfo = second.authStateInfo) (userId : UserId) :
    first.deviceLocked userId = second.deviceLocked userId := by
  unfold deviceLocked
  rw [hsame]

/-- Requests that set no authentication state concern no device-lock listener. -/
theorem perform_deviceLock (request : Request)
    (hother : ∀ authState user, request ≠ .setScreenLockAuthState authState user) :
    (ability.perform env caller request).authStateInfo = ability.authStateInfo ∧
      deviceNotices userId (ability.perform env caller request).sent =
        deviceNotices userId ability.sent := by
  have hstate : (ability.perform env caller request).authStateInfo = ability.authStateInfo := by
    obtain ⟨queue, store, effects, heq⟩ := ability.perform_touches env caller request
    rw [heq]
    cases request with
    | setScreenLockAuthState authState user => exact absurd rfl (hother authState user)
    | _ => rfl
  refine ⟨hstate, ?_⟩
  by_cases hstrong : ∀ reasonFlag user, request ≠ .requestStrongAuth reasonFlag user
  · exact deviceNotices_congr (noticesOf_perform ability env caller request hother hstrong)
  · obtain ⟨reasonFlag, user, rfl⟩ : ∃ reasonFlag user,
        request = .requestStrongAuth reasonFlag user := by
      simpa using hstrong
    exact ability.deviceNotices_enterStrongAuth userId env _

theorem deviceLocked_storeAuthState (authState : Int) (user : UserId) :
    (ability.storeAuthState authState user).deviceLocked userId =
      if user = userId then getDeviceLockedStateByAuth authState
      else ability.deviceLocked userId := by
  unfold storeAuthState deviceLocked send
  by_cases huser : user = userId
  · simp [huser]
  · simp [huser, Std.TreeMap.getElem?_insert]

theorem deviceNotices_storeAuthState (authState : Int) (user : UserId) (hsent : ability.sent = []) :
    deviceNotices userId (ability.storeAuthState authState user).sent =
      if user = userId ∧ ability.authStateInfo[user]?.isSome ∧
          ability.deviceLocked user ≠ getDeviceLockedStateByAuth authState then
        [if getDeviceLockedStateByAuth authState then 1 else 0]
      else [] := by
  rw [deviceNotices_eq, noticesOf_storeAuthState, hsent]
  by_cases huser : user = userId
  · subst huser
    cases hstate : ability.authStateInfo[user]? with
    | none => simp [noticesOf, authNotice]
    | some current =>
        have hlocked : ability.deviceLocked user = getDeviceLockedStateByAuth current := by
          simp [deviceLocked, hstate]
        by_cases hsame : getDeviceLockedStateByAuth authState =
            getDeviceLockedStateByAuth current
        · simp [noticesOf, authNotice, hlocked, hsame]
        · simp [noticesOf, authNotice, hlocked, hsame, Ne.symm hsame]
  · simp [noticesOf, huser]

theorem announces_of_same {before after : ScreenLockSystemAbility}
    (hlocked : after.authStateInfo = before.authStateInfo)
    (hsent : deviceNotices userId after.sent = []) : Announces userId before after := by
  unfold Announces
  rw [hsent, if_pos (deviceLocked_congr hlocked userId).symm]

theorem announces_storeAuthState (authState : Int) (user : UserId) (hsent : ability.sent = []) :
    Announces userId ability (ability.storeAuthState authState user) ↔
      ¬ (user = userId ∧ ability.authStateInfo[userId]? = none ∧
        getDeviceLockedStateByAuth authState = false) := by
  unfold Announces
  rw [deviceNotices_storeAuthState ability userId authState user hsent,
    deviceLocked_storeAuthState]
  by_cases huser : user = userId
  · subst huser
    cases hstate : ability.authStateInfo[user]? with
    | none =>
        have hlocked : ability.deviceLocked user = true := by simp [deviceLocked, hstate]
        cases hnext : getDeviceLockedStateByAuth authState <;> simp [hlocked]
    | some current =>
        by_cases hsame : ability.deviceLocked user = getDeviceLockedStateByAuth authState <;>
          simp [hsame]
  · simp [huser]

theorem announces_onRemoveUser (user : UserId) (hsent : ability.sent = []) :
    Announces userId ability (ability.onRemoveUser env user) ↔
      ¬ (user = userId ∧ ability.deviceLocked userId = false) := by
  obtain ⟨store, heq⟩ := ability.onNotification_touches env (.removeUser user)
  have hlocked : (ability.onRemoveUser env user).deviceLocked userId =
      if user = userId then true else ability.deviceLocked userId := by
    unfold deviceLocked
    rw [onNotification] at heq
    rw [heq]
    by_cases huser : user = userId
    · simp [notice, huser]
    · simp [notice, huser, Std.TreeMap.getElem?_erase]
  have hnone : (ability.onRemoveUser env user).sent = [] := by
    rw [onNotification] at heq
    rw [heq]
    exact hsent
  unfold Announces
  rw [hlocked, hnone]
  by_cases huser : user = userId
  · subst huser
    cases ability.deviceLocked user <;> simp [deviceNotices]
  · simp [huser, deviceNotices]

theorem deviceLocked_authStateInit (user : UserId) :
    (ability.authStateInit user).deviceLocked userId = ability.deviceLocked userId := by
  unfold deviceLocked
  simp only [authStateInit, Std.TreeMap.getElem?_insertIfNew]
  split
  next hnew =>
    obtain rfl : user = userId := by simpa using hnew.1
    have habsent : ability.authStateInfo[user]? = none :=
      Std.TreeMap.getElem?_eq_none hnew.2
    rw [habsent]
    rfl
  next => rfl

theorem announces_onNotification (notification : Notification) (hsent : ability.sent = []) :
    Announces userId ability (ability.onNotification env notification) ↔
      ¬ ability.Unannounced userId (.notify env notification) := by
  have hstrong : ∀ event, deviceNotices userId (ability.enterStrongAuth env event).sent = [] := by
    intro event
    rw [deviceNotices_enterStrongAuth, hsent]
    rfl
  have hnone : deviceNotices userId ability.sent = [] := by rw [hsent]; rfl
  obtain ⟨store, heq⟩ := ability.onNotification_touches env notification
  cases notification with
  | activeUser targetUser =>
      -- the state a first activation enters is the locked one, which an absent entry means
      refine iff_of_true ?_ id
      have hlocked :=
        (ability.enterStrongAuth env (.getCredInfo targetUser)).deviceLocked_authStateInit
        userId targetUser
      unfold Announces
      rw [heq]
      refine (hstrong (.getCredInfo targetUser)).trans (if_pos ?_).symm
      exact hlocked.symm
  | removeUser user => exact ability.announces_onRemoveUser env userId user hsent
  | credChange callingUid user authType eventType isSilentCredChange =>
      refine iff_of_true ?_ id
      rw [heq, notice]
      split
      · exact announces_of_same userId rfl (hstrong _)
      · exact announces_of_same userId rfl hnone
  | initUserId =>
      rw [heq]
      exact iff_of_true (announces_of_same userId rfl hnone) id
  | credentialUpdated user authType credentialCount =>
      rw [heq]
      exact iff_of_true (announces_of_same userId rfl hnone) id
  | remoteDied remote =>
      rw [heq]
      exact iff_of_true (announces_of_same userId rfl hnone) id
  | accountUnlocked targetUser =>
      exact iff_of_true (announces_of_same userId rfl (hstrong _)) id
  | authSuccess user authType isWidgetAuth =>
      exact iff_of_true (announces_of_same userId rfl (hstrong _)) id
  | credentialInfo user result infoList =>
      exact iff_of_true (announces_of_same userId rfl (hstrong _)) id
  | timerFired user => exact iff_of_true (announces_of_same userId rfl (hstrong _)) id
  | destroyAllStrongAuthTimer =>
      exact iff_of_true (announces_of_same userId rfl (hstrong _)) id

theorem announces_handle (request : Request) (hsent : ability.sent = []) :
    Announces userId ability (ability.handle env caller request).2 ↔
      ¬ ability.Unannounced userId (.call env caller request) := by
  have hnone : deviceNotices userId ability.sent = [] := by rw [hsent]; rfl
  by_cases haccepts : accepts env caller ability request = true
  · rw [handle_eq, if_pos haccepts]
    by_cases hother : ∀ authState user, request ≠ .setScreenLockAuthState authState user
    · obtain ⟨hstate, hnotices⟩ := ability.perform_deviceLock env caller userId request hother
      refine iff_of_true (announces_of_same userId hstate (hnotices.trans hnone)) ?_
      cases request with
      | setScreenLockAuthState authState user => exact absurd rfl (hother authState user)
      | _ => exact id
    · obtain ⟨authState, user, rfl⟩ : ∃ authState user,
          request = .setScreenLockAuthState authState user := by
        simpa using hother
      have hchecks : caller.checkSystemPermission = false ∧
          caller.checkPermission accessScreenLockInner = true := by
        simpa [accepts] using haccepts
      rw [perform, announces_storeAuthState ability userId authState user hsent]
      simp [Unannounced, hchecks]
  · rw [handle_eq, if_neg haccepts]
    refine iff_of_true (announces_of_same userId rfl hnone) ?_
    cases request with
    | setScreenLockAuthState authState user =>
        rintro ⟨_, hsystem, hpermission, _⟩
        exact haccepts (by simp [accepts, hsystem, hpermission])
    | _ => exact id

end Changes

/-- In every state and for every account, an entry tells device-lock listeners
of every change and of nothing else, except in two cases: an account that is
not on record is authenticated, or an authenticated account is removed. -/
theorem announces_step_iff (userId : UserId) (event : ServiceEvent) :
    Announces userId ability (ability.step event) ↔ ¬ ability.Unannounced userId event := by
  cases event with
  | call env caller request => exact ability.readied.announces_handle env caller userId request rfl
  | notify env notification =>
      exact ability.readied.announces_onNotification env userId notification rfl
  | runLockTask reportedAt => exact iff_of_true (announces_of_same userId rfl rfl) id
  | runUnlockTask reportedAt => exact iff_of_true (announces_of_same userId rfl rfl) id

/-- The first authentication after the start unlocks the device without a notice. -/
theorem first_authentication_unannounced :
    ¬ Announces 100 (started ∅) ((started ∅).step (.call (.single 100) (.privileged 100)
      (.setScreenLockAuthState AuthState.authedByCredential 100))) := by
  unfold Announces
  decide

end Screenlock.ScreenLockSystemAbility
