import Screenlock.Service.Steps

/-! # What listeners are told about an account

Among what an entry sends, the state changes of one account. The manager's
changes go to the strong-authentication listeners, a change of the lock state to
the device-lock listeners, and no other entry tells either kind anything.
-/

namespace Screenlock.ScreenLockSystemAbility

variable {userId : UserId}

/-- The states told about the account, with the kind of listeners they go to. -/
def noticesOf (userId : UserId) (effects : List Effect) : List (ListenType × Int) :=
  effects.filterMap fun effect => match effect with
    | .stateChanged user state listenType _ =>
        if user = userId then some (listenType, state) else none
    | _ => none

theorem noticesOf_append (first second : List Effect) :
    noticesOf userId (first ++ second) = noticesOf userId first ++ noticesOf userId second :=
  List.filterMap_append

theorem noticesOf_of_quiet {effects : List Effect} (hquiet : Quiet effects) :
    noticesOf userId effects = [] := by
  refine List.filterMap_eq_nil_iff.mpr fun effect heffect => ?_
  cases effect with
  | stateChanged user state listenType receivers => exact absurd heffect (hquiet _ _ _ _)
  | systemEvent listener event => rfl
  | commonEvent event user => rfl

theorem quiet_strongAuthChanged (ability : ScreenLockSystemAbility) (user : UserId)
    (reasonFlag : Int) : Quiet (ability.strongAuthChanged user reasonFlag) := by
  unfold strongAuthChanged
  split
  · exact quiet_nil
  · exact ability.quiet_systemEventCallBack _

theorem noticesOf_announced (ability : ScreenLockSystemAbility) (changes : List (UserId × Int)) :
    noticesOf userId (changes.flatMap fun (user, reasonFlag) =>
        ability.strongAuthChanged user reasonFlag ++
          ability.onStateChanged user reasonFlag ListenType.strongAuth) =
      (changes.filterMap fun change => if change.1 = userId then some change.2 else none).map
        fun reasonFlag => (ListenType.strongAuth, reasonFlag) := by
  induction changes with
  | nil => rfl
  | cons change rest ih =>
      rw [List.flatMap_cons, noticesOf_append, noticesOf_append, ih,
        noticesOf_of_quiet (quiet_strongAuthChanged ability _ _), List.nil_append]
      by_cases hown : change.1 = userId <;> simp [noticesOf, onStateChanged, hown]

/-- An entry into the manager tells what the manager hands out. -/
theorem noticesOf_enterStrongAuth (ability : ScreenLockSystemAbility) (env : Environment)
    (entry : StrongAuthEvent) :
    noticesOf userId (ability.enterStrongAuth env entry).sent =
      noticesOf userId ability.sent ++ ((ability.strongAuth.enter env entry).changes.filterMap
        fun change => if change.1 = userId then some change.2 else none).map
          fun reasonFlag => (ListenType.strongAuth, reasonFlag) := by
  simp only [enterStrongAuth, send, noticesOf_append, noticesOf_announced]

/-- What `SetScreenLockAuthState` tells about its account. -/
def authNotice (authState : Int) : Option Int → List (ListenType × Int)
  | none => []
  | some current =>
      if getDeviceLockedStateByAuth authState ≠ getDeviceLockedStateByAuth current then
        [(ListenType.deviceLock, if getDeviceLockedStateByAuth authState then 1 else 0)]
      else []

theorem noticesOf_storeAuthState (ability : ScreenLockSystemAbility) (authState : Int)
    (user : UserId) :
    noticesOf userId (ability.storeAuthState authState user).sent =
      noticesOf userId ability.sent ++
        (if user = userId then authNotice authState ability.authStateInfo[userId]? else []) := by
  have hpre := @noticesOf_of_quiet userId _ (ability.quiet_preAuthStateNotify user authState)
  simp only [storeAuthState, send, noticesOf_append, hpre, List.append_nil]
  congr 1
  by_cases howner : user = userId
  · subst howner
    rw [if_pos rfl]
    cases ability.authStateInfo[user]? with
    | none => rfl
    | some current =>
        simp only [authNotice]
        split
        · simp [noticesOf, onDeviceLockStateChanged, onStateChanged]
        · rfl
  · rw [if_neg howner]
    cases ability.authStateInfo[user]? with
    | none => rfl
    | some current =>
        dsimp only
        split
        · simp [noticesOf, onDeviceLockStateChanged, onStateChanged, howner]
        · rfl

/-- The other requests tell no listener anything. -/
theorem noticesOf_perform (ability : ScreenLockSystemAbility) (env : Environment) (caller : Caller)
    (request : Request)
    (hauth : ∀ authState user, request ≠ .setScreenLockAuthState authState user)
    (hstrong : ∀ reasonFlag user, request ≠ .requestStrongAuth reasonFlag user) :
    noticesOf userId (ability.perform env caller request).sent =
      noticesOf userId ability.sent := by
  have hquiet : ∀ {effects}, Quiet effects →
      noticesOf userId (ability.sent ++ effects) = noticesOf userId ability.sent := by
    intro effects hquiet
    rw [noticesOf_append, noticesOf_of_quiet hquiet, List.append_nil]
  have hevent : ∀ event, noticesOf userId (ability.sent ++ ability.systemEventCallBack event) =
      noticesOf userId ability.sent := fun event => hquiet (ability.quiet_systemEventCallBack event)
  cases request with
  | unlockScreen listener => exact hevent _
  | unlock listener => exact hevent _
  | lock listener => exact hevent _
  | lockUser user => exact hevent _
  | onSystemEvent listener => rfl
  | sendScreenLockEvent event param =>
      obtain ⟨queue, effects, heffects, heq⟩ :=
        ability.screenLockEvent_touches env caller event param
      rw [perform, heq]
      exact hquiet heffects
  | setScreenLockDisabled disable user =>
      obtain ⟨store, heq⟩ := ability.freshDisabledState_touches env disable user
      rw [perform, heq]
  | setScreenLockAuthState authState user => exact absurd rfl (hauth authState user)
  | requestStrongAuth reasonFlag user => exact absurd rfl (hstrong reasonFlag user)
  | setUnlockPolicy user policy =>
      obtain ⟨store, effects, heffects, heq⟩ := ability.storeUnlockPolicy_touches env user policy
      rw [perform, heq]
      exact hquiet heffects
  | registerInnerListener attaches user listenType listener => rfl
  | unRegisterInnerListener user listenType listener => rfl

end Screenlock.ScreenLockSystemAbility
