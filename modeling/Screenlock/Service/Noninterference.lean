import Screenlock.Service.Notices
import Screenlock.Service.Removal
import Screenlock.Service.StrongAuth
import Screenlock.StrongAuth.Isolation

/-! # Accounts do not interfere

The service keeps the state of every account in shared tables, one store and one
manager. What the queries answer about an account and what its listeners are told
is nevertheless decided by the events that mention it, and by the destruction of
all timers: whatever happens to other accounts in between, and in whatever order,
leaves no trace.
-/

namespace Screenlock

/-- The event mentions the account or is about every account. -/
def ServiceEvent.Concerns (userId : UserId) : ServiceEvent → Prop
  | .notify _ .destroyAllStrongAuthTimer => True
  | event => event.Mentions userId

section Decidable

variable (userId : UserId)

instance : ∀ request : Request, Decidable (request.Names userId)
  | .lockUser user | .setScreenLockDisabled _ user | .setScreenLockAuthState _ user
  | .requestStrongAuth _ user | .setUnlockPolicy user _ | .registerInnerListener _ user _ _
  | .unRegisterInnerListener user _ _ => inferInstanceAs (Decidable (user = userId))
  | .unlockScreen _ | .unlock _ | .lock _ | .onSystemEvent _ | .sendScreenLockEvent _ _ =>
      .isFalse id

instance (env : Environment) :
    ∀ notification : Notification, Decidable (notification.Names env userId)
  | .activeUser user | .removeUser user | .accountUnlocked user | .credChange _ user _ _ _
  | .authSuccess user _ _ | .credentialInfo user _ _ | .timerFired user =>
      inferInstanceAs (Decidable (user = userId))
  | .initUserId => inferInstanceAs (Decidable (env.currentActiveOsAccountId = userId))
  | .credentialUpdated key _ _ =>
      inferInstanceAs (Decidable (key = disabledKey userId ∨ key = unlockPolicyKey userId))
  | .destroyAllStrongAuthTimer | .remoteDied _ => .isFalse id

instance : ∀ event : ServiceEvent, Decidable (event.Mentions userId)
  | .call env caller request =>
      inferInstanceAs
        (Decidable (env.userIdFromCallingUid caller = userId ∨ request.Names userId))
  | .notify env notification => inferInstanceAs (Decidable (notification.Names env userId))
  | .runLockTask _ | .runUnlockTask _ => .isFalse id

instance (event : ServiceEvent) : Decidable (event.Concerns userId) := by
  unfold ServiceEvent.Concerns
  split <;> infer_instance

end Decidable

namespace ScreenLockSystemAbility

open Foundation StrongAuthManger

variable {userId : UserId} {event : ServiceEvent}

theorem not_mentions_of_not_concerns (hother : ¬ event.Concerns userId) :
    ¬ event.Mentions userId := by
  unfold ServiceEvent.Concerns at hother
  split at hother
  · exact absurd trivial hother
  · exact hother

section Kept

section Actions

variable {first second : ScreenLockSystemAbility}
  (hrecord : recordOf userId first = recordOf userId second)

include hrecord

theorem obtainBool_congr (access : PreferencesAccess) :
    first.preferences.obtainBool access (disabledKey userId) false =
      second.preferences.obtainBool access (disabledKey userId) false := by
  have hdisabled : first.preferences.memory[disabledKey userId]? =
      second.preferences.memory[disabledKey userId]? := congrArg AccountRecord.disabled hrecord
  unfold Preferences.obtainBool Preferences.obtain
  rw [hdisabled]

theorem policyAction_congr (env : Environment) (policy : Int) :
    first.policyAction env userId policy = second.policyAction env userId policy := by
  have hpolicy : first.preferences.memory[unlockPolicyKey userId]? =
      second.preferences.memory[unlockPolicyKey userId]? := congrArg AccountRecord.policy hrecord
  have hobtained : first.preferences.obtainInt (env.preferences 0) (unlockPolicyKey userId) 0 =
      second.preferences.obtainInt (env.preferences 0) (unlockPolicyKey userId) 0 := by
    unfold Preferences.obtainInt Preferences.obtain
    rw [hpolicy]
  unfold policyAction
  rw [hobtained]

theorem freshAction_congr (env : Environment) (disable : Bool) :
    first.freshAction env disable userId = second.freshAction env disable userId := by
  unfold freshAction
  rw [obtainBool_congr hrecord]

theorem initAction_congr (env : Environment) :
    first.initAction env userId = second.initAction env userId := by
  unfold initAction
  rw [obtainBool_congr hrecord]

/-- What the entry asks of a key of the account depends on the record of the account. -/
theorem storeAction_congr {key : String} (hwrites : Writes event key)
    (hown : key = disabledKey userId ∨ key = unlockPolicyKey userId) :
    first.storeAction event = second.storeAction event := by
  have hflag : ∀ {user}, disabledKey user = disabledKey userId ∨
      disabledKey user = unlockPolicyKey userId → user = userId := by
    rintro user (heq | heq)
    · exact disabledKey_injective heq
    · exact absurd heq.symm (unlockPolicyKey_ne_disabledKey userId user)
  cases hwrites with
  | setScreenLockDisabled env caller disable user =>
      obtain rfl := hflag hown
      simp only [storeAction, performAction, freshAction_congr hrecord]
      rfl
  | setUnlockPolicy env caller user policy =>
      obtain rfl : user = userId := by
        rcases hown with heq | heq
        · exact absurd heq (unlockPolicyKey_ne_disabledKey user userId)
        · exact unlockPolicyKey_injective heq
      have hauth : first.authStateInfo[user]? = second.authStateInfo[user]? :=
        congrArg AccountRecord.authState hrecord
      have haccepts : accepts env caller first (.setUnlockPolicy user policy) =
          accepts env caller second (.setUnlockPolicy user policy) := by
        simp only [accepts, hauth]
      simp only [storeAction, haccepts, performAction, policyAction_congr hrecord]
  | activeUser env targetUser =>
      obtain rfl := hflag hown
      exact initAction_congr hrecord env
  | initUserId env =>
      have hactive := hflag hown
      simp only [storeAction, noticeAction, hactive, initAction_congr hrecord]
  | removeUser env user => rfl
  | credChange env callingUid user authType eventType isSilentCredChange =>
      obtain rfl := hflag hown
      simp only [storeAction, noticeAction, freshAction_congr hrecord]
  | credentialUpdated env text authType credentialCount => rfl

end Actions

theorem memory_congr {key : String}
    (hown : key = disabledKey userId ∨ key = unlockPolicyKey userId)
    {first second : ScreenLockSystemAbility}
    (hrecord : recordOf userId first = recordOf userId second) :
    (first.step event).preferences.memory[key]? = (second.step event).preferences.memory[key]? := by
  have hkey : first.preferences.memory[key]? = second.preferences.memory[key]? := by
    rcases hown with rfl | rfl
    · exact congrArg AccountRecord.disabled hrecord
    · exact congrArg AccountRecord.policy hrecord
  by_cases hwrites : Writes event key
  · rw [step_preferences, step_preferences, StoreAction.apply_memory, StoreAction.apply_memory,
      storeAction_congr hrecord hwrites hown, hkey]
  · -- no action of the entry is about the key
    have hkept : ∀ ability : ScreenLockSystemAbility,
        (ability.step event).preferences.memory[key]? = ability.preferences.memory[key]? := by
      intro ability
      rw [step_preferences, StoreAction.apply_memory]
      split
      · rfl
      next written value hwrite =>
        refine if_neg fun heq => hwrites ?_
        exact heq ▸ writes_of_key (StoreAction.key_of_write hwrite)
    rw [hkept, hkept, hkey]

/-- What an entry leaves of the account's record depends on that record. -/
theorem recordOf_congr {first second : ScreenLockSystemAbility}
    (hrecord : recordOf userId first = recordOf userId second) (event : ServiceEvent) :
    recordOf userId (first.step event) = recordOf userId (second.step event) := by
  have hauth : first.authStateInfo[userId]? = second.authStateInfo[userId]? :=
    congrArg AccountRecord.authState hrecord
  have hlock : first.isScreenlockedMap[userId]? = second.isScreenlockedMap[userId]? :=
    congrArg AccountRecord.isScreenlocked hrecord
  apply AccountRecord.ext
  · simp only [recordOf, authStateInfo_step, hauth]
  · simp only [recordOf, isScreenlockedMap_step, hlock]
  · exact memory_congr (Or.inl rfl) hrecord
  · exact memory_congr (Or.inr rfl) hrecord

/-- An entry that does not concern the account enters the manager for another one. -/
theorem owner_of_strongAuthEntry (hother : ¬ event.Concerns userId) {env : Environment}
    {entry : StrongAuthEvent} (hentry : strongAuthEntry event = some (env, entry)) :
    ∃ owner, entry.userId? = some owner ∧ owner ≠ userId := by
  cases event with
  | call env caller request =>
      cases request with
      | requestStrongAuth reasonFlag user =>
          simp only [strongAuthEntry] at hentry
          split at hentry
          · cases hentry
            exact ⟨user, rfl, fun heq => hother (Or.inr heq)⟩
          · cases hentry
      | _ => cases hentry
  | notify env notification =>
      cases notification with
      | credChange callingUid user authType eventType isSilentCredChange =>
          simp only [strongAuthEntry] at hentry
          split at hentry
          · cases hentry
            exact ⟨user, rfl, hother⟩
          · cases hentry
      | destroyAllStrongAuthTimer => exact absurd trivial hother
      | activeUser user => cases hentry; exact ⟨user, rfl, hother⟩
      | accountUnlocked user => cases hentry; exact ⟨user, rfl, hother⟩
      | authSuccess user authType isWidgetAuth => cases hentry; exact ⟨user, rfl, hother⟩
      | credentialInfo user result infoList => cases hentry; exact ⟨user, rfl, hother⟩
      | timerFired user => cases hentry; exact ⟨user, rfl, hother⟩
      | _ => cases hentry
  | _ => cases hentry

end Kept

section Told

/-- What an entry tells about the account: the changes the manager hands out, or a change
of the lock state that an authentication state makes. -/
def toldBy (userId : UserId) (ability : ScreenLockSystemAbility) (event : ServiceEvent) :
    List (ListenType × Int) :=
  noticesOf userId (ability.step event).sent

theorem toldBy_call (ability : ScreenLockSystemAbility) (env : Environment) (caller : Caller)
    (request : Request) :
    toldBy userId ability (.call env caller request) =
      if accepts env caller ability.readied request then
        noticesOf userId (ability.readied.perform env caller request).sent
      else [] := by
  change noticesOf userId (ability.readied.handle env caller request).2.sent = _
  rw [handle_eq]
  split <;> rfl

theorem toldBy_authState (ability : ScreenLockSystemAbility) (env : Environment)
    (caller : Caller) (authState : Int) (user : UserId) :
    toldBy userId ability (.call env caller (.setScreenLockAuthState authState user)) =
      if caller.checkSystemPermission = false ∧
          caller.checkPermission accessScreenLockInner = true ∧ user = userId then
        authNotice authState ability.authStateInfo[userId]?
      else [] := by
  have hperform : noticesOf userId (ability.readied.perform env caller
      (.setScreenLockAuthState authState user)).sent =
        if user = userId then authNotice authState ability.authStateInfo[userId]? else [] :=
    noticesOf_storeAuthState ability.readied authState user
  rw [toldBy_call, hperform]
  cases hsystem : caller.checkSystemPermission <;>
    cases hpermission : caller.checkPermission accessScreenLockInner <;>
      simp [accepts, hsystem, hpermission]

theorem toldBy_strongAuth (ability : ScreenLockSystemAbility) (env : Environment)
    (caller : Caller) (reasonFlag : Int) (user : UserId) :
    toldBy userId ability (.call env caller (.requestStrongAuth reasonFlag user)) =
      match strongAuthEntry (.call env caller (.requestStrongAuth reasonFlag user)) with
      | none => []
      | some (env, entry) => ((ability.strongAuth.enter env entry).changesOf userId).map
          fun reasonFlag => (ListenType.strongAuth, reasonFlag) := by
  have hperform : noticesOf userId (ability.readied.perform env caller
      (.requestStrongAuth reasonFlag user)).sent =
        ((ability.strongAuth.enter env (.setStrongAuthStat user reasonFlag)).changesOf userId).map
          fun reasonFlag => (ListenType.strongAuth, reasonFlag) :=
    (noticesOf_enterStrongAuth ability.readied env _).trans (List.nil_append _)
  rw [toldBy_call, hperform]
  cases hsystem : caller.checkSystemPermission <;>
    cases hpermission : caller.checkPermission accessScreenLock <;>
      simp [accepts, strongAuthEntry, hsystem, hpermission]

theorem toldBy_quiet (ability : ScreenLockSystemAbility) (env : Environment) (caller : Caller)
    {request : Request}
    (hauth : ∀ authState user, request ≠ .setScreenLockAuthState authState user)
    (hstrong : ∀ reasonFlag user, request ≠ .requestStrongAuth reasonFlag user) :
    toldBy userId ability (.call env caller request) = [] := by
  rw [toldBy_call, noticesOf_perform _ env caller request hauth hstrong]
  split <;> rfl

/-- A notification tells what the manager hands out, and nothing else. -/
theorem toldBy_notify (ability : ScreenLockSystemAbility) (env : Environment)
    (notification : Notification) :
    toldBy userId ability (.notify env notification) =
      match strongAuthEntry (.notify env notification) with
      | none => []
      | some (env, entry) => ((ability.strongAuth.enter env entry).changesOf userId).map
          fun reasonFlag => (ListenType.strongAuth, reasonFlag) := by
  change noticesOf userId (ability.readied.onNotification env notification).sent = _
  obtain ⟨store, heq⟩ := ability.readied.onNotification_touches env notification
  have hentered : ∀ entry, noticesOf userId (ability.readied.enterStrongAuth env entry).sent =
      ((ability.strongAuth.enter env entry).changesOf userId).map
        fun reasonFlag => (ListenType.strongAuth, reasonFlag) := fun entry =>
    (noticesOf_enterStrongAuth ability.readied env entry).trans (List.nil_append _)
  rw [heq]
  cases notification with
  | credChange callingUid user authType eventType isSilentCredChange =>
      simp only [notice, strongAuthEntry]
      split
      · exact hentered _
      · rfl
  | activeUser user => exact hentered _
  | accountUnlocked user => exact hentered _
  | authSuccess user authType isWidgetAuth => exact hentered _
  | credentialInfo user result infoList => exact hentered _
  | timerFired user => exact hentered _
  | destroyAllStrongAuthTimer => exact hentered _
  | _ => rfl

end Told

section Isolated

/-- Nothing that concerns the account differs, and no change waits to be handed out. -/
structure Alike (userId : UserId) (first second : ScreenLockSystemAbility) : Prop where
  record : recordOf userId first = recordOf userId second
  auth : authOf userId first.strongAuth = authOf userId second.strongAuth
  handed : first.strongAuth.changes = [] ∧ second.strongAuth.changes = []

variable {first second : ScreenLockSystemAbility}

theorem authOf_handed {first second : StrongAuthManger}
    (hsame : authOf userId first = authOf userId second) :
    authOf userId { first with changes := [] } = authOf userId { second with changes := [] } := by
  have hflag := congrArg AccountAuth.flag hsame
  have hinfo := congrArg AccountAuth.info hsame
  exact AccountAuth.ext hflag hinfo rfl

theorem handed_step (ability : ScreenLockSystemAbility)
    (hhanded : ability.strongAuth.changes = []) (event : ServiceEvent) :
    (ability.step event).strongAuth.changes = [] := by
  rw [step_strongAuth]
  split
  · exact hhanded
  · rfl

theorem alike_step (halike : Alike userId first second) (event : ServiceEvent) :
    Alike userId (first.step event) (second.step event) := by
  refine ⟨recordOf_congr halike.record event, ?_, handed_step first halike.handed.1 event,
    handed_step second halike.handed.2 event⟩
  rw [step_strongAuth, step_strongAuth]
  split
  · exact halike.auth
  next env entry hentry => exact authOf_handed (authOf_enter env entry halike.auth)

theorem alike_step_other (halike : Alike userId first second)
    (hother : ¬ event.Concerns userId) : Alike userId (first.step event) second := by
  refine ⟨?_, ?_, handed_step first halike.handed.1 event, halike.handed.2⟩
  · rw [first.recordOf_step (not_mentions_of_not_concerns hother), halike.record]
  · rw [step_strongAuth]
    split
    · exact halike.auth
    next env entry hentry =>
      obtain ⟨owner, howner, hne⟩ := owner_of_strongAuthEntry hother hentry
      have hsame := (authOf_enter_other env howner hne first.strongAuth).trans halike.auth
      refine (authOf_handed hsame).trans ?_
      rw [← halike.handed.2]

theorem changesOf_enter_congr (halike : Alike userId first second) (env : Environment)
    (entry : StrongAuthEvent) :
    (first.strongAuth.enter env entry).changesOf userId =
      (second.strongAuth.enter env entry).changesOf userId :=
  congrArg AccountAuth.changes (authOf_enter env entry halike.auth)

theorem changesOf_enter_other (halike : Alike userId first second)
    (hother : ¬ event.Concerns userId) {env : Environment} {entry : StrongAuthEvent}
    (hentry : strongAuthEntry event = some (env, entry)) :
    (first.strongAuth.enter env entry).changesOf userId = [] := by
  obtain ⟨owner, howner, hne⟩ := owner_of_strongAuthEntry hother hentry
  have hkept : (first.strongAuth.enter env entry).changesOf userId =
      first.strongAuth.changesOf userId :=
    congrArg AccountAuth.changes (authOf_enter_other env howner hne _)
  rw [hkept, changesOf, halike.handed.1]
  rfl

/-- What is told about the account depends on what concerns it. -/
theorem toldBy_congr (halike : Alike userId first second) (event : ServiceEvent) :
    toldBy userId first event = toldBy userId second event := by
  cases event with
  | call env caller request =>
      cases request with
      | setScreenLockAuthState authState user =>
          have hauth : first.authStateInfo[userId]? = second.authStateInfo[userId]? :=
            congrArg AccountRecord.authState halike.record
          rw [toldBy_authState, toldBy_authState, hauth]
      | requestStrongAuth reasonFlag user =>
          rw [toldBy_strongAuth, toldBy_strongAuth]
          split
          · rfl
          next env entry hentry => rw [changesOf_enter_congr halike]
      | _ => rw [toldBy_quiet _ _ _ (by simp) (by simp), toldBy_quiet _ _ _ (by simp) (by simp)]
  | notify env notification =>
      rw [toldBy_notify, toldBy_notify]
      split
      · rfl
      next env entry hentry => rw [changesOf_enter_congr halike]
  | _ => rfl

theorem toldBy_other (halike : Alike userId first second) (hother : ¬ event.Concerns userId) :
    toldBy userId first event = [] := by
  cases event with
  | call env caller request =>
      cases request with
      | setScreenLockAuthState authState user =>
          rw [toldBy_authState, if_neg]
          exact fun hall => hother (Or.inr hall.2.2)
      | requestStrongAuth reasonFlag user =>
          rw [toldBy_strongAuth]
          split
          · rfl
          next env entry hentry =>
            rw [changesOf_enter_other halike hother hentry]
            rfl
      | _ => exact toldBy_quiet _ _ _ (by simp) (by simp)
  | notify env notification =>
      rw [toldBy_notify]
      split
      · rfl
      next env entry hentry =>
        rw [changesOf_enter_other halike hother hentry]
        rfl
  | _ => rfl

theorem unwinding (userId : UserId) :
    Unwinding machine (ServiceEvent.Concerns userId) (Alike userId) (toldBy userId) where
  symm halike := ⟨halike.record.symm, halike.auth.symm, halike.handed.symm⟩
  trans hfirst hsecond := ⟨hfirst.record.trans hsecond.record, hfirst.auth.trans hsecond.auth,
    hfirst.handed.1, hsecond.handed.2⟩
  seen _ halike := alike_step halike _
  told _ halike := toldBy_congr halike _
  unseen hother halike := alike_step_other halike hother
  silent hother halike := toldBy_other halike hother

theorem alike_started {disk disk' : Std.TreeMap String PreferencesValue}
    (hdisabled : disk[disabledKey userId]? = disk'[disabledKey userId]?)
    (hpolicy : disk[unlockPolicyKey userId]? = disk'[unlockPolicyKey userId]?) :
    Alike userId (started disk) (started disk') where
  record := AccountRecord.ext rfl rfl hdisabled hpolicy
  auth := rfl
  handed := ⟨rfl, rfl⟩

theorem getStrongAuth_congr (halike : Alike userId first second) (env : Environment)
    (caller : Caller) :
    getStrongAuth env caller userId first = getStrongAuth env caller userId second := by
  have hflag : first.strongAuth.strongAuthStateInfo[userId]? =
      second.strongAuth.strongAuthStateInfo[userId]? := congrArg AccountAuth.flag halike.auth
  unfold getStrongAuth getStrongAuthStat
  rw [hflag]

/-- Two services that started with the same settings of the account and met the same
events that concern it answer every query about it alike, and have told its listeners
the same states in the same order. -/
theorem accounts_isolated {disk disk' : Std.TreeMap String PreferencesValue}
    (hdisabled : disk[disabledKey userId]? = disk'[disabledKey userId]?)
    (hpolicy : disk[unlockPolicyKey userId]? = disk'[unlockPolicyKey userId]?)
    {events events' : List ServiceEvent}
    (hsame : events.filter (ServiceEvent.Concerns userId) =
      events'.filter (ServiceEvent.Concerns userId)) :
    (∀ env caller, answers env caller userId (machine.run (started disk) events) =
        answers env caller userId (machine.run (started disk') events')) ∧
      (∀ env caller, getStrongAuth env caller userId (machine.run (started disk) events) =
        getStrongAuth env caller userId (machine.run (started disk') events')) ∧
      machine.outputs (toldBy userId) (started disk) events =
        machine.outputs (toldBy userId) (started disk') events' := by
  obtain ⟨halike, htold⟩ :=
    (unwinding userId).noninterference (alike_started hdisabled hpolicy) hsame
  exact ⟨fun env caller => answers_congr env caller halike.record,
    fun env caller => getStrongAuth_congr halike env caller, htold⟩

/-- Another account is activated, unlocked and removed around the activation of the account. -/
theorem visit_isolated :
    answers (.single 100) (.privileged 100) 100
        (machine.run (started ∅)
          [.notify (.single 101) (.activeUser 101),
            .notify (.single 100) (.activeUser 100),
            .call (.single 101) (.privileged 101)
              (.setScreenLockAuthState AuthState.authedByCredential 101),
            .notify (.single 101) (.removeUser 101)]) =
      answers (.single 100) (.privileged 100) 100
        (machine.run (started ∅) [.notify (.single 100) (.activeUser 100)]) :=
  (accounts_isolated rfl rfl rfl).1 _ _

end Isolated

end ScreenLockSystemAbility

end Screenlock
