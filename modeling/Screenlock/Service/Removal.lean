import Screenlock.Service.AccountRecords
import Screenlock.Service.DisabledFlag
import Screenlock.Service.StoreSteps

/-! # What is left of a removed account

Everything the queries tell about an account is kept in its record: a lock
state, an authentication state and two keys of the preference store. An event
that does not mention the account leaves the record alone. A removal clears it
but for the disabled flag, and an activation keeps a flag that is set.
-/

namespace Screenlock

/-- What the service keeps of one account. -/
@[ext]
structure AccountRecord where
  authState : Option Int
  isScreenlocked : Option Bool
  disabled : Option PreferencesValue
  policy : Option PreferencesValue

namespace AccountRecord

/-- Of an account that has never been there. -/
def blank : AccountRecord := ⟨none, none, none, none⟩

/-- The key of the disabled flag is kept. -/
def removed (record : AccountRecord) : AccountRecord := { blank with disabled := record.disabled }

def disabledFlag (record : AccountRecord) : Bool :=
  (record.disabled.bind PreferencesValue.bool?).getD false

def activated (record : AccountRecord) : AccountRecord where
  authState := some (record.authState.getD AuthState.unauth)
  isScreenlocked := some (record.isScreenlocked.getD true)
  disabled := if record.disabledFlag then record.disabled else some (.bool false)
  policy := record.policy

theorem disabledFlag_activated (record : AccountRecord) :
    record.activated.disabledFlag = record.disabledFlag := by
  unfold activated
  cases hset : record.disabledFlag with
  | true => exact hset
  | false => rfl

theorem removed_activated {record : AccountRecord} (hclear : record.disabledFlag = false) :
    record.removed.activated = blank.activated := by
  have hremoved : record.removed.disabledFlag = false := hclear
  have hblank : blank.disabledFlag = false := rfl
  rw [activated, activated, hremoved, hblank]
  rfl

end AccountRecord

/-- The request names the account. -/
def Request.Names (userId : UserId) : Request → Prop
  | .lockUser user | .setScreenLockDisabled _ user | .setScreenLockAuthState _ user
  | .requestStrongAuth _ user | .setUnlockPolicy user _ | .registerInnerListener _ user _ _
  | .unRegisterInnerListener user _ _ => user = userId
  | _ => False

/-- The notification is about the account. A credential event names it by a text. -/
def Notification.Names (env : Environment) (userId : UserId) : Notification → Prop
  | .activeUser user | .removeUser user | .accountUnlocked user | .credChange _ user _ _ _
  | .authSuccess user _ _ | .credentialInfo user _ _ | .timerFired user => user = userId
  | .initUserId => env.currentActiveOsAccountId = userId
  | .credentialUpdated key _ _ => key = disabledKey userId ∨ key = unlockPolicyKey userId
  | .destroyAllStrongAuthTimer | .remoteDied _ => False

/-- The event comes from a process of the account or names the account. -/
def ServiceEvent.Mentions (userId : UserId) : ServiceEvent → Prop
  | .call env caller request => env.userIdFromCallingUid caller = userId ∨ request.Names userId
  | .notify env notification => notification.Names env userId
  | .runLockTask _ | .runUnlockTask _ => False

namespace ScreenLockSystemAbility

open Foundation

/-- What the five queries tell a caller about the account. -/
structure Answers where
  isLockedWithUserId : ScreenLockError × Option Bool
  isDeviceLocked : ScreenLockError × Option Bool
  getScreenLockAuthState : Except ScreenLockError Int
  getUnlockPolicy : ScreenLockError × Option Int
  isScreenLockDisabled : Except ScreenLockError Bool

def answers (env : Environment) (caller : Caller) (userId : UserId)
    (ability : ScreenLockSystemAbility) : Answers where
  isLockedWithUserId := isLockedWithUserId caller userId ability
  isDeviceLocked := isDeviceLocked caller userId ability
  getScreenLockAuthState := getScreenLockAuthState caller userId ability
  getUnlockPolicy := getUnlockPolicy env caller userId ability
  isScreenLockDisabled := isScreenLockDisabled env caller userId ability

def recordOf (userId : UserId) (ability : ScreenLockSystemAbility) : AccountRecord where
  authState := ability.authStateInfo[userId]?
  isScreenlocked := ability.isScreenlockedMap[userId]?
  disabled := ability.preferences.memory[disabledKey userId]?
  policy := ability.preferences.memory[unlockPolicyKey userId]?

section Records

variable {userId : UserId} {event : ServiceEvent}

/-- The answers are read off the record. -/
theorem answers_congr (env : Environment) (caller : Caller)
    {first second : ScreenLockSystemAbility}
    (hrecord : recordOf userId first = recordOf userId second) :
    answers env caller userId first = answers env caller userId second := by
  have hauth := congrArg AccountRecord.authState hrecord
  have hlock := congrArg AccountRecord.isScreenlocked hrecord
  have hdisabled := congrArg AccountRecord.disabled hrecord
  have hpolicy := congrArg AccountRecord.policy hrecord
  simp only [recordOf] at hauth hlock hdisabled hpolicy
  simp only [answers, isLockedWithUserId, isDeviceLocked, getScreenLockAuthState,
    getUnlockPolicy, isScreenLockDisabled, Preferences.obtainInt, Preferences.obtainBool,
    Preferences.obtain, hauth, hlock, hdisabled, hpolicy]

/-- Only events that mention an account write one of its keys. -/
theorem storeAction_mentions {ability : ScreenLockSystemAbility} {key : String}
    (hkey : (ability.storeAction event).key = some key)
    (hown : key = disabledKey userId ∨ key = unlockPolicyKey userId) :
    event.Mentions userId := by
  have hdisabled : ∀ {user}, disabledKey user = key → user = userId := by
    rintro user rfl
    rcases hown with heq | heq
    · exact disabledKey_injective heq
    · exact absurd heq.symm (unlockPolicyKey_ne_disabledKey userId user)
  have hpolicy : ∀ {user}, unlockPolicyKey user = key → user = userId := by
    rintro user rfl
    rcases hown with heq | heq
    · exact absurd heq (unlockPolicyKey_ne_disabledKey user userId)
    · exact unlockPolicyKey_injective heq
  cases writes_of_key hkey with
  | setScreenLockDisabled env caller disable user => exact Or.inr (hdisabled rfl)
  | setUnlockPolicy env caller user policy => exact Or.inr (hpolicy rfl)
  | activeUser env targetUser => exact hdisabled rfl
  | initUserId env => exact hdisabled rfl
  | removeUser env user => exact hpolicy rfl
  | credChange env callingUid user authType eventType isSilentCredChange => exact hdisabled rfl
  | credentialUpdated env text authType credentialCount => exact hown

/-- An event that does not mention the account leaves its lock and
authentication state alone. -/
theorem concernsOthers_of_not_mentions (hother : ¬ event.Mentions userId) :
    removes userId event = false ∧ activates userId event = false ∧
      reported userId event = none ∧ authStated userId event = none := by
  cases event with
  | call env caller request =>
      have howner : env.userIdFromCallingUid caller ≠ userId := fun heq => hother (Or.inl heq)
      have hnamed : ¬ request.Names userId := fun hnames => hother (Or.inr hnames)
      cases request with
      | sendScreenLockEvent event param => simp [removes, activates, authStated, reported, howner]
      | setScreenLockAuthState authState user =>
          have huser : user ≠ userId := hnamed
          simp [removes, activates, authStated, reported, huser]
      | _ => exact ⟨rfl, rfl, rfl, rfl⟩
  | notify env notification =>
      have hnamed : ¬ notification.Names env userId := hother
      cases notification with
      | activeUser targetUser =>
          have htarget : targetUser ≠ userId := hnamed
          simp [removes, activates, authStated, reported, htarget]
      | removeUser user =>
          have huser : user ≠ userId := hnamed
          simp [removes, activates, authStated, reported, huser]
      | _ => exact ⟨rfl, rfl, rfl, rfl⟩
  | _ => exact ⟨rfl, rfl, rfl, rfl⟩

theorem memory_step (ability : ScreenLockSystemAbility) (hother : ¬ event.Mentions userId)
    {key : String} (hown : key = disabledKey userId ∨ key = unlockPolicyKey userId) :
    (ability.step event).preferences.memory[key]? = ability.preferences.memory[key]? := by
  rw [step_preferences, StoreAction.apply_memory]
  split
  · rfl
  · next written value hwrite =>
      refine if_neg fun heq => hother ?_
      exact storeAction_mentions (StoreAction.key_of_write hwrite) (heq ▸ hown)

/-- Everything kept of the account stays as it is. -/
theorem recordOf_step (ability : ScreenLockSystemAbility) (hother : ¬ event.Mentions userId) :
    recordOf userId (ability.step event) = recordOf userId ability := by
  obtain ⟨hremoves, hactivates, hreported, hstated⟩ := concernsOthers_of_not_mentions hother
  simp only [recordOf, authStateInfo_step, isScreenlockedMap_step, hremoves, hactivates,
    hreported, hstated, ability.memory_step hother (Or.inl rfl),
    ability.memory_step hother (Or.inr rfl), Bool.false_eq_true, if_false, Option.none_or]

theorem recordOf_run (ability : ScreenLockSystemAbility) {events : List ServiceEvent}
    (hothers : ∀ event ∈ events, ¬ event.Mentions userId) :
    recordOf userId (machine.run ability events) = recordOf userId ability :=
  @Machine.steps_invariant _ _ machine _
    (fun state => recordOf userId state = recordOf userId ability)
    (fun state _ hother hsame => (state.recordOf_step hother).trans hsame) _ _
    ((machine.steps_iff_forall_mem _ _ _).mpr hothers) rfl

variable {env : Environment} (hworking : env.Working)
include hworking

theorem recordOf_removeUser (ability : ScreenLockSystemAbility) :
    recordOf userId (ability.step (.notify env (.removeUser userId))) =
      (recordOf userId ability).removed := by
  have hwrite : (ability.storeAction (.notify env (.removeUser userId))).write =
      some (unlockPolicyKey userId, none) := by
    simp [storeAction, noticeAction, hworking.util, hworking.works, StoreAction.write,
      PreferencesAccess.works]
  have hkeys := unlockPolicyKey_ne_disabledKey userId userId
  simp [recordOf, AccountRecord.removed, AccountRecord.blank, authStateInfo_step,
    isScreenlockedMap_step, removes, step_preferences, StoreAction.apply_memory, hwrite, hkeys]

theorem recordOf_activeUser (ability : ScreenLockSystemAbility) :
    recordOf userId (ability.step (.notify env (.activeUser userId))) =
      (recordOf userId ability).activated := by
  have hflag : ability.preferences.obtainBool .works (disabledKey userId) false =
      (recordOf userId ability).disabledFlag := rfl
  have hwrite : (ability.storeAction (.notify env (.activeUser userId))).write =
      if (recordOf userId ability).disabledFlag then none
      else some (disabledKey userId, some (.bool false)) := by
    simp only [storeAction, noticeAction, initAction, hworking.util, hworking.works, hflag]
    cases (recordOf userId ability).disabledFlag <;> rfl
  have hmemory : ∀ key, (ability.step (.notify env
      (.activeUser userId))).preferences.memory[key]? =
        if (recordOf userId ability).disabledFlag = false ∧ disabledKey userId = key then
          some (.bool false)
        else ability.preferences.memory[key]? := by
    intro key
    rw [step_preferences, StoreAction.apply_memory, hwrite]
    cases (recordOf userId ability).disabledFlag <;> simp
  apply AccountRecord.ext
  · exact (ability.authStateInfo_step _).trans (by simp [removes, activates]; rfl)
  · exact (ability.isScreenlockedMap_step _).trans (by simp [removes, activates]; rfl)
  · refine (hmemory _).trans ?_
    rw [AccountRecord.activated]
    cases (recordOf userId ability).disabledFlag <;> simp [recordOf]
  · refine (hmemory _).trans (if_neg fun heq => ?_)
    exact unlockPolicyKey_ne_disabledKey userId userId heq.2.symm

end Records

section Recreation

variable (userId : UserId)

/-- The account is not in the store and no event mentions it. -/
def NeverThere (disk : Std.TreeMap String PreferencesValue) (events : List ServiceEvent) : Prop :=
  disk[disabledKey userId]? = none ∧ disk[unlockPolicyKey userId]? = none ∧
    ∀ event ∈ events, ¬ event.Mentions userId

/-- The account is removed and, some events later, activated anew. -/
def recreated (removal activation : Environment) (between : List ServiceEvent)
    (ability : ScreenLockSystemAbility) : ScreenLockSystemAbility :=
  (machine.run (ability.step (.notify removal (.removeUser userId))) between).step
    (.notify activation (.activeUser userId))

/-- The queries answer about the account what they answer about one that has
never been there, and about the accounts nothing happened to what they answered before. -/
def LeavesNothing (removal activation : Environment) (between : List ServiceEvent)
    (ability : ScreenLockSystemAbility) : Prop :=
  ∀ env : Environment, env.Working → ∀ caller,
    (∀ disk events, NeverThere userId disk events →
      answers env caller userId (recreated userId removal activation between ability) =
        answers env caller userId ((machine.run (started disk) events).step
          (.notify activation (.activeUser userId)))) ∧
    ∀ other, other ≠ userId → (∀ event ∈ between, ¬ event.Mentions other) →
      answers env caller other (recreated userId removal activation between ability) =
        answers env caller other ability

variable {userId} {removal activation : Environment} {between : List ServiceEvent}

theorem recordOf_neverThere {disk : Std.TreeMap String PreferencesValue}
    {events : List ServiceEvent} (hnever : NeverThere userId disk events) :
    recordOf userId (machine.run (started disk) events) = .blank := by
  obtain ⟨hdisabled, hpolicy, hothers⟩ := hnever
  rw [recordOf_run _ hothers]
  simp [recordOf, started, AccountRecord.blank, hdisabled, hpolicy]

/-- A recreated account has the record of a new one, but for a flag that was set. -/
theorem recordOf_recreated (hremoval : removal.Working) (hactivation : activation.Working)
    (hbetween : ∀ event ∈ between, ¬ event.Mentions userId) (ability : ScreenLockSystemAbility) :
    recordOf userId (recreated userId removal activation between ability) =
      (recordOf userId ability).removed.activated := by
  rw [recreated, recordOf_activeUser hactivation, recordOf_run _ hbetween,
    recordOf_removeUser hremoval]

theorem recordOf_recreated_other (ability : ScreenLockSystemAbility) {other : UserId}
    (hother : other ≠ userId) (hbetween : ∀ event ∈ between, ¬ event.Mentions other) :
    recordOf other (recreated userId removal activation between ability) =
      recordOf other ability := by
  have hremoved : ¬ (ServiceEvent.notify removal (.removeUser userId)).Mentions other :=
    fun heq => hother heq.symm
  have hactivated : ¬ (ServiceEvent.notify activation (.activeUser userId)).Mentions other :=
    fun heq => hother heq.symm
  rw [recreated, recordOf_step _ hactivated, recordOf_run _ hbetween, recordOf_step _ hremoved]

/-- A caller who may ask learns the flag of the record. -/
theorem isScreenLockDisabled_permitted {env : Environment} (hworking : env.Working)
    {caller : Caller} (hpermitted : caller.checkPermission accessScreenLock = true)
    (ability : ScreenLockSystemAbility) :
    isScreenLockDisabled env caller userId ability =
      .ok (recordOf userId ability).disabledFlag := by
  unfold isScreenLockDisabled
  rw [if_neg (by simp [hworking.util]), if_neg (by simp [hpermitted]), hworking.works]
  rfl

/-- A flag that was set is still there. -/
theorem clear_of_leavesNothing (hremoval : removal.Working) (hactivation : activation.Working)
    (hbetween : ∀ event ∈ between, ¬ event.Mentions userId) {ability : ScreenLockSystemAbility}
    (hleaves : LeavesNothing userId removal activation between ability) :
    ability.disabledFlag userId = false := by
  have hnever : NeverThere userId ∅ [] :=
    ⟨Std.TreeMap.getElem?_emptyc, Std.TreeMap.getElem?_emptyc,
      fun _ hmem => absurd hmem List.not_mem_nil⟩
  have hsame := congrArg Answers.isScreenLockDisabled
    ((hleaves activation hactivation (.privileged userId)).1 ∅ [] hnever)
  simp only [answers] at hsame
  have hpermitted : (Caller.privileged userId).checkPermission accessScreenLock = true := rfl
  rw [isScreenLockDisabled_permitted hactivation hpermitted,
    isScreenLockDisabled_permitted hactivation hpermitted,
    recordOf_recreated hremoval hactivation hbetween, recordOf_activeUser hactivation,
    recordOf_neverThere hnever, AccountRecord.disabledFlag_activated,
    AccountRecord.disabledFlag_activated] at hsame
  exact Except.ok.inj hsame

/-- What is left of a removed account is a disabled flag that was set. -/
theorem leavesNothing_iff (disk : Std.TreeMap String PreferencesValue) (past : List ServiceEvent)
    (hremoval : removal.Working) (hactivation : activation.Working)
    (hbetween : ∀ event ∈ between, ¬ event.Mentions userId) :
    LeavesNothing userId removal activation between (machine.run (started disk) past) ↔
      (machine.run (started disk) past).disabledFlag userId = false := by
  refine ⟨clear_of_leavesNothing hremoval hactivation hbetween, fun hclear env _ caller => ?_⟩
  constructor
  · intro disk events hnever
    apply answers_congr
    rw [recordOf_recreated hremoval hactivation hbetween, recordOf_activeUser hactivation,
      recordOf_neverThere hnever]
    exact AccountRecord.removed_activated hclear
  · intro other hother hapart
    exact answers_congr env caller (recordOf_recreated_other _ hother hapart)

/-- The authentication state that was set is forgotten: the lock screen was never
disabled. Another account was locked in between. -/
theorem authState_forgotten :
    LeavesNothing 100 (.single 101) (.single 100)
      [.call (.single 101) (.privileged 101) (.sendScreenLockEvent lockScreenResult 0)]
      (machine.run (started ∅)
        [.notify (.single 100) (.activeUser 100),
          .call (.single 100) (.privileged 100) (.setScreenLockAuthState 1 100)]) := by
  refine (leavesNothing_iff ∅ _ (.single 101) (.single 100) ?_).mpr ?_
  · intro event hmem
    rw [List.mem_singleton] at hmem
    subst hmem
    rintro (howner | hnamed)
    · revert howner
      decide
    · exact hnamed
  · decide

/-- A disabled lock screen outlives the account. -/
theorem disabled_outlives_removal :
    ¬ LeavesNothing 100 (.single 100) (.single 100) []
      (machine.run (started ∅)
        [.call (.single 100) (.privileged 100) (.setScreenLockDisabled true 100)]) := by
  intro hleaves
  have hclear := clear_of_leavesNothing (.single 100) (.single 100)
    (fun _ hmem => absurd hmem List.not_mem_nil) hleaves
  revert hclear
  decide

end Recreation

end ScreenLockSystemAbility

end Screenlock
