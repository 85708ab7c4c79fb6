import Screenlock.StrongAuth.Requirement
import Screenlock.StrongAuth.TimerRegistry

/-! # The requirement after a boot

`OnActiveUser` asks for the credentials of an account without a record, and the
answer stores `AFTER_BOOT` and starts the timer. Both halves take a record that
something else has made for their own.
-/

namespace Screenlock.StrongAuthManger

/-- The account has to authenticate after the boot, and a timer is on record for it. -/
def BootGuarded (userId : UserId) (manager : StrongAuthManger) : Prop :=
  manager.strongAuthStateInfo[userId]? = some StrongAuthReasonFlags.afterBoot ∧
    manager.getTimerId userId ≠ 0

/-- The account has a PIN and its queries are taken and answered, timers can be
created, and the entry neither fulfils, withdraws nor deletes what the account
has to do. -/
def SparesBoot (userId : UserId) (entry : Environment × StrongAuthEvent) : Prop :=
  entry.1.createdTimer ≠ 0 ∧ match entry.2 with
    | .setStrongAuthStat user reasonFlag =>
        user = userId → reasonFlag ≠ StrongAuthReasonFlags.none
    | .getCredInfo user => user = userId → entry.1.credentialInfo = .success
    | .authSuccess user authType isWidgetAuth =>
        ¬ (user = userId ∧ authType = .pin ∧ isWidgetAuth = false)
    | .credChange user authType eventType _ =>
        ¬ (user = userId ∧ authType = .pin ∧ (eventType = .delUser ∨ eventType = .enforceDelUser))
    | .credentialInfo user _ infoList => user = userId → infoList ≠ []
    | _ => True

/-- An activation of the account is over: it has found a record, or its query is answered. -/
def CompletesBoot (userId : UserId) (manager : StrongAuthManger)
    (entry : Environment × StrongAuthEvent) : Prop :=
  match entry.2 with
  | .getCredInfo user => user = userId ∧ manager.isUserExitInStrongAuthInfo userId = true
  | .credentialInfo user _ _ => user = userId
  | _ => False

/-- The entry asks for `AFTER_BOOT` itself, or is an answer that finds no record. -/
def FlagsBoot (userId : UserId) (manager : StrongAuthManger)
    (entry : Environment × StrongAuthEvent) : Prop :=
  match entry.2 with
  | .setStrongAuthStat user reasonFlag =>
      user = userId ∧ reasonFlag = StrongAuthReasonFlags.afterBoot
  | .credentialInfo user _ _ =>
      user = userId ∧ manager.isUserExitInStrongAuthInfo userId = false
  | _ => False

/-- Neither half of the initialisation takes the record of something else for its
own. An activation that finds a record does so only once another one is over, or
where the flag and the timer have come in another way; an answer finds no record
but one that has been flagged. The timers are not destroyed once an activation is
over. The three conditions say what the past has brought. -/
def FindsOwnRecord (userId : UserId) (completed flagged started : Prop)
    (manager : StrongAuthManger) (entry : Environment × StrongAuthEvent) : Prop :=
  match entry.2 with
  | .getCredInfo user =>
      user = userId → manager.isUserExitInStrongAuthInfo userId = true →
        completed ∨ (flagged ∧ started)
  | .credentialInfo user _ _ =>
      user = userId → manager.isUserExitInStrongAuthInfo userId = true → flagged
  | .destroyAllStrongAuthTimer => ¬ completed
  | _ => True

section Queries

variable (manager : StrongAuthManger) (env : Environment) (userId : UserId)

theorem notifyStrongAuthChange_queries (reasonFlag : Int) :
    (manager.notifyStrongAuthChange env userId reasonFlag).queries = manager.queries := by
  unfold notifyStrongAuthChange
  split
  · split <;> rfl
  · rfl

theorem setStrongAuthStat_queries (reasonFlag : Int) :
    (manager.setStrongAuthStat env userId reasonFlag).queries = manager.queries := by
  unfold setStrongAuthStat
  split
  · exact notifyStrongAuthChange_queries _ env userId reasonFlag
  · split
    · rfl
    · exact notifyStrongAuthChange_queries _ env userId reasonFlag

theorem initStrongAuthStat_queries (reasonFlag : Int) :
    (manager.initStrongAuthStat env userId reasonFlag).queries = manager.queries := by
  unfold initStrongAuthStat
  split
  · exact notifyStrongAuthChange_queries _ env userId reasonFlag
  · rfl

theorem onCredentialInfo_queries (result : ResultCode) (infoList : List CredentialInfo) :
    (manager.onCredentialInfo env userId result infoList).queries = manager.queries := by
  unfold onCredentialInfo
  split
  · rw [(startStrongAuthTimer_keeps _ _ _ _ _).queries, initStrongAuthStat_queries]
  · exact manager.initStrongAuthStat_queries env userId _

theorem onNotifyAuthSuccessEvent_queries (authType : AuthType) (isWidgetAuth : Bool) :
    (manager.onNotifyAuthSuccessEvent env userId authType isWidgetAuth).queries =
      manager.queries := by
  unfold onNotifyAuthSuccessEvent
  split
  · dsimp only
    rw [(resetStrongAuthTimer_keeps _ _ _ _ _ _).queries,
      (getStrongAuthTriggerPeriod_keeps _ _ _).queries, setStrongAuthStat_queries]
  · rfl

theorem onNotifyCredChangeEvent_queries (authType : AuthType) (eventType : CredChangeEventType)
    (isSilentCredChange : Bool) :
    (manager.onNotifyCredChangeEvent env userId authType eventType isSilentCredChange).queries =
      manager.queries := by
  unfold onNotifyCredChangeEvent
  repeat' split
  · rfl
  · exact (resetStrongAuthTimer_keeps _ _ _ _ _ _).queries
  · rw [(destroyStrongAuthTimer_keeps _ _).queries, setStrongAuthStat_queries]
  · rw [(destroyStrongAuthTimer_keeps _ _).queries]
    rfl
  · rfl
  · rfl

/-- An activation asks for the credentials of an account without a record, an
answer takes the query off the list, and nothing else touches the queries. -/
theorem enter_queries (event : StrongAuthEvent) :
    (manager.enter env event).queries =
      match event with
      | .getCredInfo user =>
          if manager.isUserExitInStrongAuthInfo user = false ∧ env.credentialInfo = .success then
            manager.queries ++ [user]
          else manager.queries
      | .credentialInfo user _ _ => manager.queries.erase user
      | _ => manager.queries := by
  cases event with
  | setStrongAuthStat user reasonFlag => exact manager.setStrongAuthStat_queries env user _
  | accountUnlocked user => exact manager.notifyStrongAuthChange_queries env user _
  | getCredInfo user =>
      simp only [enter, getCredInfo]
      cases manager.isUserExitInStrongAuthInfo user with
      | true => rfl
      | false =>
          simp only [Bool.false_eq_true, if_false, true_and]
          split <;> rfl
  | credentialInfo user result infoList => exact onCredentialInfo_queries _ env user _ _
  | authSuccess user authType isWidgetAuth =>
      exact manager.onNotifyAuthSuccessEvent_queries env user _ _
  | credChange user authType eventType isSilentCredChange =>
      exact manager.onNotifyCredChangeEvent_queries env user _ _ _
  | timerFired user => exact manager.setStrongAuthStat_queries env user _
  | destroyAllStrongAuthTimer => exact manager.destroyAllStrongAuthTimer_keeps.queries

end Queries

/-- No record names the id of a failed creation. -/
def NoFailedRecord (manager : StrongAuthManger) : Prop :=
  ∀ userId, manager.recordedTimer userId ≠ some 0

section Timers

variable {manager after : StrongAuthManger} {env : Environment} {event : StrongAuthEvent}
  {userId : UserId}

theorem recordedTimer_none (hnofailed : manager.NoFailedRecord)
    (hzero : manager.getTimerId userId = 0) : manager.recordedTimer userId = none := by
  rw [getTimerId_eq] at hzero
  cases hrecord : manager.recordedTimer userId with
  | none => rfl
  | some timerId =>
      rw [hrecord, Option.getD_some] at hzero
      subst hzero
      exact absurd hrecord (hnofailed userId)

theorem NoFailedRecord.destroy (hnofailed : manager.NoFailedRecord) (owner : UserId) :
    (manager.destroyStrongAuthTimer owner).NoFailedRecord := by
  intro userId
  rw [recordedTimer_destroyStrongAuthTimer]
  split
  · exact fun heq => by cases heq
  · exact hnofailed userId

theorem SameTimers.noFailedRecord (hsame : SameTimers manager after)
    (hnofailed : manager.NoFailedRecord) : after.NoFailedRecord := by
  intro userId
  rw [hsame.recorded]
  exact hnofailed userId

theorem NoFailedRecord.effect (hnofailed : manager.NoFailedRecord)
    (hcreated : env.createdTimer ≠ 0) (heffect : TimerEffect env manager event after) :
    after.NoFailedRecord := by
  cases heffect with
  | kept _ hsame => exact hsame.noFailedRecord hnofailed
  | started owner _ hstarts =>
      intro userId
      rw [hstarts.recorded]
      split
      · rw [recordedTimer_none hnofailed hstarts.unrecorded, Option.getD_none]
        exact fun heq => hcreated (Option.some.inj heq)
      · exact hnofailed userId
  | destroyed owner _ _ hsame => exact hsame.noFailedRecord (hnofailed.destroy owner)
  | destroyedAll _ hafter =>
      rw [hafter]
      exact destroyAllStrongAuthTimer_induction (fun _ owner hheld => hheld.destroy owner) hnofailed

/-- Every live timer is on record, and every record names a live timer. -/
structure TimersOnRecord (manager : StrongAuthManger) : Prop where
  backed : manager.Backed
  recorded : manager.Recorded
  nofailed : manager.NoFailedRecord

namespace TimersOnRecord

theorem empty : TimersOnRecord empty where
  backed := empty_backed
  recorded := empty_noTimerEscapes.recorded
  nofailed userId := by simp [recordedTimer, StrongAuthManger.empty]

theorem step (hcreated : env.createdTimer ≠ 0) (hfresh : manager.Fresh env.createdTimer)
    (htimers : manager.TimersOnRecord) : (manager.step (env, event)).TimersOnRecord := by
  have hmay : manager.MayCreate env.createdTimer := Or.inr hfresh
  have heffect : TimerEffect env manager event (manager.enter env event) :=
    enter_timerEffect manager event
  have hsame := step_same manager (env, event)
  refine ⟨step_backed hmay htimers.backed, hsame.allRecorded ?_,
    hsame.noFailedRecord (htimers.nofailed.effect hcreated heffect)⟩
  refine (Recorded.effect_iff htimers.backed htimers.recorded hmay heffect).mpr ?_
  exact fun owner _ hzero => absurd hzero (htimers.nofailed owner)

theorem destroyAll (htimers : manager.TimersOnRecord) :
    manager.destroyAllStrongAuthTimer.TimersOnRecord :=
  destroyAllStrongAuthTimer_induction
    (fun _ owner hheld => ⟨hheld.backed.destroy owner, hheld.recorded.destroy owner,
      hheld.nofailed.destroy owner⟩) htimers

theorem not_live_destroyAll (htimers : manager.TimersOnRecord) (timerId : TimerId)
    (userId : UserId) : ¬ manager.destroyAllStrongAuthTimer.Live timerId userId :=
  ((noTimerEscapes_iff htimers.backed).mpr htimers.recorded).destroyedAll userId timerId

end TimersOnRecord

theorem getTimerId_effect (hrecorded : manager.getTimerId userId ≠ 0)
    (hkept : unwantsTimer env manager event ≠ some userId)
    (hsome : event ≠ .destroyAllStrongAuthTimer)
    (heffect : TimerEffect env manager event after) : after.getTimerId userId ≠ 0 := by
  cases heffect with
  | kept _ hsame => rwa [hsame.getTimerId]
  | started owner _ hstarts =>
      have hother : userId ≠ owner := by
        rintro rfl
        exact hrecorded hstarts.unrecorded
      rw [getTimerId_eq, hstarts.recorded, if_neg hother]
      exact hrecorded
  | destroyed owner hunwants _ hsame =>
      have hother : userId ≠ owner := by
        rintro rfl
        exact hkept hunwants
      rw [hsame.getTimerId, getTimerId_eq, recordedTimer_destroyStrongAuthTimer,
        if_neg fun hall => hother hall.2]
      exact hrecorded
  | destroyedAll hevent _ => exact absurd hevent hsome

theorem getTimerId_wanted (hnofailed : manager.NoFailedRecord) (hcreated : env.createdTimer ≠ 0)
    (hwants : wantsTimer env manager event = some userId)
    (heffect : TimerEffect env manager event after) : after.getTimerId userId ≠ 0 := by
  cases heffect with
  | kept hwanted hsame =>
      rw [hsame.getTimerId]
      exact hwanted userId hwants
  | started owner hwanted hstarts =>
      obtain rfl := Option.some.inj (hwants.symm.trans hwanted)
      rw [getTimerId_eq, hstarts.recorded, if_pos rfl, Option.getD_some,
        recordedTimer_none hnofailed hstarts.unrecorded, Option.getD_none]
      exact hcreated
  | destroyed owner _ hnone _ =>
      rw [hwants] at hnone
      cases hnone
  | destroyedAll hevent _ =>
      subst hevent
      cases hwants

theorem getTimerId_destroyAllStrongAuthTimer (manager : StrongAuthManger) (userId : UserId) :
    manager.destroyAllStrongAuthTimer.getTimerId userId = 0 := by
  have hdestroy : ∀ (current : StrongAuthManger) (owner : UserId),
      (current.destroyStrongAuthTimer owner).getTimerId userId =
        if userId = owner then 0 else current.getTimerId userId := by
    intro current owner
    rw [getTimerId_eq, recordedTimer_destroyStrongAuthTimer]
    by_cases howner : userId = owner
    · subst howner
      by_cases hzero : current.getTimerId userId = 0
      · simp only [hzero, ne_eq, not_true_eq_false, false_and, if_false, if_true]
        exact hzero
      · simp [hzero]
    · simp only [howner, and_false, if_false]
      rfl
  -- an account in the list is cleared, and none is set again
  have hwalk : ∀ (owners : List UserId) (current : StrongAuthManger),
      current.getTimerId userId = 0 ∨ userId ∈ owners →
        (owners.foldl (fun current owner => current.destroyStrongAuthTimer owner)
          current).getTimerId userId = 0 := by
    intro owners
    induction owners with
    | nil =>
        intro current hstart
        exact hstart.resolve_right List.not_mem_nil
    | cons owner rest ih =>
        intro current hstart
        refine ih _ ?_
        rw [hdestroy]
        split
        · exact Or.inl rfl
        · next hother =>
            exact hstart.imp_right fun hmem => (List.mem_cons.mp hmem).resolve_left hother
  refine hwalk _ manager ?_
  by_cases hzero : manager.getTimerId userId = 0
  · exact Or.inl hzero
  · exact Or.inr (mem_keys_of_recorded (recordedTimer_of_getTimerId hzero))

/-- A handler records a timer only where it wants one. -/
theorem recordedTimer_effect
    (heffect : TimerEffect env manager event after) {timerId : TimerId}
    (hrecord : after.recordedTimer userId = some timerId) :
    manager.recordedTimer userId = some timerId ∨ wantsTimer env manager event = some userId := by
  cases heffect with
  | kept _ hsame => exact Or.inl ((hsame.recorded userId).symm.trans hrecord)
  | started owner hwants hstarts =>
      rw [hstarts.recorded] at hrecord
      split at hrecord
      next hown => exact Or.inr (hown ▸ hwants)
      next => exact Or.inl hrecord
  | destroyed owner _ _ hsame =>
      rw [hsame.recorded, recordedTimer_destroyStrongAuthTimer] at hrecord
      split at hrecord
      · cases hrecord
      · exact Or.inl hrecord
  | destroyedAll _ hafter =>
      rw [hafter] at hrecord
      revert hrecord
      refine @destroyAllStrongAuthTimer_induction manager
        (fun current => current.recordedTimer userId = some timerId →
          manager.recordedTimer userId = some timerId ∨ wantsTimer env manager event = some userId)
        (fun current owner hheld hrecord => hheld ?_) Or.inl
      rw [recordedTimer_destroyStrongAuthTimer] at hrecord
      split at hrecord
      · cases hrecord
      · exact hrecord

/-- Where no timer is deleted, a handler leaves the account a timer exactly if it
wants one, or finds one and is not the end of the service. -/
theorem getTimerId_enter_iff (hnofailed : manager.NoFailedRecord)
    (hcreated : env.createdTimer ≠ 0) (hkept : unwantsTimer env manager event ≠ some userId) :
    (manager.enter env event).getTimerId userId ≠ 0 ↔
      wantsTimer env manager event = some userId ∨
        (manager.getTimerId userId ≠ 0 ∧ event ≠ .destroyAllStrongAuthTimer) := by
  have heffect : TimerEffect env manager event (manager.enter env event) :=
    enter_timerEffect manager event
  constructor
  · intro hafter
    rcases recordedTimer_effect heffect (recordedTimer_of_getTimerId hafter) with
      hbefore | hwants
    · refine Or.inr ⟨?_, ?_⟩
      · rwa [getTimerId_eq, hbefore, Option.getD_some]
      · rintro rfl
        exact hafter (getTimerId_destroyAllStrongAuthTimer manager userId)
    · exact Or.inl hwants
  · rintro (hwants | ⟨hbefore, hsome⟩)
    · exact getTimerId_wanted hnofailed hcreated hwants heffect
    · exact getTimerId_effect hbefore hkept hsome heffect

end Timers

section Step

variable {manager : StrongAuthManger} {userId : UserId} {entry : Environment × StrongAuthEvent}

theorem timeoutReason_ne_afterBoot (triggerPeriod : Int) :
    timeoutReason triggerPeriod ≠ StrongAuthReasonFlags.afterBoot := by
  unfold timeoutReason
  split <;> decide

theorem requested_eq_afterBoot_iff {before : Option Int} {reasonFlag : Int}
    (hne : reasonFlag ≠ StrongAuthReasonFlags.none) :
    requested before reasonFlag = StrongAuthReasonFlags.afterBoot ↔
      reasonFlag = StrongAuthReasonFlags.afterBoot ∨
        before = some StrongAuthReasonFlags.afterBoot := by
  unfold requested
  by_cases hboot : before = some StrongAuthReasonFlags.afterBoot
  · simp [hboot, hne]
  · simp [hboot]

/-- The flag of an account that is spared, from the one it had before. -/
theorem enter_stateInfo_of_spares (hspares : SparesBoot userId entry) :
    (manager.enter entry.1 entry.2).strongAuthStateInfo[userId]? =
      match entry.2 with
      | .setStrongAuthStat user reasonFlag =>
          if user = userId then some (requested manager.strongAuthStateInfo[userId]? reasonFlag)
          else manager.strongAuthStateInfo[userId]?
      | .credentialInfo user _ _ =>
          if user = userId then
            some (manager.strongAuthStateInfo[userId]?.getD StrongAuthReasonFlags.afterBoot)
          else manager.strongAuthStateInfo[userId]?
      | .timerFired user =>
          if user = userId then
            some (requested manager.strongAuthStateInfo[userId]?
              (timeoutReason (manager.getStrongAuthTimeTrigger user)))
          else manager.strongAuthStateInfo[userId]?
      | _ => manager.strongAuthStateInfo[userId]? := by
  obtain ⟨env, event⟩ := entry
  cases event with
  | setStrongAuthStat user reasonFlag =>
      rw [enter, setStrongAuthStat_get]
      by_cases huser : user = userId <;> simp [huser]
  | accountUnlocked user => rw [enter, accountUnlocked_stateInfo]
  | getCredInfo user => rw [enter, getCredInfo_stateInfo]
  | credentialInfo user result infoList =>
      rw [enter, onCredentialInfo_get]
      by_cases huser : user = userId
      · have hlength : infoList.length > 0 := List.length_pos_iff.mpr (hspares.2 huser)
        simp [huser, hlength]
      · simp [huser]
  | authSuccess user authType isWidgetAuth =>
      rw [enter, onNotifyAuthSuccessEvent_get, if_neg]
      rintro ⟨hpin, hwidget, huser⟩
      exact hspares.2 ⟨huser, hpin, hwidget⟩
  | credChange user authType eventType isSilentCredChange =>
      rw [enter, onNotifyCredChangeEvent_get]
      -- a deletion is excluded, and no other event writes a flag
      split
      · next hacts =>
          have hkeeps : ¬ (eventType = .delUser ∨ eventType = .enforceDelUser) := fun hdeletes =>
            hspares.2 ⟨hacts.2.2.2, hacts.2.1, hdeletes⟩
          rw [if_neg fun hdel => hkeeps (Or.inl hdel),
            if_neg fun henforce => hkeeps (Or.inr henforce)]
      · rfl
  | timerFired user =>
      rw [enter, strongAuthTimerCallback, setStrongAuthStat_get]
      by_cases huser : user = userId <;> simp [huser]
  | destroyAllStrongAuthTimer => rw [enter, destroyAllStrongAuthTimer_stateInfo]

/-- The account is flagged after an entry that flags it, or that finds it flagged. -/
theorem afterBoot_step_iff (hspares : SparesBoot userId entry) :
    (manager.step entry).strongAuthStateInfo[userId]? = some StrongAuthReasonFlags.afterBoot ↔
      FlagsBoot userId manager entry ∨
        manager.strongAuthStateInfo[userId]? = some StrongAuthReasonFlags.afterBoot := by
  change (manager.enter entry.1 entry.2).strongAuthStateInfo[userId]? = _ ↔ _
  rw [enter_stateInfo_of_spares hspares]
  obtain ⟨env, event⟩ := entry
  cases event with
  | setStrongAuthStat user reasonFlag =>
      by_cases huser : user = userId
      · simp [FlagsBoot, huser, requested_eq_afterBoot_iff (hspares.2 huser)]
      · simp [FlagsBoot, huser]
  | credentialInfo user result infoList =>
      by_cases huser : user = userId
      · cases hbefore : manager.strongAuthStateInfo[userId]? <;>
          simp [FlagsBoot, huser, isUserExitInStrongAuthInfo, hbefore]
      · simp [FlagsBoot, huser]
  | timerFired user =>
      by_cases huser : user = userId
      · subst huser
        simp [FlagsBoot, requested_eq_afterBoot_iff (timeoutReason_ne_none _),
          timeoutReason_ne_afterBoot]
      · simp [FlagsBoot, huser]
  | _ => simp [FlagsBoot]

theorem unwantsTimer_spared (hspares : SparesBoot userId entry) :
    unwantsTimer entry.1 manager entry.2 ≠ some userId := by
  obtain ⟨env, event⟩ := entry
  cases event with
  | credChange user authType eventType isSilentCredChange =>
      simp only [unwantsTimer]
      split
      · next hacts =>
          intro huser
          exact hspares.2 ⟨Option.some.inj huser, hacts.2.1, hacts.2.2.2⟩
      · exact fun heq => by cases heq
  | _ => exact fun heq => by cases heq

/-- Once the account is guarded, only the end of the service changes that. -/
theorem bootGuarded_step (hspares : SparesBoot userId entry)
    (hsome : entry.2 ≠ .destroyAllStrongAuthTimer) (hguarded : manager.BootGuarded userId) :
    (manager.step entry).BootGuarded userId := by
  have htimer : (manager.enter entry.1 entry.2).getTimerId userId ≠ 0 :=
    getTimerId_effect hguarded.2 (unwantsTimer_spared hspares) hsome
      (enter_timerEffect manager entry.2)
  exact ⟨(afterBoot_step_iff hspares).mpr (Or.inr hguarded.1), htimer⟩

theorem bootGuarded_getCredInfo {env : Environment} {user : UserId} :
    (manager.step (env, .getCredInfo user)).BootGuarded userId ↔ manager.BootGuarded userId := by
  have hsame : SameTimers manager (manager.getCredInfo env user).2 := by
    refine SameTimers.of_eq ?_ ?_ <;>
    · unfold getCredInfo
      split
      · rfl
      · split <;> rfl
  have hflag : (manager.step (env, .getCredInfo user)).strongAuthStateInfo =
      manager.strongAuthStateInfo := manager.getCredInfo_stateInfo env user
  have htimer : (manager.step (env, .getCredInfo user)).getTimerId userId =
      manager.getTimerId userId := hsame.getTimerId userId
  unfold BootGuarded
  rw [hflag, htimer]

theorem getTimerId_step_iff (hspares : SparesBoot userId entry)
    (hnofailed : manager.NoFailedRecord) :
    (manager.step entry).getTimerId userId ≠ 0 ↔
      wantsTimer entry.1 manager entry.2 = some userId ∨
        (manager.getTimerId userId ≠ 0 ∧ entry.2 ≠ .destroyAllStrongAuthTimer) :=
  getTimerId_enter_iff hnofailed hspares.1 (unwantsTimer_spared hspares)

/-- An answer leaves the account guarded if it finds no record, or one that is flagged. -/
theorem bootGuarded_credentialInfo (hnofailed : manager.NoFailedRecord) {env : Environment}
    {result : ResultCode} {infoList : List CredentialInfo}
    (hspares : SparesBoot userId (env, .credentialInfo userId result infoList)) :
    (manager.step (env, .credentialInfo userId result infoList)).BootGuarded userId ↔
      (manager.isUserExitInStrongAuthInfo userId = true →
        manager.strongAuthStateInfo[userId]? = some StrongAuthReasonFlags.afterBoot) := by
  have hlength : infoList.length > 0 := List.length_pos_iff.mpr (hspares.2 rfl)
  have hwants : wantsTimer env manager (.credentialInfo userId result infoList) = some userId :=
    if_pos (Or.inl hlength)
  have htimer := (getTimerId_step_iff hspares hnofailed).mpr (Or.inl hwants)
  rw [BootGuarded, and_iff_left htimer, afterBoot_step_iff hspares]
  cases hknown : manager.isUserExitInStrongAuthInfo userId with
  | false => simp [FlagsBoot, hknown]
  | true => simp [FlagsBoot, hknown]

/-- The step lemma: a guarded account stays guarded, and the end of an activation
leaves it guarded, exactly if the entry finds its own record. -/
theorem bootGuarded_step_iff {completed flagged started : Prop}
    (hspares : SparesBoot userId entry) (hnofailed : manager.NoFailedRecord)
    (hflagged : manager.strongAuthStateInfo[userId]? = some StrongAuthReasonFlags.afterBoot ↔
      flagged)
    (hstarted : manager.getTimerId userId ≠ 0 ↔ started)
    (hheld : completed → manager.BootGuarded userId) :
    ((CompletesBoot userId manager entry ∨ completed) → (manager.step entry).BootGuarded userId) ↔
      FindsOwnRecord userId completed flagged started manager entry := by
  have hkept : entry.2 ≠ .destroyAllStrongAuthTimer → completed →
      (manager.step entry).BootGuarded userId := fun hsome hcompleted =>
    bootGuarded_step hspares hsome (hheld hcompleted)
  have hguarded : manager.BootGuarded userId ↔ flagged ∧ started := and_congr hflagged hstarted
  obtain ⟨env, event⟩ := entry
  cases event with
  | getCredInfo user =>
      rw [bootGuarded_getCredInfo, hguarded]
      -- an activation that finds an entry is over at once, and leaves it as it was
      constructor
      · intro hafter huser hknown
        exact Or.inr (hafter (Or.inl ⟨huser, hknown⟩))
      · rintro hown (⟨huser, hknown⟩ | hcompleted)
        · exact (hown huser hknown).elim (fun hover => hguarded.mp (hheld hover)) id
        · exact hguarded.mp (hheld hcompleted)
  | credentialInfo user result infoList =>
      by_cases huser : user = userId
      · subst huser
        rw [bootGuarded_credentialInfo hnofailed hspares, hflagged]
        constructor
        · exact fun hafter _ => hafter (Or.inl rfl)
        · exact fun hown _ => hown rfl
      · refine iff_of_true ?_ (fun heq => absurd heq huser)
        rintro (heq | hcompleted)
        · exact absurd heq huser
        · exact hkept StrongAuthEvent.noConfusion hcompleted
  | destroyAllStrongAuthTimer =>
      have hgone : ¬ (manager.step (env, .destroyAllStrongAuthTimer)).BootGuarded userId :=
        fun hguarded => hguarded.2 (getTimerId_destroyAllStrongAuthTimer manager userId)
      constructor
      · exact fun hafter hcompleted => hgone (hafter (Or.inr hcompleted))
      · exact fun hrunning hdone => absurd (hdone.resolve_left id) hrunning
  | _ =>
      -- no other entry ends an activation
      refine iff_of_true (fun hdone => ?_) trivial
      exact hkept StrongAuthEvent.noConfusion (hdone.resolve_left id)

end Step

end Screenlock.StrongAuthManger
