import Screenlock.Foundation.Noninterference
import Screenlock.StrongAuth.Boot
import Screenlock.StrongAuth.TimerView

/-! # What the manager keeps apart

The requirement, the timer record and the announced changes of an account are
read and written for that account alone, whatever timers the time service has
created or lost: no decision of the manager reads the timer behind a record.
-/

namespace Screenlock

/-- What the decisions about one account read, and the changes announced for it. -/
@[ext]
structure AccountAuth where
  flag : Option Int
  info : Option TimerInfo
  changes : List Int
  deriving DecidableEq, Repr

namespace StrongAuthManger

open Foundation

variable (manager : StrongAuthManger) (env : Environment) (userId other : UserId)

def changesOf : List Int :=
  manager.changes.filterMap fun change => if change.1 = userId then some change.2 else none

/-- The manager, as far as it concerns the account. -/
def authOf (userId : UserId) (manager : StrongAuthManger) : AccountAuth where
  flag := manager.strongAuthStateInfo[userId]?
  info := manager.strongAuthTimerInfo[userId]?
  changes := manager.changesOf userId

section Records

theorem startStrongAuthTimer_get (created : TimerId) (currentTime triggerPeriod : Int) :
    (manager.startStrongAuthTimer created currentTime userId
        triggerPeriod).strongAuthTimerInfo[other]? =
      if userId = other then
        some (manager.strongAuthTimerInfo[userId]?.getD ⟨created, triggerPeriod, currentTime⟩)
      else manager.strongAuthTimerInfo[other]? := by
  by_cases hnone : manager.getTimerId userId = 0
  · split
    next heq =>
      subst heq
      exact startStrongAuthTimer_info hnone currentTime triggerPeriod
    next hne =>
      rw [startStrongAuthTimer, if_neg (not_not.mpr hnone)]
      simp [Std.TreeMap.getElem?_insertIfNew, hne]
  · rw [startStrongAuthTimer_kept _ _ hnone]
    split
    next heq =>
      subst heq
      cases hinfo : manager.strongAuthTimerInfo[userId]? with
      | none => exact absurd (getTimerId_of_none hinfo) hnone
      | some info => rfl
    next => rfl

/-- The record that `ResetStrongAuthTimer` leaves. -/
def renewed (created : TimerId) (currentTime laterTime triggerPeriod : Int) :
    Option TimerInfo → TimerInfo
  | none => ⟨created, triggerPeriod, currentTime⟩
  | some info =>
      if info.timerId = 0 then info
      else { info with triggerPeriod := triggerPeriod, credChangeTimerStamp := laterTime }

theorem resetStrongAuthTimer_get (created : TimerId)
    (currentTime laterTime triggerPeriod : Int) :
    (manager.resetStrongAuthTimer created currentTime laterTime userId
        triggerPeriod).strongAuthTimerInfo[other]? =
      if userId = other then
        some (renewed created currentTime laterTime triggerPeriod
          manager.strongAuthTimerInfo[userId]?)
      else manager.strongAuthTimerInfo[other]? := by
  cases hinfo : manager.strongAuthTimerInfo[userId]? with
  | none =>
      rw [resetStrongAuthTimer_none _ _ _ (getTimerId_of_none hinfo), startStrongAuthTimer_get,
        hinfo]
      rfl
  | some info =>
      have hid := getTimerId_of_info hinfo
      by_cases hzero : info.timerId = 0
      · rw [resetStrongAuthTimer_none _ _ _ (hid.trans hzero), startStrongAuthTimer_get, hinfo]
        simp [renewed, hzero]
      · simp [resetStrongAuthTimer, hid, hzero, setCredChangeTriggerPeriod, hinfo, renewed,
          Std.TreeMap.getElem?_insert]

theorem getStrongAuthTriggerPeriod_get (currentTime : Int) :
    (manager.getStrongAuthTriggerPeriod currentTime userId).2.strongAuthTimerInfo[other]? =
      if userId = other then
        manager.strongAuthTimerInfo[userId]?.map fun info => info.advance currentTime
      else manager.strongAuthTimerInfo[other]? := by
  unfold getStrongAuthTriggerPeriod
  cases hinfo : manager.strongAuthTimerInfo[userId]? with
  | none =>
      by_cases heq : userId = other
      · subst heq
        simp [hinfo]
      · simp [heq]
  | some info => simp [Std.TreeMap.getElem?_insert]

theorem destroyStrongAuthTimer_get :
    (manager.destroyStrongAuthTimer userId).strongAuthTimerInfo[other]? =
      if userId = other ∧ manager.getTimerId userId ≠ 0 then none
      else manager.strongAuthTimerInfo[other]? := by
  by_cases hzero : manager.getTimerId userId = 0
  · simp [destroyStrongAuthTimer, hzero]
  · simp [destroyStrongAuthTimer, hzero, destroyTimer, Std.TreeMap.getElem?_erase]

/-- An account whose timer has been destroyed once has none for the walk to meet again. -/
theorem destroyAllStrongAuthTimer_get :
    manager.destroyAllStrongAuthTimer.strongAuthTimerInfo[userId]? =
      if manager.getTimerId userId ≠ 0 then none else manager.strongAuthTimerInfo[userId]? := by
  have hwalk : manager.destroyAllStrongAuthTimer.strongAuthTimerInfo[userId]? =
        manager.strongAuthTimerInfo[userId]? ∨
      manager.getTimerId userId ≠ 0 ∧
        manager.destroyAllStrongAuthTimer.strongAuthTimerInfo[userId]? = none := by
    apply @destroyAllStrongAuthTimer_induction manager fun current =>
      current.strongAuthTimerInfo[userId]? = manager.strongAuthTimerInfo[userId]? ∨
        manager.getTimerId userId ≠ 0 ∧ current.strongAuthTimerInfo[userId]? = none
    · intro current owner hcurrent
      rw [destroyStrongAuthTimer_get]
      split
      next hown =>
        obtain ⟨rfl, hsome⟩ := hown
        rcases hcurrent with hsame | ⟨hfirst, _⟩
        · refine Or.inr ⟨?_, rfl⟩
          rwa [getTimerId, ← hsame]
        · exact Or.inr ⟨hfirst, rfl⟩
      next => exact hcurrent
    · exact Or.inl rfl
  have hcleared := manager.getTimerId_destroyAllStrongAuthTimer userId
  rcases hwalk with hsame | ⟨hsome, hnone⟩
  · have hzero : manager.getTimerId userId = 0 := by rwa [getTimerId, hsame] at hcleared
    rw [if_neg (not_not.mpr hzero), hsame]
  · rw [if_pos hsome, hnone]

end Records

section Changes

/-- `NotifyStrongAuthChange` announces the flag. -/
def announced (reasonFlag : Int) : List Int :=
  if reasonFlag = StrongAuthReasonFlags.none ∧ env.isOsAccountUnlocked userId = false then []
  else [reasonFlag]

theorem changesOf_notify (reasonFlag : Int) :
    (manager.notifyStrongAuthChange env userId reasonFlag).changesOf other =
      manager.changesOf other ++
        if userId = other then announced env userId reasonFlag else [] := by
  have happend : { manager with changes := manager.changes ++ [(userId, reasonFlag)] }.changesOf
        other = manager.changesOf other ++ if userId = other then [reasonFlag] else [] := by
    simp only [changesOf, List.filterMap_append]
    by_cases heq : userId = other <;> simp [heq]
  unfold notifyStrongAuthChange announced
  by_cases hnone : reasonFlag = StrongAuthReasonFlags.none
  · cases hunlocked : env.isOsAccountUnlocked userId with
    | true =>
        rw [if_pos hnone, if_pos rfl, happend]
        simp
    | false => simp [hnone]
  · rw [if_neg hnone, happend]
    simp [hnone]

theorem changesOf_storeFlag (reasonFlag : Int) :
    ((manager.storeFlag userId reasonFlag).notifyStrongAuthChange env userId
        reasonFlag).changesOf other =
      manager.changesOf other ++
        if userId = other then announced env userId reasonFlag else [] := by
  rw [changesOf_notify]
  rfl

theorem changesOf_setStrongAuthStat (reasonFlag : Int) :
    (manager.setStrongAuthStat env userId reasonFlag).changesOf other =
      manager.changesOf other ++
        if userId = other ∧ ¬ (manager.strongAuthStateInfo[userId]? =
            some StrongAuthReasonFlags.afterBoot ∧ reasonFlag ≠ StrongAuthReasonFlags.none) then
          announced env userId reasonFlag
        else [] := by
  unfold setStrongAuthStat
  cases hold : manager.strongAuthStateInfo[userId]? with
  | none => simp [changesOf_storeFlag]
  | some oldFlag =>
      by_cases hguard : oldFlag = StrongAuthReasonFlags.afterBoot ∧
          reasonFlag ≠ StrongAuthReasonFlags.none
      · simp [hguard]
      · dsimp only
        rw [if_neg hguard, changesOf_storeFlag]
        simp only [Option.some.injEq, hguard, not_false_eq_true, and_true]

theorem changesOf_initStrongAuthStat (reasonFlag : Int) :
    (manager.initStrongAuthStat env userId reasonFlag).changesOf other =
      manager.changesOf other ++
        if userId = other ∧ manager.strongAuthStateInfo[userId]? = none then
          announced env userId reasonFlag
        else [] := by
  unfold initStrongAuthStat
  cases hold : manager.strongAuthStateInfo[userId]? with
  | none => simp [changesOf_storeFlag]
  | some oldFlag => simp

end Changes

section Locality

/-! Each function is local to the account it is called for. -/

variable {manager env userId}

abbrev Local (userId : UserId) (f : StrongAuthManger → StrongAuthManger) : Prop :=
  LocalTo authOf userId f

theorem local_notifyStrongAuthChange (reasonFlag : Int) :
    Local userId (fun manager => manager.notifyStrongAuthChange env userId reasonFlag) := by
  refine LocalTo.of_view (fun account =>
    { account with changes := account.changes ++ announced env userId reasonFlag }) ?_ ?_
  · exact fun manager => by simp [authOf, changesOf_notify]
  · exact fun manager hother => by simp [authOf, changesOf_notify, hother]

theorem local_setStrongAuthStat (reasonFlag : Int) :
    Local userId (fun manager => manager.setStrongAuthStat env userId reasonFlag) := by
  refine LocalTo.of_view (fun account =>
    { account with
      flag := some (requested account.flag reasonFlag)
      changes := account.changes ++
        if ¬ (account.flag = some StrongAuthReasonFlags.afterBoot ∧
            reasonFlag ≠ StrongAuthReasonFlags.none) then announced env userId reasonFlag
        else [] }) ?_ ?_
  · exact fun manager => by
      simp [authOf, setStrongAuthStat_get, changesOf_setStrongAuthStat]
  · exact fun manager hother => by
      simp [authOf, setStrongAuthStat_get, changesOf_setStrongAuthStat, hother]

theorem local_initStrongAuthStat (reasonFlag : Int) :
    Local userId (fun manager => manager.initStrongAuthStat env userId reasonFlag) := by
  refine LocalTo.of_view (fun account =>
    { account with
      flag := some (account.flag.getD reasonFlag)
      changes := account.changes ++
        if account.flag = none then announced env userId reasonFlag else [] }) ?_ ?_
  · exact fun manager => by
      simp [authOf, initStrongAuthStat_get, initStrongAuthStat_timerInfo,
        changesOf_initStrongAuthStat]
  · exact fun manager hother => by
      simp [authOf, initStrongAuthStat_get, initStrongAuthStat_timerInfo,
        changesOf_initStrongAuthStat, hother]

theorem local_destroyStrongAuthStateInfo :
    Local userId (fun manager => manager.destroyStrongAuthStateInfo userId) := by
  refine LocalTo.of_view (fun account => { account with flag := none }) ?_ ?_
  · exact fun manager => by
      simp [authOf, changesOf, destroyStrongAuthStateInfo]
  · exact fun manager hother => by
      simp [authOf, changesOf, destroyStrongAuthStateInfo, Std.TreeMap.getElem?_erase, hother]

/-- A function that keeps the flags is told by what it does to the records. -/
theorem local_of_info {f : StrongAuthManger → StrongAuthManger}
    (change : Option TimerInfo → Option TimerInfo)
    (hkeeps : ∀ manager, KeepsFlags manager (f manager))
    (hinfo : ∀ manager other, (f manager).strongAuthTimerInfo[other]? =
      if userId = other then change manager.strongAuthTimerInfo[userId]?
      else manager.strongAuthTimerInfo[other]?) : Local userId f := by
  refine LocalTo.of_view (fun account => { account with info := change account.info }) ?_ ?_
  · intro manager
    simp only [authOf, changesOf, (hkeeps manager).stateInfo, (hkeeps manager).changes, hinfo,
      if_true]
  · intro other manager hother
    simp only [authOf, changesOf, (hkeeps manager).stateInfo, (hkeeps manager).changes, hinfo,
      if_neg hother]

theorem local_startStrongAuthTimer (created : TimerId) (currentTime triggerPeriod : Int) :
    Local userId (fun manager =>
      manager.startStrongAuthTimer created currentTime userId triggerPeriod) :=
  local_of_info (fun info => some (info.getD ⟨created, triggerPeriod, currentTime⟩))
    (fun manager => manager.startStrongAuthTimer_keeps userId created currentTime triggerPeriod)
    (fun manager other =>
      manager.startStrongAuthTimer_get userId other created currentTime triggerPeriod)

theorem local_resetStrongAuthTimer (created : TimerId)
    (currentTime laterTime triggerPeriod : Int) :
    Local userId (fun manager =>
      manager.resetStrongAuthTimer created currentTime laterTime userId triggerPeriod) :=
  local_of_info (fun info => some (renewed created currentTime laterTime triggerPeriod info))
    (fun manager => manager.resetStrongAuthTimer_keeps userId created currentTime laterTime
      triggerPeriod)
    (fun manager other => manager.resetStrongAuthTimer_get userId other created currentTime
      laterTime triggerPeriod)

theorem local_getStrongAuthTriggerPeriod (currentTime : Int) :
    Local userId (fun manager => (manager.getStrongAuthTriggerPeriod currentTime userId).2) :=
  local_of_info (fun info => info.map fun info => info.advance currentTime)
    (fun manager => manager.getStrongAuthTriggerPeriod_keeps userId currentTime)
    (fun manager other => manager.getStrongAuthTriggerPeriod_get userId other currentTime)

theorem local_destroyStrongAuthTimer :
    Local userId (fun manager => manager.destroyStrongAuthTimer userId) := by
  refine local_of_info (fun info =>
      if (info.map TimerInfo.timerId).getD 0 ≠ 0 then none else info)
    (fun manager => manager.destroyStrongAuthTimer_keeps userId) (fun manager other => ?_)
  rw [destroyStrongAuthTimer_get]
  by_cases hown : userId = other
  · subst hown
    simp only [true_and, if_true]
    rfl
  · simp only [hown, false_and, if_false]

/-- The period read depends on the record of the account. -/
theorem getStrongAuthTriggerPeriod_congr (currentTime : Int) {first second : StrongAuthManger}
    (hsame : authOf userId first = authOf userId second) :
    (first.getStrongAuthTriggerPeriod currentTime userId).1 =
      (second.getStrongAuthTriggerPeriod currentTime userId).1 := by
  have hinfo : first.strongAuthTimerInfo[userId]? = second.strongAuthTimerInfo[userId]? :=
    congrArg AccountAuth.info hsame
  unfold getStrongAuthTriggerPeriod
  rw [hinfo]
  split <;> rfl

theorem isUserExit_congr {first second : StrongAuthManger}
    (hsame : authOf userId first = authOf userId second) :
    first.isUserExitInStrongAuthInfo userId = true ↔
      second.isUserExitInStrongAuthInfo userId = true := by
  have hflag : first.strongAuthStateInfo[userId]? = second.strongAuthStateInfo[userId]? :=
    congrArg AccountAuth.flag hsame
  rw [isUserExitInStrongAuthInfo, isUserExitInStrongAuthInfo, hflag]

theorem getStrongAuthTimeTrigger_congr {first second : StrongAuthManger}
    (hsame : authOf userId first = authOf userId second) :
    first.getStrongAuthTimeTrigger userId = second.getStrongAuthTimeTrigger userId := by
  have hinfo : first.strongAuthTimerInfo[userId]? = second.strongAuthTimerInfo[userId]? :=
    congrArg AccountAuth.info hsame
  rw [getStrongAuthTimeTrigger, getStrongAuthTimeTrigger, hinfo]

end Locality

section Handlers

variable {env : Environment} {userId : UserId}

theorem local_of_queries {f : StrongAuthManger → List UserId} :
    Local userId (fun manager => { manager with queries := f manager }) :=
  LocalTo.of_same fun _ _ => rfl

theorem local_strongAuthTimerCallback :
    Local userId (fun manager => manager.strongAuthTimerCallback env userId) := by
  have hreason : ∀ {first second : StrongAuthManger}, authOf userId first = authOf userId second →
      timeoutReason (first.getStrongAuthTimeTrigger userId) =
        timeoutReason (second.getStrongAuthTimeTrigger userId) :=
    fun hsame => congrArg timeoutReason (getStrongAuthTimeTrigger_congr hsame)
  have hset := LocalTo.arg hreason (@local_setStrongAuthStat env userId)
  exact hset

theorem local_onNotifyAuthSuccessEvent (authType : AuthType) (isWidgetAuth : Bool) :
    Local userId (fun manager =>
      manager.onNotifyAuthSuccessEvent env userId authType isWidgetAuth) := by
  have hadvanced := (@local_setStrongAuthStat env userId StrongAuthReasonFlags.none).comp
    (local_getStrongAuthTriggerPeriod (env.bootTimeMs 0))
  have hperiod : ∀ {first second : StrongAuthManger}, authOf userId first = authOf userId second →
      ((first.setStrongAuthStat env userId StrongAuthReasonFlags.none).getStrongAuthTriggerPeriod
          (env.bootTimeMs 0) userId).1 =
        ((second.setStrongAuthStat env userId StrongAuthReasonFlags.none).getStrongAuthTriggerPeriod
          (env.bootTimeMs 0) userId).1 :=
    fun hsame => getStrongAuthTriggerPeriod_congr _ ((local_setStrongAuthStat _).own hsame)
  have hreset := LocalTo.arg hperiod fun triggerPeriod =>
    hadvanced.comp (local_resetStrongAuthTimer env.createdTimer (env.bootTimeMs 1)
      (env.bootTimeMs 2) triggerPeriod)
  exact LocalTo.ite (fun _ => Iff.rfl) hreset (LocalTo.of_same fun _ _ => rfl)

theorem local_onNotifyCredChangeEvent (authType : AuthType) (eventType : CredChangeEventType)
    (isSilentCredChange : Bool) :
    Local userId (fun manager =>
      manager.onNotifyCredChangeEvent env userId authType eventType isSilentCredChange) := by
  have hkept : Local userId (fun manager => manager) := LocalTo.of_same fun _ _ => rfl
  have hreset := @local_resetStrongAuthTimer userId env.createdTimer (env.bootTimeMs 0)
    (env.bootTimeMs 1) credChangeFirstStrongAuthTimeoutMs
  have hcleared := (@local_setStrongAuthStat env userId StrongAuthReasonFlags.none).comp
    local_destroyStrongAuthTimer
  have hforgotten := (@local_destroyStrongAuthStateInfo userId).comp local_destroyStrongAuthTimer
  refine LocalTo.ite (fun _ => Iff.rfl) hkept (LocalTo.ite ?_ ?_ hkept)
  · exact fun hsame => and_congr_right fun _ => isUserExit_congr hsame
  · exact LocalTo.ite (fun _ => Iff.rfl) hreset
      (LocalTo.ite (fun _ => Iff.rfl) hcleared (LocalTo.ite (fun _ => Iff.rfl) hforgotten hkept))

theorem local_onCredentialInfo (result : ResultCode) (infoList : List CredentialInfo) :
    Local userId (fun manager => manager.onCredentialInfo env userId result infoList) := by
  have hinit := @local_initStrongAuthStat env userId
  exact LocalTo.ite (fun _ => Iff.rfl)
    ((hinit StrongAuthReasonFlags.afterBoot).comp (local_startStrongAuthTimer _ _ _))
    (hinit StrongAuthReasonFlags.none)

end Handlers

end StrongAuthManger

/-- The account an entry is about; the destruction of all timers is about every one. -/
def StrongAuthEvent.userId? : StrongAuthEvent → Option UserId
  | .setStrongAuthStat userId _ | .accountUnlocked userId | .getCredInfo userId
  | .credentialInfo userId _ _ | .authSuccess userId _ _ | .credChange userId _ _ _
  | .timerFired userId => some userId
  | .destroyAllStrongAuthTimer => none

namespace StrongAuthManger

open Foundation

theorem local_enter {env : Environment} {userId : UserId} {event : StrongAuthEvent}
    (howner : event.userId? = some userId) :
    Local userId (fun manager => manager.enter env event) := by
  cases event with
  | setStrongAuthStat user reasonFlag =>
      obtain rfl := Option.some.inj howner
      exact local_setStrongAuthStat reasonFlag
  | accountUnlocked user =>
      obtain rfl := Option.some.inj howner
      exact local_notifyStrongAuthChange StrongAuthReasonFlags.none
  | getCredInfo user =>
      refine LocalTo.of_same fun _ manager => ?_
      simp only [enter, getCredInfo]
      split
      · rfl
      · split <;> rfl
  | credentialInfo user result infoList =>
      obtain rfl := Option.some.inj howner
      exact local_of_queries.comp (local_onCredentialInfo result infoList)
  | authSuccess user authType isWidgetAuth =>
      obtain rfl := Option.some.inj howner
      exact local_onNotifyAuthSuccessEvent authType isWidgetAuth
  | credChange user authType eventType isSilentCredChange =>
      obtain rfl := Option.some.inj howner
      exact local_onNotifyCredChangeEvent authType eventType isSilentCredChange
  | timerFired user =>
      obtain rfl := Option.some.inj howner
      exact local_strongAuthTimerCallback
  | destroyAllStrongAuthTimer => cases howner

theorem authOf_destroyAllStrongAuthTimer {userId : UserId} {first second : StrongAuthManger}
    (hsame : authOf userId first = authOf userId second) :
    authOf userId first.destroyAllStrongAuthTimer =
      authOf userId second.destroyAllStrongAuthTimer := by
  have hinfo : first.strongAuthTimerInfo[userId]? = second.strongAuthTimerInfo[userId]? :=
    congrArg AccountAuth.info hsame
  have hid : first.getTimerId userId = second.getTimerId userId := by
    rw [getTimerId, getTimerId, hinfo]
  have hfirst := first.destroyAllStrongAuthTimer_keeps
  have hsecond := second.destroyAllStrongAuthTimer_keeps
  apply AccountAuth.ext
  · simpa [authOf] using congrArg AccountAuth.flag hsame
  · simp only [authOf, destroyAllStrongAuthTimer_get, hid, hinfo]
  · simp only [authOf, changesOf, hfirst.changes, hsecond.changes]
    exact congrArg AccountAuth.changes hsame

/-- What an entry leaves of an account depends on what the manager kept of that account. -/
theorem authOf_enter (env : Environment) {userId : UserId} (event : StrongAuthEvent)
    {first second : StrongAuthManger} (hsame : authOf userId first = authOf userId second) :
    authOf userId (first.enter env event) = authOf userId (second.enter env event) := by
  cases howner : event.userId? with
  | some owner => exact (local_enter howner).apart hsame
  | none =>
      cases event with
      | destroyAllStrongAuthTimer => exact authOf_destroyAllStrongAuthTimer hsame
      | _ => cases howner

/-- An entry about another account leaves the account as it is. -/
theorem authOf_enter_other (env : Environment) {userId owner : UserId} {event : StrongAuthEvent}
    (howner : event.userId? = some owner) (hother : owner ≠ userId)
    (manager : StrongAuthManger) :
    authOf userId (manager.enter env event) = authOf userId manager :=
  (local_enter howner).other manager hother

end StrongAuthManger

end Screenlock
