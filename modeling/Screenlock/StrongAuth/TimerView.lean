import Screenlock.StrongAuth.Deletion

/-! # The timer of one account

What the manager keeps for one account is whether it is known, its timer record
and what the timer named there is set to. The handlers act on it as if the
account were alone: those of other accounts leave it as it is.
-/

namespace Screenlock

/-- The record of an account, with what the timer it names is set to. -/
structure TimerSlot where
  info : TimerInfo
  armed : Option ArmedAt
  deriving DecidableEq, Repr

structure AccountTimer where
  known : Bool
  slot : Option TimerSlot
  deriving DecidableEq, Repr

namespace AccountTimer

open StrongAuthManger

variable (account : AccountTimer)

/-- `StartStrongAuthTimer`. A record that stands already stays. -/
def start (created : TimerId) (currentTime triggerPeriod : Int) : AccountTimer :=
  match account.slot with
  | some _ => account
  | none =>
      { account with
        slot := some ⟨⟨created, triggerPeriod, currentTime⟩,
          if created = 0 then none else some ⟨currentTime + triggerPeriod, triggerPeriod⟩⟩ }

/-- `ResetStrongAuthTimer`. -/
def reset (created : TimerId) (currentTime laterTime triggerPeriod : Int) : AccountTimer :=
  match account.slot with
  | some slot =>
      if slot.info.timerId = 0 then account
      else
        { account with
          slot := some
            ⟨{ slot.info with triggerPeriod := triggerPeriod, credChangeTimerStamp := laterTime },
              some ⟨currentTime + triggerPeriod, triggerPeriod⟩⟩ }
  | none => account.start created currentTime triggerPeriod

/-- The record `GetStrongAuthTriggerPeriod` leaves. -/
def advance (currentTime : Int) : AccountTimer :=
  { account with
    slot := account.slot.map fun slot => { slot with info := slot.info.advance currentTime } }

def triggerPeriod : Int :=
  (account.slot.map fun slot => slot.info.triggerPeriod).getD defaultStrongAuthTimeoutMs

/-- `DestroyStrongAuthTimer`. -/
def destroy : AccountTimer :=
  match account.slot with
  | some slot => if slot.info.timerId = 0 then account else { account with slot := none }
  | none => account

theorem destroy_destroy : account.destroy.destroy = account.destroy := by
  obtain ⟨known, slot⟩ := account
  cases slot with
  | none => rfl
  | some slot => by_cases hzero : slot.info.timerId = 0 <;> simp [destroy, hzero]

/-- What an entry into the manager does for the account `userId`. -/
def enter (env : Environment) (userId : UserId) (event : StrongAuthEvent) : AccountTimer :=
  match event with
  | .setStrongAuthStat user _ | .timerFired user =>
      if user = userId then { account with known := true } else account
  | .accountUnlocked _ | .getCredInfo _ => account
  | .credentialInfo user result infoList =>
      if user = userId then
        let admitted := { account with known := true }
        if infoList.length > 0 ∨ (result ≠ .success ∧ result ≠ .notEnrolled) then
          admitted.start env.createdTimer (env.bootTimeMs 0) defaultStrongAuthTimeoutMs
        else admitted
      else account
  | .authSuccess user authType isWidgetAuth =>
      if user = userId ∧ authType = .pin ∧ isWidgetAuth = false then
        let advanced := { account with known := true }.advance (env.bootTimeMs 0)
        advanced.reset env.createdTimer (env.bootTimeMs 1) (env.bootTimeMs 2)
          advanced.triggerPeriod
      else account
  | .credChange user authType eventType isSilentCredChange =>
      if user = userId ∧ env.deviceType ≠ "2in1" ∧ authType = .pin ∧ account.known = true then
        if renews eventType isSilentCredChange then
          account.reset env.createdTimer (env.bootTimeMs 0) (env.bootTimeMs 1)
            credChangeFirstStrongAuthTimeoutMs
        else if eventType = .delUser then account.destroy
        else if eventType = .enforceDelUser then { account with known := false }.destroy
        else account
      else account
  | .destroyAllStrongAuthTimer => account.destroy

end AccountTimer

namespace StrongAuthManger

def slot (manager : StrongAuthManger) (userId : UserId) : Option TimerSlot :=
  (manager.strongAuthTimerInfo[userId]?).map fun info =>
    ⟨info, if info.timerId = 0 then none
      else (manager.timers[info.timerId]?).bind AuthTimer.armed⟩

/-- The account as the manager keeps it. -/
def account (manager : StrongAuthManger) (userId : UserId) : AccountTimer where
  known := manager.isUserExitInStrongAuthInfo userId
  slot := manager.slot userId

section Own

/-! What the functions of the manager do for their own account. -/

variable {manager : StrongAuthManger} {userId : UserId} {created timerId : TimerId}

theorem account_congr {before after : StrongAuthManger}
    (hflags : after.strongAuthStateInfo = before.strongAuthStateInfo)
    (hinfo : after.strongAuthTimerInfo = before.strongAuthTimerInfo)
    (htimers : after.timers = before.timers) (userId : UserId) :
    after.account userId = before.account userId := by
  simp only [account, slot, isUserExitInStrongAuthInfo, hflags, hinfo, htimers]

theorem account_of_slot {after : StrongAuthManger} {view : AccountTimer}
    (hknown : after.isUserExitInStrongAuthInfo userId = view.known)
    (hslot : after.slot userId = view.slot) : after.account userId = view := by
  unfold account
  rw [hknown, hslot]

theorem account_setStrongAuthStat (env : Environment) (reasonFlag : Int) :
    (manager.setStrongAuthStat env userId reasonFlag).account userId =
      { manager.account userId with known := true } := by
  simp [account, slot, isUserExitInStrongAuthInfo, setStrongAuthStat_get]

theorem initStrongAuthStat_timerInfo (env : Environment) (reasonFlag : Int) :
    (manager.initStrongAuthStat env userId reasonFlag).strongAuthTimerInfo =
      manager.strongAuthTimerInfo := by
  unfold initStrongAuthStat
  split <;> simp [storeFlag]

theorem initStrongAuthStat_timers (env : Environment) (reasonFlag : Int) :
    (manager.initStrongAuthStat env userId reasonFlag).timers = manager.timers := by
  unfold initStrongAuthStat
  split <;> simp [storeFlag]

theorem account_initStrongAuthStat (env : Environment) (reasonFlag : Int) :
    (manager.initStrongAuthStat env userId reasonFlag).account userId =
      { manager.account userId with known := true } := by
  simp [account, slot, isUserExitInStrongAuthInfo, initStrongAuthStat_get,
    initStrongAuthStat_timerInfo, initStrongAuthStat_timers]

theorem slot_none (hinfo : manager.strongAuthTimerInfo[userId]? = none) :
    manager.slot userId = none := by
  simp [slot, hinfo]

theorem slot_some {info : TimerInfo} (hinfo : manager.strongAuthTimerInfo[userId]? = some info) :
    manager.slot userId = some ⟨info, if info.timerId = 0 then none
      else (manager.timers[info.timerId]?).bind AuthTimer.armed⟩ := by
  simp [slot, hinfo]

@[simp] theorem startTimer_timerInfo (currentTime triggerPeriod : Int) :
    (manager.startTimer timerId currentTime triggerPeriod).strongAuthTimerInfo =
      manager.strongAuthTimerInfo := by
  unfold startTimer
  split <;> rfl

@[simp] theorem createTimer_timerInfo :
    (manager.createTimer created userId).strongAuthTimerInfo = manager.strongAuthTimerInfo := by
  unfold createTimer
  split <;> rfl

@[simp] theorem stopTimer_timerInfo :
    (manager.stopTimer timerId).strongAuthTimerInfo = manager.strongAuthTimerInfo := by
  unfold stopTimer
  split <;> rfl

theorem startTimer_timer {timer : AuthTimer} (currentTime triggerPeriod : Int)
    (htimer : manager.timers[timerId]? = some timer) :
    (manager.startTimer timerId currentTime triggerPeriod).timers[timerId]? =
      some { timer with armed := some ⟨currentTime + triggerPeriod, triggerPeriod⟩ } := by
  simp [startTimer, htimer]

theorem getTimerId_of_info {info : TimerInfo}
    (hinfo : manager.strongAuthTimerInfo[userId]? = some info) :
    manager.getTimerId userId = info.timerId := by
  simp [getTimerId, hinfo]

theorem getTimerId_of_none (hinfo : manager.strongAuthTimerInfo[userId]? = none) :
    manager.getTimerId userId = 0 := by
  simp [getTimerId, hinfo]

/-- A start that finds no timer leaves a record that stands, and makes one otherwise. -/
theorem startStrongAuthTimer_info (hnone : manager.getTimerId userId = 0)
    (currentTime triggerPeriod : Int) :
    (manager.startStrongAuthTimer created currentTime userId
        triggerPeriod).strongAuthTimerInfo[userId]? =
      some ((manager.strongAuthTimerInfo[userId]?).getD ⟨created, triggerPeriod, currentTime⟩) := by
  rw [startStrongAuthTimer, if_neg (not_not.mpr hnone)]
  dsimp only
  rw [startTimer_timerInfo, createTimer_timerInfo, Std.TreeMap.getElem?_insertIfNew]
  cases hinfo : manager.strongAuthTimerInfo[userId]? with
  | none =>
      have habsent : userId ∉ manager.strongAuthTimerInfo := by
        rw [Std.TreeMap.mem_iff_isSome_getElem?, hinfo]
        simp
      simp [habsent]
  | some info =>
      have hpresent : userId ∈ manager.strongAuthTimerInfo := by
        rw [Std.TreeMap.mem_iff_isSome_getElem?, hinfo]
        rfl
      simp [hpresent]

theorem account_startStrongAuthTimer_new (hinfo : manager.strongAuthTimerInfo[userId]? = none)
    (currentTime triggerPeriod : Int) :
    (manager.startStrongAuthTimer created currentTime userId triggerPeriod).account userId =
      (manager.account userId).start created currentTime triggerPeriod := by
  have hnone := getTimerId_of_none hinfo
  have hrecord := @startStrongAuthTimer_info manager userId created hnone currentTime triggerPeriod
  rw [hinfo, Option.getD_none] at hrecord
  refine account_of_slot ?_ ?_
  · simp [AccountTimer.start, account, slot_none hinfo, isUserExitInStrongAuthInfo]
  · rw [slot_some hrecord]
    simp only [AccountTimer.start, account, slot_none hinfo, Option.some.injEq,
      TimerSlot.mk.injEq, true_and]
    split
    next => rfl
    next hcreated =>
      have htimer : (manager.createTimer created userId).timers[created]? =
          some { userId := userId } := by
        simp [createTimer, hcreated]
      have hstarted := startTimer_timer currentTime triggerPeriod htimer
      simp only [startStrongAuthTimer, hnone, ne_eq, not_true_eq_false, if_false, hstarted]
      rfl

theorem account_startStrongAuthTimer (currentTime triggerPeriod : Int) :
    (manager.startStrongAuthTimer created currentTime userId triggerPeriod).account userId =
      (manager.account userId).start created currentTime triggerPeriod := by
  cases hinfo : manager.strongAuthTimerInfo[userId]? with
  | none => exact account_startStrongAuthTimer_new hinfo currentTime triggerPeriod
  | some info =>
      have hkept : (manager.account userId).start created currentTime triggerPeriod =
          manager.account userId := by
        simp [AccountTimer.start, account, slot_some hinfo]
      rw [hkept]
      by_cases hzero : info.timerId = 0
      · have hnone : manager.getTimerId userId = 0 := (getTimerId_of_info hinfo).trans hzero
        have hrecord := @startStrongAuthTimer_info manager userId created hnone currentTime
          triggerPeriod
        rw [hinfo, Option.getD_some] at hrecord
        refine account_of_slot (by simp [account, isUserExitInStrongAuthInfo]) ?_
        rw [slot_some hrecord, account, slot_some hinfo]
        simp [hzero]
      · have hsome : manager.getTimerId userId ≠ 0 := by rwa [getTimerId_of_info hinfo]
        rw [startStrongAuthTimer_kept _ _ hsome]

/-- A record that names a timer is kept, with the timer. -/
theorem timer_of_info (hbacked : manager.Backed) {info : TimerInfo}
    (hinfo : manager.strongAuthTimerInfo[userId]? = some info) (hne : info.timerId ≠ 0) :
    ∃ timer, manager.timers[info.timerId]? = some timer ∧ timer.userId = userId := by
  have hrecorded : manager.recordedTimer userId = some info.timerId := by
    simp [recordedTimer, hinfo]
  exact Option.map_eq_some_iff.mp (hbacked.recorded userId _ hrecorded hne)

theorem account_resetStrongAuthTimer (hbacked : manager.Backed)
    (currentTime laterTime triggerPeriod : Int) :
    (manager.resetStrongAuthTimer created currentTime laterTime userId triggerPeriod).account
        userId =
      (manager.account userId).reset created currentTime laterTime triggerPeriod := by
  cases hinfo : manager.strongAuthTimerInfo[userId]? with
  | none =>
      rw [resetStrongAuthTimer_none _ _ _ (getTimerId_of_none hinfo), account_startStrongAuthTimer]
      simp [AccountTimer.reset, account, slot_none hinfo]
  | some info =>
      by_cases hzero : info.timerId = 0
      · have hnone : manager.getTimerId userId = 0 := (getTimerId_of_info hinfo).trans hzero
        rw [resetStrongAuthTimer_none _ _ _ hnone, account_startStrongAuthTimer]
        simp [AccountTimer.reset, AccountTimer.start, account, slot_some hinfo, hzero]
      · have hid := getTimerId_of_info hinfo
        obtain ⟨timer, htimer, -⟩ := timer_of_info hbacked hinfo hzero
        have hstopped : (manager.stopTimer info.timerId).timers[info.timerId]? =
            some { timer with armed := none } := by
          simp [stopTimer, htimer]
        have hstarted := startTimer_timer currentTime triggerPeriod hstopped
        refine account_of_slot ?_ ?_
        · simp [AccountTimer.reset, account, slot_some hinfo, hzero, isUserExitInStrongAuthInfo]
        · simp [resetStrongAuthTimer, hid, hzero, setCredChangeTriggerPeriod, hinfo, slot,
            hstarted, AccountTimer.reset, account]

theorem account_getStrongAuthTriggerPeriod (currentTime : Int) :
    (manager.getStrongAuthTriggerPeriod currentTime userId).2.account userId =
        (manager.account userId).advance currentTime ∧
      (manager.getStrongAuthTriggerPeriod currentTime userId).1 =
        ((manager.account userId).advance currentTime).triggerPeriod := by
  cases hinfo : manager.strongAuthTimerInfo[userId]? with
  | none =>
      simp [getStrongAuthTriggerPeriod, hinfo, account, slot_none hinfo, AccountTimer.advance,
        AccountTimer.triggerPeriod]
  | some info =>
      simp [getStrongAuthTriggerPeriod, hinfo, account, slot, AccountTimer.advance,
        AccountTimer.triggerPeriod, isUserExitInStrongAuthInfo]

theorem account_destroyStrongAuthTimer :
    (manager.destroyStrongAuthTimer userId).account userId =
      (manager.account userId).destroy := by
  cases hinfo : manager.strongAuthTimerInfo[userId]? with
  | none =>
      have hnone : manager.getTimerId userId = 0 := by simp [getTimerId, hinfo]
      simp [destroyStrongAuthTimer, hnone, AccountTimer.destroy, account, slot_none hinfo]
  | some info =>
      have hid := getTimerId_of_info hinfo
      by_cases hzero : info.timerId = 0
      · simp [destroyStrongAuthTimer, hid, hzero, AccountTimer.destroy, account, slot_some hinfo]
      · refine account_of_slot ?_ ?_
        · simp [AccountTimer.destroy, account, slot_some hinfo, hzero, isUserExitInStrongAuthInfo]
        · simp [destroyStrongAuthTimer, hid, hzero, slot, destroyTimer, AccountTimer.destroy,
            account, hinfo]

end Own

/-- The flag, the record and the live timers of the account are untouched. -/
structure SameFor (userId : UserId) (before after : StrongAuthManger) : Prop where
  flag : after.strongAuthStateInfo[userId]? = before.strongAuthStateInfo[userId]?
  info : after.strongAuthTimerInfo[userId]? = before.strongAuthTimerInfo[userId]?
  timers : ∀ timerId, before.Live timerId userId →
    after.timers[timerId]? = before.timers[timerId]?

namespace SameFor

variable {userId : UserId}

theorem refl (manager : StrongAuthManger) : SameFor userId manager manager :=
  ⟨rfl, rfl, fun _ _ => rfl⟩

theorem trans {first second third : StrongAuthManger} (hfirst : SameFor userId first second)
    (hsecond : SameFor userId second third) : SameFor userId first third where
  flag := hsecond.flag.trans hfirst.flag
  info := hsecond.info.trans hfirst.info
  timers timerId hlive := by
    have hkept : second.Live timerId userId := by
      rw [Live, hfirst.timers timerId hlive]
      exact hlive
    exact (hsecond.timers timerId hkept).trans (hfirst.timers timerId hlive)

theorem of_flag {before after : StrongAuthManger}
    (hflag : after.strongAuthStateInfo[userId]? = before.strongAuthStateInfo[userId]?)
    (hinfo : after.strongAuthTimerInfo = before.strongAuthTimerInfo)
    (htimers : after.timers = before.timers) : SameFor userId before after :=
  ⟨hflag, by rw [hinfo], fun _ _ => by rw [htimers]⟩

theorem account_eq {before after : StrongAuthManger} (hbacked : before.Backed)
    (hsame : SameFor userId before after) : after.account userId = before.account userId := by
  refine account_of_slot (by simp [account, isUserExitInStrongAuthInfo, hsame.flag]) ?_
  cases hinfo : before.strongAuthTimerInfo[userId]? with
  | none =>
      rw [account, slot_none hinfo, slot_none (hsame.info.trans hinfo)]
  | some info =>
      rw [account, slot_some hinfo, slot_some (hsame.info.trans hinfo)]
      split
      next => rfl
      next hne =>
        have hrecorded : before.recordedTimer userId = some info.timerId := by
          simp [recordedTimer, hinfo]
        rw [hsame.timers _ (hbacked.recorded userId _ hrecorded hne)]

end SameFor

section Others

/-! The functions leave the accounts alone that they are not about. -/

variable {manager : StrongAuthManger} {userId owner : UserId} {created timerId : TimerId}

theorem sameFor_insert_timer {timer : AuthTimer} (hother : ¬ manager.Live timerId userId) :
    SameFor userId manager { manager with timers := manager.timers.insert timerId timer } where
  flag := rfl
  info := rfl
  timers other hlive := by
    have hne : timerId ≠ other := by
      rintro rfl
      exact hother hlive
    simp [Std.TreeMap.getElem?_insert, hne]

theorem sameFor_createTimer (hcreated : manager.MayCreate created) :
    SameFor userId manager (manager.createTimer created owner) := by
  unfold createTimer
  split
  next => exact SameFor.refl manager
  next hsucceeded =>
    exact sameFor_insert_timer (hcreated.resolve_left hsucceeded userId)

theorem sameFor_startTimer (currentTime triggerPeriod : Int)
    (hother : ¬ manager.Live timerId userId) :
    SameFor userId manager (manager.startTimer timerId currentTime triggerPeriod) := by
  unfold startTimer
  split
  · exact SameFor.refl manager
  · exact sameFor_insert_timer hother

theorem sameFor_stopTimer (hother : ¬ manager.Live timerId userId) :
    SameFor userId manager (manager.stopTimer timerId) := by
  unfold stopTimer
  split
  · exact SameFor.refl manager
  · exact sameFor_insert_timer hother

theorem sameFor_insert_info {info : TimerInfo} (hother : owner ≠ userId) :
    SameFor userId manager
      { manager with strongAuthTimerInfo := manager.strongAuthTimerInfo.insert owner info } where
  flag := rfl
  info := by simp [Std.TreeMap.getElem?_insert, hother]
  timers _ _ := rfl

theorem sameFor_setStrongAuthStat (env : Environment) (reasonFlag : Int) (hother : owner ≠ userId) :
    SameFor userId manager (manager.setStrongAuthStat env owner reasonFlag) := by
  refine SameFor.of_flag ?_ (by simp) (by simp)
  rw [setStrongAuthStat_get, if_neg hother]

theorem sameFor_getStrongAuthTriggerPeriod (currentTime : Int) (hother : owner ≠ userId) :
    SameFor userId manager (manager.getStrongAuthTriggerPeriod currentTime owner).2 := by
  unfold getStrongAuthTriggerPeriod
  split
  · exact SameFor.refl manager
  · exact sameFor_insert_info hother

theorem sameFor_setCredChangeTriggerPeriod (currentTime triggerPeriod : Int)
    (hother : owner ≠ userId) :
    SameFor userId manager
      (manager.setCredChangeTriggerPeriod currentTime owner triggerPeriod) := by
  unfold setCredChangeTriggerPeriod
  split
  · exact SameFor.refl manager
  · exact sameFor_insert_info hother

theorem sameFor_startStrongAuthTimer (hbacked : manager.Backed)
    (hcreated : manager.MayCreate created) (hother : owner ≠ userId)
    (currentTime triggerPeriod : Int) :
    SameFor userId manager
      (manager.startStrongAuthTimer created currentTime owner triggerPeriod) := by
  unfold startStrongAuthTimer
  split
  · exact SameFor.refl manager
  · have hforeign : ¬ (manager.createTimer created owner).Live created userId := by
      intro hlive
      rcases (live_createTimer hcreated owner).mp hlive with hbefore | ⟨-, -, heq⟩
      · rcases hcreated with rfl | hfresh
        · exact hbacked.nonzero userId hbefore
        · exact hfresh userId hbefore
      · exact hother heq.symm
    have hstarted := (sameFor_createTimer hcreated).trans
      (sameFor_startTimer currentTime triggerPeriod hforeign)
    refine ⟨hstarted.flag, ?_, hstarted.timers⟩
    dsimp only
    rw [Std.TreeMap.getElem?_insertIfNew, if_neg]
    · exact hstarted.info
    · exact fun hnew => hother (Std.LawfulEqCmp.eq_of_compare hnew.1)

/-- The timer on record for one account does not live for another one. -/
theorem not_live_getTimerId (hbacked : manager.Backed) (hother : owner ≠ userId)
    (hrecorded : manager.getTimerId owner ≠ 0) :
    ¬ manager.Live (manager.getTimerId owner) userId := by
  intro hlive
  have hown := hbacked.recorded owner _ (recordedTimer_of_getTimerId hrecorded) hrecorded
  exact hother (hown.owner_unique hlive)

theorem sameFor_resetStrongAuthTimer (hbacked : manager.Backed)
    (hcreated : manager.MayCreate created) (hother : owner ≠ userId)
    (currentTime laterTime triggerPeriod : Int) :
    SameFor userId manager (manager.resetStrongAuthTimer created currentTime laterTime owner
      triggerPeriod) := by
  by_cases hnone : manager.getTimerId owner = 0
  · rw [resetStrongAuthTimer_none _ _ _ hnone]
    exact sameFor_startStrongAuthTimer hbacked hcreated hother currentTime triggerPeriod
  · have hforeign := not_live_getTimerId hbacked hother hnone
    have hstopped : ¬ (manager.stopTimer (manager.getTimerId owner)).Live
        (manager.getTimerId owner) userId := by
      rwa [(stopTimer_same manager _).live]
    unfold resetStrongAuthTimer
    dsimp only
    rw [if_neg hnone]
    exact ((sameFor_stopTimer hforeign).trans (sameFor_startTimer _ _ hstopped)).trans
      (sameFor_setCredChangeTriggerPeriod _ _ hother)

theorem sameFor_destroyStrongAuthTimer (hbacked : manager.Backed) (hother : owner ≠ userId) :
    SameFor userId manager (manager.destroyStrongAuthTimer owner) := by
  unfold destroyStrongAuthTimer
  dsimp only
  split
  · exact SameFor.refl manager
  next hrecorded =>
    have hstopped : SameFor userId manager (manager.stopTimer (manager.getTimerId owner)) :=
      sameFor_stopTimer (not_live_getTimerId hbacked hother hrecorded)
    refine ⟨hstopped.flag, ?_, fun timerId hlive => ?_⟩
    · dsimp only [destroyTimer]
      rw [Std.TreeMap.getElem?_erase, if_neg]
      · exact hstopped.info
      · exact fun heq => hother (Std.LawfulEqCmp.eq_of_compare heq)
    · have hne : manager.getTimerId owner ≠ timerId := by
        rintro rfl
        exact not_live_getTimerId hbacked hother hrecorded hlive
      simp only [destroyTimer, Std.TreeMap.getElem?_erase]
      rw [if_neg fun heq => hne (Std.LawfulEqCmp.eq_of_compare heq)]
      exact hstopped.timers timerId hlive

theorem sameFor_initStrongAuthStat (env : Environment) (reasonFlag : Int)
    (hother : owner ≠ userId) :
    SameFor userId manager (manager.initStrongAuthStat env owner reasonFlag) := by
  refine SameFor.of_flag ?_ (initStrongAuthStat_timerInfo env reasonFlag)
    (initStrongAuthStat_timers env reasonFlag)
  rw [initStrongAuthStat_get, if_neg hother]

end Others

section Handlers

variable {manager : StrongAuthManger} {env : Environment} {userId : UserId}

theorem account_destroyAllStrongAuthTimer (hbacked : manager.Backed) :
    manager.destroyAllStrongAuthTimer.account userId = (manager.account userId).destroy := by
  -- the first destruction of the account's timer is the only one that changes it
  have hwalk : ∀ (owners : List UserId) (current : StrongAuthManger), current.Backed →
      (owners.foldl (fun current owner => current.destroyStrongAuthTimer owner) current).account
          userId =
        if userId ∈ owners then (current.account userId).destroy else current.account userId := by
    intro owners
    induction owners with
    | nil => exact fun current _ => rfl
    | cons owner rest ih =>
        intro current hcurrent
        rw [List.foldl_cons, ih _ (hcurrent.destroy owner)]
        by_cases howner : owner = userId
        · subst howner
          rw [account_destroyStrongAuthTimer, AccountTimer.destroy_destroy]
          simp
        · rw [(sameFor_destroyStrongAuthTimer hcurrent howner).account_eq hcurrent]
          simp [Ne.symm howner]
  refine (hwalk _ manager hbacked).trans ?_
  split
  next => rfl
  next habsent =>
    rw [Std.TreeMap.mem_keys] at habsent
    have hnone : manager.strongAuthTimerInfo[userId]? = none := Std.TreeMap.getElem?_eq_none habsent
    simp [AccountTimer.destroy, account, slot_none hnone]

theorem account_credentialInfo (hbacked : manager.Backed)
    (hcreated : manager.MayCreate env.createdTimer) (user : UserId) (result : ResultCode)
    (infoList : List CredentialInfo) :
    (manager.onCredentialInfo env user result infoList).account userId =
      (manager.account userId).enter env userId (.credentialInfo user result infoList) := by
  by_cases huser : user = userId
  · subst huser
    simp only [onCredentialInfo, AccountTimer.enter, if_true]
    split
    next => rw [account_startStrongAuthTimer, account_initStrongAuthStat]
    next => exact account_initStrongAuthStat env _
  · simp only [AccountTimer.enter, if_neg huser]
    refine SameFor.account_eq hbacked ?_
    unfold onCredentialInfo
    split
    · have hinit := initStrongAuthStat_same manager env user StrongAuthReasonFlags.afterBoot
      exact (sameFor_initStrongAuthStat env _ huser).trans
        (sameFor_startStrongAuthTimer (hinit.backed hbacked) (hinit.mayCreate hcreated) huser _ _)
    · exact sameFor_initStrongAuthStat env _ huser

theorem account_authSuccess (hbacked : manager.Backed)
    (hcreated : manager.MayCreate env.createdTimer) (user : UserId) (authType : AuthType)
    (isWidgetAuth : Bool) :
    (manager.onNotifyAuthSuccessEvent env user authType isWidgetAuth).account userId =
      (manager.account userId).enter env userId (.authSuccess user authType isWidgetAuth) := by
  unfold onNotifyAuthSuccessEvent
  by_cases hpin : authType = .pin ∧ isWidgetAuth = false
  swap
  · rw [if_neg hpin, AccountTimer.enter, if_neg fun hall => hpin hall.2]
  rw [if_pos hpin]
  have hcleared := setStrongAuthStat_same manager env user StrongAuthReasonFlags.none
  have hread := getStrongAuthTriggerPeriod_same
    (manager.setStrongAuthStat env user StrongAuthReasonFlags.none) (env.bootTimeMs 0) user
  have hbacked' := hread.backed (hcleared.backed hbacked)
  by_cases huser : user = userId
  · subst huser
    obtain ⟨hadvanced, hperiod⟩ := @account_getStrongAuthTriggerPeriod
      (manager.setStrongAuthStat env user StrongAuthReasonFlags.none) user (env.bootTimeMs 0)
    rw [account_setStrongAuthStat] at hadvanced hperiod
    simp only [AccountTimer.enter, true_and, if_pos hpin]
    rw [account_resetStrongAuthTimer hbacked', hadvanced, hperiod]
  · rw [AccountTimer.enter, if_neg fun hall => huser hall.1]
    refine SameFor.account_eq hbacked ?_
    exact ((sameFor_setStrongAuthStat env _ huser).trans
      (sameFor_getStrongAuthTriggerPeriod _ huser)).trans
        (sameFor_resetStrongAuthTimer hbacked' (hread.mayCreate (hcleared.mayCreate hcreated))
          huser _ _ _)

/-- A credential event of another account leaves the account as it is. -/
theorem sameFor_credChange (hbacked : manager.Backed)
    (hcreated : manager.MayCreate env.createdTimer) {owner : UserId} (hother : owner ≠ userId)
    (authType : AuthType) (eventType : CredChangeEventType) (isSilentCredChange : Bool) :
    SameFor userId manager
      (manager.onNotifyCredChangeEvent env owner authType eventType isSilentCredChange) := by
  have hforgotten : SameTimers manager (manager.destroyStrongAuthStateInfo owner) :=
    SameTimers.of_eq rfl rfl
  have hcleared := setStrongAuthStat_same manager env owner StrongAuthReasonFlags.none
  have herased : SameFor userId manager (manager.destroyStrongAuthStateInfo owner) := by
    refine SameFor.of_flag ?_ rfl rfl
    rw [destroyStrongAuthStateInfo_get, if_neg hother]
  unfold onNotifyCredChangeEvent
  split
  next => exact SameFor.refl manager
  next =>
    split
    next =>
      split
      next => exact sameFor_resetStrongAuthTimer hbacked hcreated hother _ _ _
      next =>
        split
        next =>
          exact (sameFor_setStrongAuthStat env _ hother).trans
            (sameFor_destroyStrongAuthTimer (hcleared.backed hbacked) hother)
        next =>
          split
          next =>
            exact herased.trans
              (sameFor_destroyStrongAuthTimer (hforgotten.backed hbacked) hother)
          next => exact SameFor.refl manager
    next => exact SameFor.refl manager

/-- A credential event of the account itself. -/
theorem account_credChange_own (hbacked : manager.Backed) (hdevice : env.deviceType ≠ "2in1")
    (hknown : manager.isUserExitInStrongAuthInfo userId = true) (eventType : CredChangeEventType)
    (isSilentCredChange : Bool) :
    (manager.onNotifyCredChangeEvent env userId .pin eventType isSilentCredChange).account userId =
      (manager.account userId).enter env userId
        (.credChange userId .pin eventType isSilentCredChange) := by
  have hview : (manager.account userId).known = true := hknown
  have hset : (manager.setStrongAuthStat env userId StrongAuthReasonFlags.none).account userId =
      manager.account userId := by
    rw [account_setStrongAuthStat, ← hview]
  have herased : (manager.destroyStrongAuthStateInfo userId).account userId =
      { manager.account userId with known := false } := by
    simp [account, slot, isUserExitInStrongAuthInfo, destroyStrongAuthStateInfo]
  rw [onNotifyCredChangeEvent, if_neg hdevice, if_pos ⟨rfl, hknown⟩]
  refine Eq.trans ?_ (if_pos ⟨rfl, hdevice, rfl, hview⟩).symm
  by_cases hrenews : renews eventType isSilentCredChange
  · rw [if_pos hrenews, if_pos (show _ ∨ _ from hrenews)]
    exact account_resetStrongAuthTimer hbacked _ _ _
  rw [if_neg hrenews, if_neg (show ¬ (_ ∨ _) from hrenews)]
  split
  next => rw [account_destroyStrongAuthTimer, hset]
  next =>
    split
    next => rw [account_destroyStrongAuthTimer, herased]
    next => rfl

theorem account_credChange (hbacked : manager.Backed)
    (hcreated : manager.MayCreate env.createdTimer) (user : UserId) (authType : AuthType)
    (eventType : CredChangeEventType) (isSilentCredChange : Bool) :
    (manager.onNotifyCredChangeEvent env user authType eventType isSilentCredChange).account
        userId =
      (manager.account userId).enter env userId
        (.credChange user authType eventType isSilentCredChange) := by
  by_cases hown : user = userId ∧ env.deviceType ≠ "2in1" ∧ authType = .pin ∧
      (manager.account userId).known = true
  · obtain ⟨rfl, hdevice, rfl, hknown⟩ := hown
    exact account_credChange_own hbacked hdevice hknown eventType isSilentCredChange
  · rw [AccountTimer.enter, if_neg hown]
    by_cases huser : user = userId
    · -- of the account, but nothing the handler acts on
      subst huser
      unfold onNotifyCredChangeEvent
      split
      next => rfl
      next hdevice =>
        have hidle : ¬ (authType = .pin ∧ manager.isUserExitInStrongAuthInfo user) :=
          fun hpin => hown ⟨rfl, hdevice, hpin⟩
        rw [if_neg hidle]
    · exact (sameFor_credChange hbacked hcreated huser authType eventType
        isSilentCredChange).account_eq hbacked

/-- An entry into the manager does for the account what the account alone calls for. -/
theorem account_enter (hbacked : manager.Backed) (hcreated : manager.MayCreate env.createdTimer)
    (event : StrongAuthEvent) :
    (manager.enter env event).account userId =
      (manager.account userId).enter env userId event := by
  have hset (user : UserId) (reasonFlag : Int) :
      (manager.setStrongAuthStat env user reasonFlag).account userId =
        if user = userId then { manager.account userId with known := true }
        else manager.account userId := by
    split
    next huser =>
      subst huser
      exact account_setStrongAuthStat env reasonFlag
    next huser => exact (sameFor_setStrongAuthStat env reasonFlag huser).account_eq hbacked
  cases event with
  | setStrongAuthStat user reasonFlag => exact hset user reasonFlag
  | accountUnlocked user =>
      exact account_congr (by simp [enter]) (by simp [enter, accountUnlocked])
        (by simp [enter, accountUnlocked]) userId
  | getCredInfo user =>
      refine account_congr ?_ ?_ ?_ userId <;>
      · simp only [enter, getCredInfo]
        split
        · rfl
        · split <;> rfl
  | credentialInfo user result infoList =>
      have hanswered : SameTimers manager
          { manager with queries := manager.queries.erase user } := SameTimers.of_eq rfl rfl
      exact account_credentialInfo (hanswered.backed hbacked) (hanswered.mayCreate hcreated) user
        result infoList
  | authSuccess user authType isWidgetAuth =>
      exact account_authSuccess hbacked hcreated user authType isWidgetAuth
  | credChange user authType eventType isSilentCredChange =>
      exact account_credChange hbacked hcreated user authType eventType isSilentCredChange
  | timerFired user => exact hset user _
  | destroyAllStrongAuthTimer => exact account_destroyAllStrongAuthTimer hbacked

end Handlers

end StrongAuthManger

end Screenlock
