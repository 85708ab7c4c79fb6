import Screenlock.StrongAuth.Sections

/-! # One account of the strong-authentication manager

An account that has a record and a timer, seen by itself: the flag, the timer
record and what the timer is set to. While only the handlers of the account run,
the manager keeps it, whatever else the manager holds.
-/

namespace Screenlock

/-- One account with a record and a timer, seen by itself. -/
structure AuthAccount where
  reasonFlag : Int
  info : TimerInfo
  armed : Option ArmedAt
  known : info.timerId ≠ 0

@[simp] theorem TimerInfo.advance_timerId (info : TimerInfo) (currentTime : Int) :
    (info.advance currentTime).timerId = info.timerId := by
  unfold TimerInfo.advance
  split
  · rfl
  · split <;> rfl

namespace AuthAccount

variable (account : AuthAccount)

def setStrongAuthStat (reasonFlag : Int) : AuthAccount :=
  { account with reasonFlag := StrongAuthManger.requested (some account.reasonFlag) reasonFlag }

def startTimer (currentTime triggerPeriod : Int) : AuthAccount :=
  { account with armed := some ⟨currentTime + triggerPeriod, triggerPeriod⟩ }

def stopTimer : AuthAccount := { account with armed := none }

def setCredChangeTriggerPeriod (currentTime triggerPeriod : Int) : AuthAccount :=
  { account with
    info := { account.info with
      triggerPeriod := triggerPeriod
      credChangeTimerStamp := currentTime }
    known := account.known }

def advance (currentTime : Int) : AuthAccount :=
  { account with
    info := account.info.advance currentTime
    known := by rw [TimerInfo.advance_timerId]; exact account.known }

def sections : Sections AuthAccount where
  setStrongAuthStat reasonFlag account := account.setStrongAuthStat reasonFlag
  isUserExitInStrongAuthInfo _ := true
  getTimerId account := account.info.timerId
  startStrongAuthTimer _ _ account := account
  startTimer _ currentTime triggerPeriod account := account.startTimer currentTime triggerPeriod
  stopTimer _ account := account.stopTimer
  setCredChangeTriggerPeriod currentTime triggerPeriod account :=
    account.setCredChangeTriggerPeriod currentTime triggerPeriod
  getStrongAuthTriggerPeriod currentTime account :=
    ((account.info.advance currentTime).triggerPeriod, account.advance currentTime)
  getStrongAuthTimeTrigger account := StrongAuthManger.narrow account.info.triggerPeriod

/-- The manager keeps this account: its flag, its timer record, and the timer
that the record names. -/
structure KeptBy (userId : UserId) (manager : StrongAuthManger) (account : AuthAccount) : Prop where
  flag : manager.strongAuthStateInfo[userId]? = some account.reasonFlag
  info : manager.strongAuthTimerInfo[userId]? = some account.info
  timer : (manager.timers[account.info.timerId]?).map AuthTimer.armed = some account.armed

namespace KeptBy

variable {userId : UserId} {manager : StrongAuthManger} {account : AuthAccount}

theorem getTimerId (hkept : KeptBy userId manager account) :
    manager.getTimerId userId = account.info.timerId := by
  unfold StrongAuthManger.getTimerId
  rw [hkept.info]
  rfl

theorem timer_exists (hkept : KeptBy userId manager account) :
    ∃ timer, manager.timers[account.info.timerId]? = some timer ∧ timer.armed = account.armed :=
  Option.map_eq_some_iff.mp hkept.timer

theorem setStrongAuthStat (env : Environment) (reasonFlag : Int)
    (hkept : KeptBy userId manager account) :
    KeptBy userId (manager.setStrongAuthStat env userId reasonFlag)
      (account.setStrongAuthStat reasonFlag) where
  flag := by
    rw [StrongAuthManger.setStrongAuthStat_get, if_pos rfl, hkept.flag]
    rfl
  info := by
    rw [StrongAuthManger.setStrongAuthStat_timerInfo]
    exact hkept.info
  timer := by
    rw [StrongAuthManger.setStrongAuthStat_timers]
    exact hkept.timer

theorem startTimer (currentTime triggerPeriod : Int) (hkept : KeptBy userId manager account) :
    KeptBy userId (manager.startTimer account.info.timerId currentTime triggerPeriod)
      (account.startTimer currentTime triggerPeriod) := by
  obtain ⟨timer, htimer, _⟩ := hkept.timer_exists
  unfold StrongAuthManger.startTimer
  rw [htimer]
  exact ⟨hkept.flag, hkept.info, by simp [AuthAccount.startTimer]⟩

theorem stopTimer (hkept : KeptBy userId manager account) :
    KeptBy userId (manager.stopTimer account.info.timerId) account.stopTimer := by
  obtain ⟨timer, htimer, _⟩ := hkept.timer_exists
  unfold StrongAuthManger.stopTimer
  rw [htimer]
  exact ⟨hkept.flag, hkept.info, by simp [AuthAccount.stopTimer]⟩

theorem setCredChangeTriggerPeriod (currentTime triggerPeriod : Int)
    (hkept : KeptBy userId manager account) :
    KeptBy userId (manager.setCredChangeTriggerPeriod currentTime userId triggerPeriod)
      (account.setCredChangeTriggerPeriod currentTime triggerPeriod) := by
  unfold StrongAuthManger.setCredChangeTriggerPeriod
  rw [hkept.info]
  exact ⟨hkept.flag, by simp [AuthAccount.setCredChangeTriggerPeriod], hkept.timer⟩

theorem getStrongAuthTriggerPeriod (currentTime : Int) (hkept : KeptBy userId manager account) :
    (manager.getStrongAuthTriggerPeriod currentTime userId).1 =
        (account.info.advance currentTime).triggerPeriod ∧
      KeptBy userId (manager.getStrongAuthTriggerPeriod currentTime userId).2
        (account.advance currentTime) := by
  unfold StrongAuthManger.getStrongAuthTriggerPeriod
  rw [hkept.info]
  exact ⟨rfl, hkept.flag, by simp [AuthAccount.advance],
    by simpa [AuthAccount.advance] using hkept.timer⟩

theorem getStrongAuthTimeTrigger (hkept : KeptBy userId manager account) :
    manager.getStrongAuthTimeTrigger userId =
      StrongAuthManger.narrow account.info.triggerPeriod := by
  unfold StrongAuthManger.getStrongAuthTimeTrigger
  rw [hkept.info]

/-- The timer is there, so none is created. -/
theorem startStrongAuthTimer (created : TimerId) (currentTime triggerPeriod : Int)
    (hkept : KeptBy userId manager account) :
    manager.startStrongAuthTimer created currentTime userId triggerPeriod = manager := by
  unfold StrongAuthManger.startStrongAuthTimer
  rw [hkept.getTimerId, if_pos account.known]

theorem isUserExitInStrongAuthInfo (hkept : KeptBy userId manager account) :
    manager.isUserExitInStrongAuthInfo userId = true := by
  unfold StrongAuthManger.isUserExitInStrongAuthInfo
  rw [hkept.flag]
  rfl

theorem resetStrongAuthTimer (env : Environment) (currentTime laterTime triggerPeriod : Int)
    (hkept : KeptBy userId manager account) :
    KeptBy userId
      ((StrongAuthManger.sections env userId).resetStrongAuthTimer currentTime laterTime
        triggerPeriod manager)
      (AuthAccount.sections.resetStrongAuthTimer currentTime laterTime triggerPeriod account) := by
  have htimerId : (StrongAuthManger.sections env userId).getTimerId manager =
      account.info.timerId := hkept.getTimerId
  unfold Sections.resetStrongAuthTimer
  rw [htimerId, if_neg account.known, if_neg (show AuthAccount.sections.getTimerId account ≠ 0
    from account.known)]
  exact (hkept.stopTimer.startTimer currentTime triggerPeriod).setCredChangeTriggerPeriod
    laterTime triggerPeriod

/-- A handler of the manager does to the account what the account's own handler does. -/
theorem handle (env : Environment) (bootTimeMs : Nat → Int) (handler : Handler)
    (hkept : KeptBy userId manager account) :
    KeptBy userId ((StrongAuthManger.sections env userId).handle bootTimeMs handler manager)
      (AuthAccount.sections.handle bootTimeMs handler account) := by
  cases handler with
  | authSuccess =>
      obtain ⟨hperiod, hadvanced⟩ := (hkept.setStrongAuthStat env
        StrongAuthReasonFlags.none).getStrongAuthTriggerPeriod (bootTimeMs 0)
      have hhandled : (StrongAuthManger.sections env userId).handle bootTimeMs .authSuccess
          manager = (StrongAuthManger.sections env userId).resetStrongAuthTimer (bootTimeMs 1)
            (bootTimeMs 2) (account.info.advance (bootTimeMs 0)).triggerPeriod
            (StrongAuthManger.getStrongAuthTriggerPeriod (bootTimeMs 0) userId
              (manager.setStrongAuthStat env userId StrongAuthReasonFlags.none)).2 := by
        change _ = (account.info.advance (bootTimeMs 0)).triggerPeriod at hperiod
        rw [← hperiod]
        rfl
      rw [hhandled]
      exact hadvanced.resetStrongAuthTimer env (bootTimeMs 1) (bootTimeMs 2) _
  | credChange renewal =>
      have hexists : (StrongAuthManger.sections env userId).isUserExitInStrongAuthInfo manager =
        true := hkept.isUserExitInStrongAuthInfo
      simp only [Sections.handle, hexists, if_true]
      exact hkept.resetStrongAuthTimer env (bootTimeMs 0) (bootTimeMs 1) _
  | timerFired =>
      have hset := hkept.setStrongAuthStat env
        (StrongAuthManger.timeoutReason (StrongAuthManger.narrow account.info.triggerPeriod))
      unfold Sections.handle
      change KeptBy userId (manager.setStrongAuthStat env userId (StrongAuthManger.timeoutReason
        (manager.getStrongAuthTimeTrigger userId))) _
      rw [hkept.getStrongAuthTimeTrigger]
      exact hset

end KeptBy

end AuthAccount

end Screenlock
