import Screenlock.StrongAuth.Account
import Screenlock.StrongAuth.Flags

/-! # Live timers and their records

The time service knows the live timers, the manager records one id for an
account. Each operation is described by what it does to both. Id 0 stands in a
record for a timer that could not be created.
-/

namespace Screenlock.StrongAuthManger

/-- The timer lives: it was created for the account and not destroyed. -/
def Live (manager : StrongAuthManger) (timerId : TimerId) (userId : UserId) : Prop :=
  (manager.timers[timerId]?).map AuthTimer.userId = some userId

/-- The id in the record of the account. -/
def recordedTimer (manager : StrongAuthManger) (userId : UserId) : Option TimerId :=
  (manager.strongAuthTimerInfo[userId]?).map TimerInfo.timerId

instance (manager : StrongAuthManger) (timerId : TimerId) (userId : UserId) :
    Decidable (manager.Live timerId userId) :=
  inferInstanceAs (Decidable (_ = _))

/-- No timer lives under the id. -/
def Fresh (manager : StrongAuthManger) (timerId : TimerId) : Prop :=
  ∀ userId, ¬ manager.Live timerId userId

theorem fresh_iff (manager : StrongAuthManger) (timerId : TimerId) :
    manager.Fresh timerId ↔ manager.timers[timerId]? = none := by
  unfold Fresh Live
  cases manager.timers[timerId]? with
  | none => simp
  | some timer => simp

/-- What `CreateTimer` may return: 0 when it fails, otherwise an id not in use. -/
def MayCreate (manager : StrongAuthManger) (created : TimerId) : Prop :=
  created = 0 ∨ manager.Fresh created

/-- Same live timers, same recorded ids. -/
structure SameTimers (before after : StrongAuthManger) : Prop where
  live : ∀ timerId userId, after.Live timerId userId ↔ before.Live timerId userId
  recorded : ∀ userId, after.recordedTimer userId = before.recordedTimer userId

variable {manager : StrongAuthManger} {created timerId : TimerId} {userId : UserId}

theorem getTimerId_eq (manager : StrongAuthManger) (userId : UserId) :
    manager.getTimerId userId = (manager.recordedTimer userId).getD 0 := rfl

namespace SameTimers

theorem refl (manager : StrongAuthManger) : SameTimers manager manager :=
  ⟨fun _ _ => Iff.rfl, fun _ => rfl⟩

theorem trans {first second third : StrongAuthManger} (hfirst : SameTimers first second)
    (hsecond : SameTimers second third) : SameTimers first third where
  live timerId userId := (hsecond.live timerId userId).trans (hfirst.live timerId userId)
  recorded userId := (hsecond.recorded userId).trans (hfirst.recorded userId)

theorem of_eq {before after : StrongAuthManger} (htimers : after.timers = before.timers)
    (hinfo : after.strongAuthTimerInfo = before.strongAuthTimerInfo) :
    SameTimers before after where
  live timerId userId := by rw [Live, Live, htimers]
  recorded userId := by rw [recordedTimer, recordedTimer, hinfo]

/-- A timer is replaced by one of the same account. -/
theorem of_insert_timer {manager : StrongAuthManger} {timerId : TimerId} {timer next : AuthTimer}
    (hold : manager.timers[timerId]? = some timer) (howner : next.userId = timer.userId) :
    SameTimers manager { manager with timers := manager.timers.insert timerId next } where
  live other userId := by
    unfold Live
    rw [Std.TreeMap.getElem?_insert]
    by_cases hid : timerId = other
    · subst hid
      simp [hold, howner]
    · simp [hid]
  recorded _ := rfl

/-- A record is replaced by one of the same timer. -/
theorem of_insert_info {manager : StrongAuthManger} {userId : UserId} {info next : TimerInfo}
    (hold : manager.strongAuthTimerInfo[userId]? = some info)
    (htimer : next.timerId = info.timerId) :
    SameTimers manager
      { manager with strongAuthTimerInfo := manager.strongAuthTimerInfo.insert userId next } where
  live _ _ := Iff.rfl
  recorded other := by
    unfold recordedTimer
    rw [Std.TreeMap.getElem?_insert]
    by_cases hid : userId = other
    · subst hid
      simp [hold, htimer]
    · simp [hid]

theorem getTimerId {before after : StrongAuthManger} (hsame : SameTimers before after)
    (userId : UserId) : after.getTimerId userId = before.getTimerId userId := by
  rw [getTimerId_eq, getTimerId_eq, hsame.recorded]

theorem mayCreate {before after : StrongAuthManger} (hsame : SameTimers before after)
    (hcreated : before.MayCreate created) : after.MayCreate created :=
  hcreated.imp_right fun hfresh userId hlive =>
    hfresh userId ((hsame.live created userId).mp hlive)

end SameTimers

section Operations

theorem live_createTimer (hcreated : manager.MayCreate created) (owner : UserId) :
    (manager.createTimer created owner).Live timerId userId ↔
      manager.Live timerId userId ∨ (created ≠ 0 ∧ timerId = created ∧ userId = owner) := by
  unfold createTimer Live
  split
  · next hfailed => simp [hfailed]
  · next hsucceeded =>
      have hfresh := (fresh_iff manager created).mp (hcreated.resolve_left hsucceeded)
      rw [Std.TreeMap.getElem?_insert]
      by_cases hid : created = timerId
      · subst hid
        simp [hfresh, hsucceeded, eq_comm]
      · simp [hid, Ne.symm hid]

theorem startTimer_same (manager : StrongAuthManger) (timerId : TimerId)
    (currentTime triggerPeriod : Int) :
    SameTimers manager (manager.startTimer timerId currentTime triggerPeriod) := by
  unfold startTimer
  split
  · exact SameTimers.refl manager
  · next timer htimer => exact SameTimers.of_insert_timer htimer rfl

theorem stopTimer_same (manager : StrongAuthManger) (timerId : TimerId) :
    SameTimers manager (manager.stopTimer timerId) := by
  unfold stopTimer
  split
  · exact SameTimers.refl manager
  · next timer htimer => exact SameTimers.of_insert_timer htimer rfl

theorem setCredChangeTriggerPeriod_same (manager : StrongAuthManger) (currentTime : Int)
    (userId : UserId) (triggerPeriod : Int) :
    SameTimers manager
      (manager.setCredChangeTriggerPeriod currentTime userId triggerPeriod) := by
  unfold setCredChangeTriggerPeriod
  split
  · exact SameTimers.refl manager
  · next info hinfo => exact SameTimers.of_insert_info hinfo rfl

theorem getStrongAuthTriggerPeriod_same (manager : StrongAuthManger) (currentTime : Int)
    (userId : UserId) :
    SameTimers manager (manager.getStrongAuthTriggerPeriod currentTime userId).2 := by
  unfold getStrongAuthTriggerPeriod
  split
  · exact SameTimers.refl manager
  · next info hinfo => exact SameTimers.of_insert_info hinfo (info.advance_timerId currentTime)

theorem setStrongAuthStat_same (manager : StrongAuthManger) (env : Environment)
    (userId : UserId) (reasonFlag : Int) :
    SameTimers manager (manager.setStrongAuthStat env userId reasonFlag) :=
  SameTimers.of_eq (manager.setStrongAuthStat_timers env userId reasonFlag)
    (manager.setStrongAuthStat_timerInfo env userId reasonFlag)

theorem notifyStrongAuthChange_same (manager : StrongAuthManger) (env : Environment)
    (userId : UserId) (reasonFlag : Int) :
    SameTimers manager (manager.notifyStrongAuthChange env userId reasonFlag) :=
  SameTimers.of_eq (manager.notifyStrongAuthChange_timers env userId reasonFlag)
    (manager.notifyStrongAuthChange_timerInfo env userId reasonFlag)

theorem initStrongAuthStat_same (manager : StrongAuthManger) (env : Environment)
    (userId : UserId) (reasonFlag : Int) :
    SameTimers manager (manager.initStrongAuthStat env userId reasonFlag) := by
  unfold initStrongAuthStat
  split
  · have hstored : SameTimers manager (manager.storeFlag userId reasonFlag) :=
      SameTimers.of_eq rfl rfl
    exact hstored.trans (notifyStrongAuthChange_same _ env userId reasonFlag)
  · exact SameTimers.refl manager

/-- A timer is started for the account: `created` lives if it is an id and was not
in use, and is recorded unless a record stands already. -/
structure Starts (created : TimerId) (userId : UserId) (before after : StrongAuthManger) :
    Prop where
  unrecorded : before.getTimerId userId = 0
  live : before.MayCreate created → ∀ timerId owner, after.Live timerId owner ↔
    before.Live timerId owner ∨ (created ≠ 0 ∧ timerId = created ∧ owner = userId)
  recorded : ∀ owner, after.recordedTimer owner =
    if owner = userId then some ((before.recordedTimer userId).getD created)
    else before.recordedTimer owner

theorem Starts.of_same {before middle after : StrongAuthManger} (hsame : SameTimers before middle)
    (hstarts : Starts created userId middle after) : Starts created userId before after where
  unrecorded := (hsame.getTimerId userId).symm.trans hstarts.unrecorded
  live hcreated timerId owner := by rw [hstarts.live (hsame.mayCreate hcreated), hsame.live]
  recorded owner := by rw [hstarts.recorded, hsame.recorded, hsame.recorded]

theorem startStrongAuthTimer_starts (created : TimerId) (currentTime triggerPeriod : Int)
    (hnone : manager.getTimerId userId = 0) :
    Starts created userId manager
      (manager.startStrongAuthTimer created currentTime userId triggerPeriod) := by
  unfold startStrongAuthTimer
  rw [if_neg (not_not.mpr hnone)]
  have hstarted := startTimer_same (manager.createTimer created userId) created currentTime
    triggerPeriod
  have hinfo : ((manager.createTimer created userId).startTimer created currentTime
      triggerPeriod).strongAuthTimerInfo = manager.strongAuthTimerInfo := by
    unfold startTimer createTimer
    split <;> split <;> rfl
  refine ⟨hnone, fun hcreated timerId owner => ?_, fun owner => ?_⟩
  · exact (hstarted.live timerId owner).trans (live_createTimer hcreated userId)
  · unfold recordedTimer
    dsimp only
    rw [hinfo, Std.TreeMap.getElem?_insertIfNew]
    by_cases hown : owner = userId
    · subst hown
      cases hrecord : manager.strongAuthTimerInfo[owner]? with
      | none =>
          have habsent : owner ∉ manager.strongAuthTimerInfo := by
            rw [Std.TreeMap.mem_iff_isSome_getElem?, hrecord]
            simp
          simp [habsent]
      | some info =>
          have hpresent : owner ∈ manager.strongAuthTimerInfo := by
            rw [Std.TreeMap.mem_iff_isSome_getElem?, hrecord]
            rfl
          simp [hpresent]
    · simp [hown, Ne.symm hown]

theorem startStrongAuthTimer_kept (currentTime triggerPeriod : Int)
    (hrecorded : manager.getTimerId userId ≠ 0) :
    manager.startStrongAuthTimer created currentTime userId triggerPeriod = manager := by
  unfold startStrongAuthTimer
  rw [if_pos hrecorded]

theorem resetStrongAuthTimer_kept (currentTime laterTime triggerPeriod : Int)
    (hrecorded : manager.getTimerId userId ≠ 0) :
    SameTimers manager (manager.resetStrongAuthTimer created currentTime laterTime userId
      triggerPeriod) := by
  unfold resetStrongAuthTimer
  dsimp only
  rw [if_neg hrecorded]
  exact ((stopTimer_same _ _).trans (startTimer_same _ _ _ _)).trans
    (setCredChangeTriggerPeriod_same _ _ _ _)

theorem resetStrongAuthTimer_none (currentTime laterTime triggerPeriod : Int)
    (hnone : manager.getTimerId userId = 0) :
    manager.resetStrongAuthTimer created currentTime laterTime userId triggerPeriod =
      manager.startStrongAuthTimer created currentTime userId triggerPeriod := by
  unfold resetStrongAuthTimer
  dsimp only
  rw [if_pos hnone]

theorem live_destroyStrongAuthTimer (manager : StrongAuthManger) (owner : UserId) :
    (manager.destroyStrongAuthTimer owner).Live timerId userId ↔
      manager.Live timerId userId ∧
        ¬ (manager.getTimerId owner ≠ 0 ∧ timerId = manager.getTimerId owner) := by
  unfold destroyStrongAuthTimer
  dsimp only
  split
  · next hnone => simp [hnone]
  · next hrecorded =>
      have hstopped := (stopTimer_same manager (manager.getTimerId owner)).live timerId userId
      rw [← hstopped]
      unfold destroyTimer Live
      dsimp only
      rw [Std.TreeMap.getElem?_erase]
      by_cases hid : timerId = manager.getTimerId owner
      · subst hid
        simp [hrecorded]
      · simp [hid, Ne.symm hid]

theorem recordedTimer_destroyStrongAuthTimer (manager : StrongAuthManger) (owner : UserId) :
    (manager.destroyStrongAuthTimer owner).recordedTimer userId =
      if manager.getTimerId owner ≠ 0 ∧ userId = owner then none
      else manager.recordedTimer userId := by
  unfold destroyStrongAuthTimer
  dsimp only
  split
  · next hnone => simp [hnone]
  · next hrecorded =>
      have hstopped := (stopTimer_same manager (manager.getTimerId owner)).recorded userId
      rw [← hstopped]
      unfold destroyTimer recordedTimer
      dsimp only
      rw [Std.TreeMap.getElem?_erase]
      by_cases hown : userId = owner
      · subst hown
        simp [hrecorded]
      · simp [hown, Ne.symm hown]

theorem SameTimers.destroyStrongAuthTimer {before after : StrongAuthManger}
    (hsame : SameTimers before after) (owner : UserId) :
    SameTimers (before.destroyStrongAuthTimer owner) (after.destroyStrongAuthTimer owner) where
  live timerId userId := by
    rw [live_destroyStrongAuthTimer, live_destroyStrongAuthTimer, hsame.live, hsame.getTimerId]
  recorded userId := by
    rw [recordedTimer_destroyStrongAuthTimer, recordedTimer_destroyStrongAuthTimer,
      hsame.recorded, hsame.getTimerId]

end Operations

end Screenlock.StrongAuthManger
