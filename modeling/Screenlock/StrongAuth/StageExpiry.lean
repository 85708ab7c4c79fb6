import Screenlock.StrongAuth.PeriodLadder

/-! # When a stage gives way to the next

A timer is set to fire a period after one reading of the clock, and the stage is
over when more than a period has passed since the reading that is on record. The
second reading is never the earlier one, so the timer fires first, and a success
in between finds the stage not over.
-/

namespace Screenlock

open Foundation

/-- The readings of the clock in one handler do not go back. -/
def Environment.ReadsInOrder (env : Environment) : Prop :=
  ∀ first second, first ≤ second → env.bootTimeMs first ≤ env.bootTimeMs second

namespace AccountTimer

open StrongAuthManger

/-- A timer on record fires a period after the reading on record at the latest. -/
structure OnTime (account : AccountTimer) : Prop where
  rung : ∀ slot ∈ account.slot, slot.info.triggerPeriod ∈ rungs
  unarmed : ∀ slot ∈ account.slot, slot.info.timerId = 0 → slot.armed = none
  covered : ∀ slot ∈ account.slot, ∀ armed ∈ slot.armed,
    armed.trigger ≤ slot.info.credChangeTimerStamp + slot.info.triggerPeriod

variable {account : AccountTimer} {created : TimerId} {period : Int}

theorem onTime_of_none (hnone : account.slot = none) : account.OnTime := by
  refine ⟨?_, ?_, ?_⟩ <;>
    (intro slot hslot
     rw [hnone] at hslot
     cases hslot)

theorem OnTime.start (htime : account.OnTime) (hperiod : period ∈ rungs) (currentTime : Int) :
    (account.start created currentTime period).OnTime := by
  unfold AccountTimer.start
  split
  next => exact htime
  next =>
    refine ⟨?_, ?_, ?_⟩ <;>
      (intro slot hslot
       obtain rfl := Option.some.inj hslot)
    · exact hperiod
    · exact fun hzero => if_pos hzero
    · intro armed harmed
      dsimp only at harmed
      split at harmed
      next => cases harmed
      next =>
        obtain rfl := Option.some.inj harmed
        exact Int.le_refl _

/-- Where the record holds one of the periods and a timer only with an id, a reset
leaves it on time: the record takes the later of the two readings. -/
theorem onTime_reset (hrung : ∀ slot ∈ account.slot, slot.info.triggerPeriod ∈ rungs)
    (hunarmed : ∀ slot ∈ account.slot, slot.info.timerId = 0 → slot.armed = none)
    (hperiod : period ∈ rungs) {currentTime laterTime : Int} (hlater : currentTime ≤ laterTime) :
    (account.reset created currentTime laterTime period).OnTime := by
  unfold AccountTimer.reset
  split
  next slot hslot =>
    split
    next hzero =>
      refine ⟨hrung, hunarmed, fun slot' hslot' armed harmed => ?_⟩
      obtain rfl := Option.some.inj (hslot.symm.trans hslot')
      rw [hunarmed slot hslot hzero] at harmed
      cases harmed
    next hne =>
      refine ⟨?_, ?_, ?_⟩ <;>
        (intro slot' hslot'
         obtain rfl := Option.some.inj hslot')
      · exact hperiod
      · exact fun hzero => absurd hzero hne
      · intro armed harmed
        obtain rfl := Option.some.inj harmed
        change currentTime + period ≤ laterTime + period
        omega
  next hnone => exact (onTime_of_none hnone).start hperiod currentTime

theorem OnTime.destroy (htime : account.OnTime) : account.destroy.OnTime := by
  unfold AccountTimer.destroy
  split
  next =>
    split
    next => exact htime
    next => exact onTime_of_none rfl
  next => exact htime

theorem OnTime.withKnown (htime : account.OnTime) (known : Bool) :
    OnTime { account with known := known } :=
  ⟨htime.rung, htime.unarmed, htime.covered⟩

theorem OnTime.enter (htime : account.OnTime) {env : Environment} (hclock : env.ReadsInOrder)
    (userId : UserId) (event : StrongAuthEvent) : (account.enter env userId event).OnTime := by
  cases event with
  | setStrongAuthStat user reasonFlag | timerFired user =>
      dsimp only [AccountTimer.enter]
      split
      · exact htime.withKnown true
      · exact htime
  | accountUnlocked user | getCredInfo user => exact htime
  | credentialInfo user result infoList =>
      dsimp only [AccountTimer.enter]
      split
      · split
        · exact (htime.withKnown true).start (by decide) _
        · exact htime.withKnown true
      · exact htime
  | authSuccess user authType isWidgetAuth =>
      dsimp only [AccountTimer.enter]
      split
      · have hrung := rung_advance (htime.withKnown true).rung (env.bootTimeMs 0)
        have hreadings : env.bootTimeMs 1 ≤ env.bootTimeMs 2 := hclock 1 2 (by decide)
        refine onTime_reset hrung ?_ (triggerPeriod_mem hrung) hreadings
        intro slot hslot hzero
        obtain ⟨before, hbefore, rfl⟩ := Option.map_eq_some_iff.mp hslot
        rw [TimerInfo.advance_timerId] at hzero
        exact htime.unarmed before hbefore hzero
      · exact htime
  | credChange user authType eventType isSilentCredChange =>
      dsimp only [AccountTimer.enter]
      split
      next hown =>
        split
        · have hreadings : env.bootTimeMs 0 ≤ env.bootTimeMs 1 := hclock 0 1 (by decide)
          exact onTime_reset htime.rung htime.unarmed (by decide) hreadings
        · split
          · exact htime.destroy
          · split
            · exact (htime.withKnown false).destroy
            · exact htime
      next => exact htime
  | destroyAllStrongAuthTimer => exact htime.destroy

end AccountTimer

namespace StrongAuthManger

variable {manager : StrongAuthManger} {userId : UserId} {entry : Environment × StrongAuthEvent}

/-- The handlers, with timers created under fresh ids or not at all, and the
readings of the clock in one handler in order. -/
def clockedMachine : Machine StrongAuthManger (Environment × StrongAuthEvent) where
  enabled manager entry := manager.MayCreate entry.1.createdTimer ∧ entry.1.ReadsInOrder
  step := step

/-- When the timer on record for the account was last set to fire. -/
def deadline (manager : StrongAuthManger) (userId : UserId) : Option Int :=
  ((manager.slot userId).bind TimerSlot.armed).map ArmedAt.trigger

/-- A success with the PIN finds the stage over exactly if the timer set for it
has fired. -/
def AdvancesOnExpiry (userId : UserId) (manager : StrongAuthManger)
    (entry : Environment × StrongAuthEvent) : Prop :=
  entry.2 = .authSuccess userId .pin false →
    ∀ info trigger, manager.strongAuthTimerInfo[userId]? = some info →
      info.triggerPeriod < defaultStrongAuthTimeoutMs → manager.deadline userId = some trigger →
        ((info.triggerPeriod,
            ((manager.setStrongAuthStat entry.1 userId
              StrongAuthReasonFlags.none).getStrongAuthTriggerPeriod
                (entry.1.bootTimeMs 0) userId).1) ∈ periodStages ↔
          trigger ≤ entry.1.bootTimeMs 0)

/-- A success with the PIN does not come after the timer has fired and before more
than its period has passed since the reading on record. -/
def MissesGap (userId : UserId) (manager : StrongAuthManger)
    (entry : Environment × StrongAuthEvent) : Prop :=
  entry.2 = .authSuccess userId .pin false →
    ∀ info trigger, manager.strongAuthTimerInfo[userId]? = some info →
      info.triggerPeriod < defaultStrongAuthTimeoutMs → manager.deadline userId = some trigger →
        ¬ (trigger ≤ entry.1.bootTimeMs 0 ∧
          entry.1.bootTimeMs 0 ≤ info.credChangeTimerStamp + info.triggerPeriod)

theorem advance_mem_stages_iff {info : TimerInfo} (hrung : info.triggerPeriod ∈ rungs)
    (hbelow : info.triggerPeriod < defaultStrongAuthTimeoutMs) (currentTime : Int) :
    (info.triggerPeriod, (info.advance currentTime).triggerPeriod) ∈ periodStages ↔
      info.credChangeTimerStamp + info.triggerPeriod < currentTime := by
  have hstages : ∀ period ∈ rungs, period < defaultStrongAuthTimeoutMs →
      (periodStages.lookup period).isSome ∧ (period, period) ∉ periodStages := by decide
  obtain ⟨hstage, hself⟩ := hstages _ hrung hbelow
  by_cases hexpired : info.Expired currentTime
  · have hover := hexpired.2
    rcases info.advance_period currentTime with hsame | hnext
    · exact absurd hexpired ((info.advance_period_iff currentTime).mp hsame)
    · exact iff_of_true (TimerInfo.stage_mem hnext) (by omega)
  · rw [TimerInfo.advance_of_not_expired hexpired]
    refine iff_of_false hself fun hover => hexpired ⟨hstage, ?_⟩
    omega

theorem advancesOnExpiry_iff_missesGap (htime : (manager.account userId).OnTime) :
    manager.AdvancesOnExpiry userId entry ↔ manager.MissesGap userId entry := by
  refine imp_congr_right fun _ => forall_congr' fun info => forall_congr' fun trigger =>
    imp_congr_right fun hinfo => imp_congr_right fun hbelow => imp_congr_right fun htrigger => ?_
  obtain ⟨armed, harmed, rfl⟩ := Option.map_eq_some_iff.mp htrigger
  obtain ⟨slot, hslot, harmed⟩ := Option.bind_eq_some_iff.mp harmed
  obtain ⟨slot', hslot', rfl⟩ := info_iff.mp hinfo
  obtain rfl := Option.some.inj (hslot.symm.trans hslot')
  have hread : ((manager.setStrongAuthStat entry.1 userId
      StrongAuthReasonFlags.none).getStrongAuthTriggerPeriod (entry.1.bootTimeMs 0) userId).1 =
        (slot.info.advance (entry.1.bootTimeMs 0)).triggerPeriod := by
    rw [getStrongAuthTriggerPeriod, setStrongAuthStat_timerInfo, hinfo]
  have hcovered := htime.covered slot hslot armed harmed
  rw [hread, advance_mem_stages_iff (htime.rung slot hslot) hbelow]
  omega

structure Timely (manager : StrongAuthManger) : Prop where
  backed : manager.Backed
  onTime : ∀ userId, (manager.account userId).OnTime

theorem empty_timely : Timely empty :=
  ⟨empty_backed, fun _ => AccountTimer.onTime_of_none rfl⟩

theorem timely_step (henabled : clockedMachine.enabled manager entry) (htimely : manager.Timely) :
    (manager.step entry).Timely where
  backed := step_backed henabled.1 htimely.backed
  onTime userId := by
    rw [account_step htimely.backed henabled.1]
    exact (htimely.onTime userId).enter henabled.2 userId entry.2

/-- Along a run the successes with the PIN find the stage over when its timer has
fired exactly if none comes in the time between the two ends of the stage. -/
theorem advancesOnExpiry_iff {events : List (Environment × StrongAuthEvent)}
    (hadmits : clockedMachine.Admits empty events) (userId : UserId) :
    clockedMachine.Steps (AdvancesOnExpiry userId) empty events ↔
      clockedMachine.Steps (MissesGap userId) empty events := by
  rw [clockedMachine.steps_iff_prefixes, clockedMachine.steps_iff_prefixes]
  refine forall_congr' fun before => forall_congr' fun entry => imp_congr_right fun hbefore => ?_
  obtain ⟨rest, rfl⟩ := (List.prefix_append before [entry]).trans hbefore
  have htimely : (clockedMachine.run empty before).Timely :=
    clockedMachine.run_invariant (fun _ _ henabled hheld => timely_step henabled hheld)
      ((clockedMachine.steps_append _ _ _ _).mp hadmits).1 empty_timely
  exact advancesOnExpiry_iff_missesGap (htimely.onTime userId)

/-- The platform of account 100 while the clock of the device stands at `now`. -/
def clockAt (created : TimerId) (now : Int) : Environment :=
  { creating created with bootTimeMs := fun _ => now }

theorem clockAt_readsInOrder (created : TimerId) (now : Int) : (clockAt created now).ReadsInOrder :=
  fun _ _ _ => Int.le_refl now

theorem clockAt_enabled {created : TimerId} (hfresh : manager.timers[created]? = none) (now : Int)
    (event : StrongAuthEvent) : clockedMachine.enabled manager (clockAt created now, event) :=
  ⟨Or.inr ((fresh_iff manager created).mpr hfresh), clockAt_readsInOrder created now⟩

/-- A success more than an hour after the PIN was set. -/
theorem advancesOnExpiry_iff_late :
    clockedMachine.Steps (AdvancesOnExpiry 100) empty
        [(clockAt 5 0, .credentialInfo 100 .success [⟨1⟩]),
          (clockAt 6 0, .credChange 100 .pin .addCred false),
          (clockAt 7 3600001, .authSuccess 100 .pin false)] ↔
      clockedMachine.Steps (MissesGap 100) empty
        [(clockAt 5 0, .credentialInfo 100 .success [⟨1⟩]),
          (clockAt 6 0, .credChange 100 .pin .addCred false),
          (clockAt 7 3600001, .authSuccess 100 .pin false)] := by
  refine advancesOnExpiry_iff ?_ 100
  exact ⟨clockAt_enabled (by decide) _ _, clockAt_enabled (by decide) _ _,
    clockAt_enabled (by decide) _ _, trivial⟩

/-- At the very moment the timer fires, the stage it was set for is not over. -/
theorem success_at_deadline_does_not_advance :
    let events := [(clockAt 5 0, .credentialInfo 100 .success [⟨1⟩]),
      (clockAt 6 0, .credChange 100 .pin .addCred false),
      (clockAt 7 3600000, .authSuccess 100 .pin false)]
    clockedMachine.Admits empty events ∧
      ¬ clockedMachine.Steps (AdvancesOnExpiry 100) empty events := by
  refine ⟨⟨clockAt_enabled (by decide) _ _, clockAt_enabled (by decide) _ _,
    clockAt_enabled (by decide) _ _, trivial⟩, ?_⟩
  rintro ⟨-, -, hadvances, -⟩
  have hexpired := (hadvances rfl ⟨5, 3600000, 0⟩ 3600000 (by decide) (by decide)
    (by decide)).mpr (by decide)
  revert hexpired
  decide

end StrongAuthManger

end Screenlock
