import Screenlock.StrongAuth.Stages
import Screenlock.StrongAuth.TimerView

/-! # The ladder of timer periods

The period on record for an account is one of five. A changed PIN puts it on the
lowest, an authentication moves it up by one stage at most, and nothing but a
credential change or the destruction of the timer takes it down.
-/

namespace Screenlock

open Foundation

/-- The periods a record can hold. -/
def rungs : List Int :=
  [credChangeFirstStrongAuthTimeoutMs, credChangeSecondStrongAuthTimeoutMs,
    credChangeThirdStrongAuthTimeoutMs, credChangeFourthStrongAuthTimeoutMs,
    defaultStrongAuthTimeoutMs]

namespace AccountTimer

open StrongAuthManger

/-- A timer on record has an id and one of the periods, and its account is known. -/
structure OnLadder (account : AccountTimer) : Prop where
  known : ∀ slot ∈ account.slot, account.known = true
  created : ∀ slot ∈ account.slot, slot.info.timerId ≠ 0
  rung : ∀ slot ∈ account.slot, slot.info.triggerPeriod ∈ rungs

/-- The record stays, with its period or the one of the next stage. -/
def Climbs (before after : AccountTimer) : Prop :=
  ∀ slot ∈ before.slot, ∃ slot' ∈ after.slot,
    slot'.info.triggerPeriod = slot.info.triggerPeriod ∨
      (slot.info.triggerPeriod, slot'.info.triggerPeriod) ∈ periodStages

variable {account : AccountTimer} {created : TimerId}

theorem climbs_refl (account : AccountTimer) : Climbs account account :=
  fun slot hslot => ⟨slot, hslot, Or.inl rfl⟩

theorem mem_rungs_of_stage {period next : Int} (hstage : (period, next) ∈ periodStages) :
    next ∈ rungs := by
  have hall : ∀ stage ∈ periodStages, stage.2 ∈ rungs := by decide
  exact hall _ hstage

theorem triggerPeriod_mem (hrung : ∀ slot ∈ account.slot, slot.info.triggerPeriod ∈ rungs) :
    account.triggerPeriod ∈ rungs := by
  unfold triggerPeriod
  cases hslot : account.slot with
  | none => decide
  | some slot => exact hrung slot hslot

theorem rung_advance (hrung : ∀ slot ∈ account.slot, slot.info.triggerPeriod ∈ rungs)
    (currentTime : Int) :
    ∀ slot ∈ (account.advance currentTime).slot, slot.info.triggerPeriod ∈ rungs := by
  intro slot hslot
  obtain ⟨before, hbefore, rfl⟩ := Option.map_eq_some_iff.mp hslot
  rcases before.info.advance_period currentTime with hsame | hnext
  · dsimp only
    rw [hsame]
    exact hrung before hbefore
  · exact mem_rungs_of_stage (TimerInfo.stage_mem hnext)

theorem OnLadder.withKnown (hladder : account.OnLadder) :
    OnLadder { account with known := true } :=
  ⟨fun _ _ => rfl, hladder.created, hladder.rung⟩

theorem OnLadder.start (hladder : account.OnLadder) (hknown : account.known = true)
    (hcreated : created ≠ 0) {period : Int} (hperiod : period ∈ rungs) (currentTime : Int) :
    (account.start created currentTime period).OnLadder := by
  unfold AccountTimer.start
  split
  next => exact hladder
  next =>
    refine ⟨fun _ _ => hknown, ?_, ?_⟩ <;>
      (intro slot hslot
       obtain rfl := Option.some.inj hslot)
    · exact hcreated
    · exact hperiod

theorem OnLadder.reset (hladder : account.OnLadder) (hknown : account.known = true)
    (hcreated : created ≠ 0) {period : Int} (hperiod : period ∈ rungs)
    (currentTime laterTime : Int) :
    (account.reset created currentTime laterTime period).OnLadder := by
  unfold AccountTimer.reset
  split
  next slot hslot =>
    split
    next => exact hladder
    next hne =>
      refine ⟨fun _ _ => hknown, ?_, ?_⟩ <;>
        (intro slot' hslot'
         obtain rfl := Option.some.inj hslot')
      · exact hne
      · exact hperiod
  next => exact hladder.start hknown hcreated hperiod currentTime

theorem OnLadder.advance (hladder : account.OnLadder) (currentTime : Int) :
    (account.advance currentTime).OnLadder := by
  refine ⟨?_, ?_, rung_advance hladder.rung currentTime⟩ <;>
    (intro slot hslot
     obtain ⟨before, hbefore, rfl⟩ := Option.map_eq_some_iff.mp hslot)
  · exact hladder.known before hbefore
  · dsimp only
    rw [TimerInfo.advance_timerId]
    exact hladder.created before hbefore

/-- Where a timer on record has an id, its destruction leaves no record. -/
theorem slot_destroy (hcreated : ∀ slot ∈ account.slot, slot.info.timerId ≠ 0) :
    account.destroy.slot = none := by
  unfold AccountTimer.destroy
  split
  next slot hslot => rw [if_neg (hcreated slot hslot)]
  next hnone => exact hnone

theorem onLadder_of_none (hnone : account.slot = none) : account.OnLadder := by
  refine ⟨?_, ?_, ?_⟩ <;>
    (intro slot hslot
     rw [hnone] at hslot
     cases hslot)

theorem OnLadder.enter (hladder : account.OnLadder) {env : Environment}
    (hcreated : env.createdTimer ≠ 0) (userId : UserId) (event : StrongAuthEvent) :
    (account.enter env userId event).OnLadder := by
  cases event with
  | setStrongAuthStat user reasonFlag | timerFired user =>
      dsimp only [AccountTimer.enter]
      split
      · exact hladder.withKnown
      · exact hladder
  | accountUnlocked user | getCredInfo user => exact hladder
  | credentialInfo user result infoList =>
      dsimp only [AccountTimer.enter]
      split
      · split
        · exact hladder.withKnown.start rfl hcreated (by decide) _
        · exact hladder.withKnown
      · exact hladder
  | authSuccess user authType isWidgetAuth =>
      dsimp only [AccountTimer.enter]
      split
      · have hadvanced := hladder.withKnown.advance (env.bootTimeMs 0)
        exact hadvanced.reset rfl hcreated (triggerPeriod_mem hadvanced.rung) _ _
      · exact hladder
  | credChange user authType eventType isSilentCredChange =>
      dsimp only [AccountTimer.enter]
      split
      next hown =>
        split
        · exact hladder.reset hown.2.2.2 hcreated (by decide) _ _
        · split
          · exact onLadder_of_none (slot_destroy hladder.created)
          · split
            · exact onLadder_of_none (slot_destroy hladder.created)
            · exact hladder
      next => exact hladder
  | destroyAllStrongAuthTimer => exact onLadder_of_none (slot_destroy hladder.created)

theorem climbs_start (currentTime period : Int) :
    Climbs account (account.start created currentTime period) := by
  intro slot hslot
  have hkept : account.start created currentTime period = account := by
    unfold AccountTimer.start
    rw [hslot]
  rw [hkept]
  exact climbs_refl account slot hslot

/-- An authentication moves the record up by what its reading of the stages says. -/
theorem climbs_advance_reset (readTime currentTime laterTime : Int) :
    Climbs account ((account.advance readTime).reset created currentTime laterTime
      (account.advance readTime).triggerPeriod) := by
  intro slot hslot
  have hadvanced : (account.advance readTime).slot =
      some { slot with info := slot.info.advance readTime } := Option.map_eq_some_iff.mpr
        ⟨slot, hslot, rfl⟩
  have hperiod : (account.advance readTime).triggerPeriod =
      (slot.info.advance readTime).triggerPeriod := by
    simp [AccountTimer.triggerPeriod, hadvanced]
  have hstage := slot.info.advance_period readTime
  unfold AccountTimer.reset
  rw [hadvanced, hperiod]
  dsimp only
  split
  · exact ⟨_, hadvanced, hstage.imp_right TimerInfo.stage_mem⟩
  · exact ⟨_, rfl, hstage.imp_right TimerInfo.stage_mem⟩

end AccountTimer

namespace StrongAuthManger

/-- The event changes the PIN of the account or destroys its timer. -/
def interrupts (userId : UserId) : StrongAuthEvent → Bool
  | .credChange user authType _ _ => user = userId ∧ authType = .pin
  | .destroyAllStrongAuthTimer => true
  | _ => false

/-- A PIN of the account was added, or changed by its owner. -/
def renewsPin (userId : UserId) : StrongAuthEvent → Bool
  | .credChange user authType eventType isSilentCredChange =>
      user = userId ∧ authType = .pin ∧ renews eventType isSilentCredChange
  | _ => false

end StrongAuthManger

namespace AccountTimer

open StrongAuthManger

variable {account : AccountTimer} {userId : UserId} {event : StrongAuthEvent}

theorem climbs_enter (env : Environment) (hplain : interrupts userId event = false) :
    Climbs account (account.enter env userId event) := by
  cases event with
  | setStrongAuthStat user reasonFlag | timerFired user =>
      dsimp only [AccountTimer.enter]
      split <;> exact climbs_refl account
  | accountUnlocked user | getCredInfo user => exact climbs_refl account
  | credentialInfo user result infoList =>
      dsimp only [AccountTimer.enter]
      split
      · split
        · exact @climbs_start { account with known := true } env.createdTimer _ _
        · exact climbs_refl account
      · exact climbs_refl account
  | authSuccess user authType isWidgetAuth =>
      dsimp only [AccountTimer.enter]
      split
      · exact @climbs_advance_reset { account with known := true } env.createdTimer _ _ _
      · exact climbs_refl account
  | credChange user authType eventType isSilentCredChange =>
      have hother := of_decide_eq_false hplain
      dsimp only [AccountTimer.enter]
      rw [if_neg fun hall => hother ⟨hall.1, hall.2.2.1⟩]
      exact climbs_refl account
  | destroyAllStrongAuthTimer => cases hplain

/-- A changed PIN puts the record on the lowest rung. -/
theorem enter_renewsPin {env : Environment} (hladder : account.OnLadder)
    (hdevice : env.deviceType ≠ "2in1") (hknown : account.known = true)
    (hrenews : renewsPin userId event = true) :
    ∃ slot ∈ (account.enter env userId event).slot,
      slot.info.triggerPeriod = credChangeFirstStrongAuthTimeoutMs := by
  cases event with
  | credChange user authType eventType isSilentCredChange =>
      obtain ⟨huser, hpin, hevent⟩ := of_decide_eq_true hrenews
      dsimp only [AccountTimer.enter]
      rw [if_pos ⟨huser, hdevice, hpin, hknown⟩, if_pos hevent]
      unfold AccountTimer.reset
      cases hslot : account.slot with
      | none =>
          dsimp only [AccountTimer.start]
          rw [hslot]
          exact ⟨_, rfl, rfl⟩
      | some slot =>
          dsimp only
          rw [if_neg (hladder.created slot hslot)]
          exact ⟨_, rfl, rfl⟩
  | _ => cases hrenews

end AccountTimer

namespace StrongAuthManger

variable {manager : StrongAuthManger} {userId : UserId} {entry : Environment × StrongAuthEvent}

/-- The handlers, with every timer created under an id that is fresh and not 0. -/
def creatingMachine : Machine StrongAuthManger (Environment × StrongAuthEvent) where
  enabled manager entry := entry.1.createdTimer ≠ 0 ∧ manager.Fresh entry.1.createdTimer
  step := step

/-- The record of the account names one of the periods. -/
structure OnRung (userId : UserId) (manager : StrongAuthManger) : Prop where
  known : (manager.strongAuthTimerInfo[userId]?).isSome →
    (manager.strongAuthStateInfo[userId]?).isSome
  rung : ∀ info, manager.strongAuthTimerInfo[userId]? = some info → info.triggerPeriod ∈ rungs
  unnarrowed : ∀ info, manager.strongAuthTimerInfo[userId]? = some info →
    manager.getStrongAuthTimeTrigger userId = info.triggerPeriod
  fires : ∀ env, manager.enter env (.timerFired userId) =
    manager.setStrongAuthStat env userId
      (if (manager.strongAuthTimerInfo[userId]?).any
          fun info => info.triggerPeriod < defaultStrongAuthTimeoutMs then
        StrongAuthReasonFlags.afterCredentialChanged
      else StrongAuthReasonFlags.afterTimeout)

/-- What an event may do to the period on record. -/
structure MovesRung (userId : UserId) (manager : StrongAuthManger)
    (entry : Environment × StrongAuthEvent) : Prop where
  renewed : entry.1.deviceType ≠ "2in1" → manager.isUserExitInStrongAuthInfo userId = true →
    renewsPin userId entry.2 = true →
      ∃ info, (manager.step entry).strongAuthTimerInfo[userId]? = some info ∧
        info.triggerPeriod = credChangeFirstStrongAuthTimeoutMs
  climbs : interrupts userId entry.2 = false →
    ∀ info, manager.strongAuthTimerInfo[userId]? = some info →
      ∃ info', (manager.step entry).strongAuthTimerInfo[userId]? = some info' ∧
        (info'.triggerPeriod = info.triggerPeriod ∨
          (info.triggerPeriod, info'.triggerPeriod) ∈ periodStages)

/-- The record is there at the second point too, with no shorter period. -/
def NotBelow (userId : UserId) (before after : StrongAuthManger) : Prop :=
  ∀ info, before.strongAuthTimerInfo[userId]? = some info →
    ∃ info', after.strongAuthTimerInfo[userId]? = some info' ∧
      info.triggerPeriod ≤ info'.triggerPeriod

/-- The ladder along a run. -/
structure ClimbsLadder (userId : UserId) (events : List (Environment × StrongAuthEvent)) :
    Prop where
  states : creatingMachine.Throughout (OnRung userId) empty events
  steps : creatingMachine.Steps (MovesRung userId) empty events
  between : ∀ before segment, before ++ segment <+: events →
    (∀ entry ∈ segment, interrupts userId entry.2 = false) →
      NotBelow userId (creatingMachine.run empty before)
        (creatingMachine.run empty (before ++ segment))

theorem info_iff {info : TimerInfo} :
    manager.strongAuthTimerInfo[userId]? = some info ↔
      ∃ slot ∈ (manager.account userId).slot, slot.info = info := by
  constructor
  · intro hinfo
    exact ⟨_, slot_some hinfo, rfl⟩
  · rintro ⟨slot, hslot, rfl⟩
    obtain ⟨info, hinfo, rfl⟩ := Option.map_eq_some_iff.mp hslot
    exact hinfo

theorem onRung_of_onLadder (hladder : (manager.account userId).OnLadder) :
    manager.OnRung userId := by
  have hrung (info : TimerInfo) (hinfo : manager.strongAuthTimerInfo[userId]? = some info) :
      info.triggerPeriod ∈ rungs := by
    obtain ⟨slot, hslot, rfl⟩ := info_iff.mp hinfo
    exact hladder.rung slot hslot
  have hnarrow : ∀ period ∈ rungs, narrow period = period ∧ 0 < period := by decide
  refine ⟨fun hrecord => ?_, hrung, fun info hinfo => ?_, fun env => ?_⟩
  · obtain ⟨info, hinfo⟩ := Option.isSome_iff_exists.mp hrecord
    obtain ⟨slot, hslot, -⟩ := info_iff.mp hinfo
    exact hladder.known slot hslot
  · rw [getStrongAuthTimeTrigger, hinfo]
    exact (hnarrow _ (hrung info hinfo)).1
  · refine congrArg (manager.setStrongAuthStat env userId) ?_
    unfold getStrongAuthTimeTrigger
    cases hinfo : manager.strongAuthTimerInfo[userId]? with
    | none => rfl
    | some info =>
        obtain ⟨hsame, hpositive⟩ := hnarrow _ (hrung info hinfo)
        simp [timeoutReason, hsame, hpositive]

theorem account_step (hbacked : manager.Backed)
    (hcreated : manager.MayCreate entry.1.createdTimer) :
    (manager.step entry).account userId =
      (manager.account userId).enter entry.1 userId entry.2 :=
  (account_congr rfl rfl rfl userId).trans (account_enter hbacked hcreated entry.2)

theorem movesRung_of_onLadder (henabled : creatingMachine.enabled manager entry)
    (hbacked : manager.Backed) (hladder : (manager.account userId).OnLadder) :
    manager.MovesRung userId entry := by
  have hafter : (manager.step entry).account userId = _ :=
    account_step hbacked (Or.inr henabled.2)
  refine ⟨fun hdevice hknown hrenews => ?_, fun hplain info hinfo => ?_⟩
  · obtain ⟨slot, hslot, hperiod⟩ :=
      AccountTimer.enter_renewsPin hladder hdevice hknown hrenews
    rw [← hafter] at hslot
    exact ⟨slot.info, info_iff.mpr ⟨slot, hslot, rfl⟩, hperiod⟩
  · obtain ⟨slot, hslot, rfl⟩ := info_iff.mp hinfo
    obtain ⟨slot', hslot', hstage⟩ := AccountTimer.climbs_enter entry.1 hplain slot hslot
    rw [← hafter] at hslot'
    exact ⟨slot'.info, info_iff.mpr ⟨slot', hslot', rfl⟩, hstage⟩

/-- Every timer on record is live, and every account on its ladder. -/
structure Laddered (manager : StrongAuthManger) : Prop where
  backed : manager.Backed
  ladder : ∀ userId, (manager.account userId).OnLadder

theorem empty_laddered : Laddered empty :=
  ⟨empty_backed, fun _ => AccountTimer.onLadder_of_none rfl⟩

theorem laddered_step (henabled : creatingMachine.enabled manager entry)
    (hladdered : manager.Laddered) : (manager.step entry).Laddered where
  backed := step_backed (Or.inr henabled.2) hladdered.backed
  ladder userId := by
    rw [account_step hladdered.backed (Or.inr henabled.2)]
    exact (hladdered.ladder userId).enter henabled.1 userId entry.2

theorem NotBelow.trans {first second third : StrongAuthManger}
    (hfirst : NotBelow userId first second) (hsecond : NotBelow userId second third) :
    NotBelow userId first third := by
  intro info hinfo
  obtain ⟨middle, hmiddle, hle⟩ := hfirst info hinfo
  obtain ⟨last, hlast, hle'⟩ := hsecond middle hmiddle
  exact ⟨last, hlast, Int.le_trans hle hle'⟩

theorem notBelow_step (hmoves : manager.MovesRung userId entry)
    (hplain : interrupts userId entry.2 = false) :
    NotBelow userId manager (manager.step entry) := by
  intro info hinfo
  obtain ⟨next, hnext, hsame | hstage⟩ := hmoves.climbs hplain info hinfo
  · exact ⟨next, hnext, Int.le_of_eq hsame.symm⟩
  · have hall : ∀ stage ∈ periodStages, stage.1 ≤ stage.2 := by decide
    exact ⟨next, hnext, hall _ hstage⟩

/-- Along every run the period of every account keeps to the ladder. -/
theorem climbsLadder {events : List (Environment × StrongAuthEvent)}
    (hadmits : creatingMachine.Admits empty events) (userId : UserId) :
    ClimbsLadder userId events := by
  have hladdered (before : List (Environment × StrongAuthEvent)) (hbefore : before <+: events) :
      (creatingMachine.run empty before).Laddered := by
    obtain ⟨rest, rfl⟩ := hbefore
    exact creatingMachine.run_invariant (fun _ _ henabled hheld => laddered_step henabled hheld)
      ((creatingMachine.steps_append _ _ _ _).mp hadmits).1 empty_laddered
  have hmoves : creatingMachine.Steps (MovesRung userId) empty events := by
    refine (creatingMachine.steps_iff_prefixes _ _ _).mpr fun before entry hbefore => ?_
    have hheld := hladdered before ((List.prefix_append _ _).trans hbefore)
    exact movesRung_of_onLadder ((creatingMachine.steps_iff_prefixes _ _ _).mp hadmits _ _ hbefore)
      hheld.backed (hheld.ladder userId)
  refine ⟨fun before hbefore => onRung_of_onLadder ((hladdered before hbefore).ladder userId),
    hmoves, fun before segment hsegment hplain => ?_⟩
  induction segment using List.reverseRecOn with
  | nil =>
      rw [List.append_nil]
      exact fun info hinfo => ⟨info, hinfo, Int.le_refl _⟩
  | append_singleton rest entry ih =>
      rw [← List.append_assoc] at hsegment ⊢
      rw [creatingMachine.run_concat]
      have hrest := ih ((List.prefix_append _ _).trans hsegment) fun other hother =>
        hplain other (List.mem_append_left _ hother)
      have hlast := (creatingMachine.steps_iff_prefixes _ _ _).mp hmoves _ _ hsegment
      exact hrest.trans (notBelow_step hlast
        (hplain entry (List.mem_append_right _ (List.mem_singleton_self entry))))

/-- A credential on record, then a new PIN and a success with it. -/
theorem climbsLadder_newPin :
    ClimbsLadder 100
      [(creating 5, .credentialInfo 100 .success [⟨1⟩]),
        (creating 6, .credChange 100 .pin .addCred false),
        (creating 7, .authSuccess 100 .pin false)] := by
  refine climbsLadder ?_ 100
  exact ⟨⟨by decide, (fresh_iff _ _).mpr (by decide)⟩,
    ⟨by decide, (fresh_iff _ _).mpr (by decide)⟩,
    ⟨by decide, (fresh_iff _ _).mpr (by decide)⟩, trivial⟩

end StrongAuthManger

end Screenlock
