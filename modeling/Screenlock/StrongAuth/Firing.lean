import Screenlock.StrongAuth.Readings

/-! # A successful authentication against a firing timer

The timer callback reads the period and sets the flag in two sections. When the
flag it sets stays, it has to be the one for the period the authentication
leaves behind.
-/

namespace Screenlock.AuthAccount

open Foundation

variable {handlers : Side → Handler} {start : Race AuthAccount Thread} {side : Side}

/-- The flag the callback goes for, by who read the period last. -/
structure FiringReads (handlers : Side → Handler) (side : Side) (start : Race AuthAccount Thread)
    (past : List (Move AtomicStep)) (race : Race AuthAccount Thread) : Prop where
  once : ReadOnce handlers side start past race
  pending : lastMover AtomicStep.reads past = none →
    (race.threads side.other).next = some .getStrongAuthTimeTrigger
  late : lastMover AtomicStep.reads past = some side.other →
    (race.threads side.other).reasonFlag = race.shared.info.timeoutFlag
  early : lastMover AtomicStep.reads past = some side →
    (race.threads side.other).next ≠ some .getStrongAuthTimeTrigger →
      (race.threads side.other).reasonFlag = start.shared.info.timeoutFlag

/-- The flag, by who set it last, once the authentication has cleared it. -/
def FiringSets (handlers : Side → Handler) (side : Side) (past : List (Move AtomicStep))
    (race : Race AuthAccount Thread) : Prop :=
  Runs handlers race ∧ ((race.threads side).next ≠ some .setStrongAuthStat →
    lastMover AtomicStep.sets past = some side ∧
        race.shared.reasonFlag = StrongAuthReasonFlags.none ∨
      lastMover AtomicStep.sets past = some side.other ∧
        race.shared.reasonFlag = (race.threads side.other).reasonFlag ∧
        (race.threads side.other).next = none)

section NotTriggering

variable {race : Race AuthAccount Thread} {move : Move AtomicStep}

theorem stepped_reason (hnext : (race.threads move.side).next = some move.label)
    (htrigger : move.label ≠ .getStrongAuthTimeTrigger) (side : Side) :
    ((races.step race move).threads side).reasonFlag = (race.threads side).reasonFlag := by
  rcases Side.eq_or_other move.side side with rfl | rfl
  · rw [stepped_self, Thread.step_requests]
    simpa [hnext] using htrigger
  · rw [stepped_other]

/-- No step leads to the reading of the callback. -/
theorem stepped_pending (hnext : (race.threads move.side).next = some move.label)
    (htrigger : move.label ≠ .getStrongAuthTimeTrigger) (side : Side) :
    ((races.step race move).threads side).next = some .getStrongAuthTimeTrigger ↔
      (race.threads side).next = some .getStrongAuthTimeTrigger := by
  rcases Side.eq_or_other move.side side with rfl | rfl
  · have hknown : race.shared.info.timerId ≠ 0 := race.shared.known
    rw [stepped_self, hnext]
    unfold Thread.step
    rw [hnext]
    cases hlabel : move.label <;> simp [hlabel, hknown, sections] at htrigger ⊢
  · rw [stepped_other]

end NotTriggering

section Step

variable (hauth : handlers side = .authSuccess) (hfired : handlers side.other = .timerFired)

include hauth hfired

omit hfired in
theorem other_of_trigger {race : Race AuthAccount Thread} {move : Move AtomicStep}
    (hruns : Runs handlers race)
    (hnext : (race.threads move.side).next = some .getStrongAuthTimeTrigger) :
    move.side = side.other := by
  have hcomes := (hruns move.side).next _ hnext
  rcases Side.eq_or_other side move.side with hside | hside
  · rw [hside, hauth] at hcomes
    simp [Handler.comesTo] at hcomes
  · exact hside

theorem firingSets_step (past : List (Move AtomicStep)) (race : Race AuthAccount Thread)
    (move : Move AtomicStep) (henabled : races.enabled race move)
    (hbefore : FiringSets handlers side past race) :
    FiringSets handlers side (past ++ [move]) (races.step race move) := by
  obtain ⟨hruns, hsets⟩ := hbefore
  have hnext : (race.threads move.side).next = some move.label := henabled.2
  refine ⟨runs_step race move hruns, fun hcleared => ?_⟩
  by_cases hset : move.label = .setStrongAuthStat
  · rw [lastMover_concat_self _ (by rw [hset]; rfl)]
    rw [hset] at hnext
    rcases Side.eq_or_other side move.side with hside | hside
    · subst hside
      refine Or.inl ⟨rfl, ?_⟩
      rw [stepped_shared, Thread.step, hnext]
      simp [sections, setStrongAuthStat, (hruns move.side).reason hauth]
    · -- the callback finds the flag cleared and is done
      have hmover : side = move.side.other := by rw [hside, Side.other_other]
      rw [hmover, stepped_other, ← hmover] at hcleared
      refine Or.inr ⟨by rw [hside], ?_⟩
      rw [← hside, stepped_self, stepped_shared, Thread.step, hnext]
      rcases hsets hcleared with ⟨_, hflag⟩ | ⟨_, _, hreturned⟩
      · refine ⟨?_, ?_⟩
        · change StrongAuthManger.requested (some race.shared.reasonFlag) _ = _
          rw [hflag, StrongAuthManger.requested_cleared]
        · have hhandler := (hruns move.side).handler_eq
          rw [hside, hfired] at hhandler
          rw [hside, hhandler]
          simp
      · rw [← hside, hnext] at hreturned
        cases hreturned
  · rw [lastMover_concat_skip _ (by simp [AtomicStep.sets, hset])]
    have hflag : (races.step race move).shared.reasonFlag = race.shared.reasonFlag := by
      apply Thread.step_flag
      simpa [hnext] using hset
    rw [hflag]
    rcases Side.eq_or_other side move.side with hside | hside
    · subst hside
      rw [stepped_other]
      exact hsets (by simpa [hnext] using hset)
    · have hmover : side = move.side.other := by rw [hside, Side.other_other]
      rw [hmover, stepped_other, ← hmover] at hcleared
      rcases hsets hcleared with hfirst | ⟨_, _, hreturned⟩
      · exact Or.inl hfirst
      · rw [← hside, hnext] at hreturned
        cases hreturned

theorem firingReads_step (past : List (Move AtomicStep)) (move : Move AtomicStep)
    (henabled : races.enabled (races.run start past) move)
    (hbefore : FiringReads handlers side start past (races.run start past)) :
    FiringReads handlers side start (past ++ [move])
      (races.step (races.run start past) move) := by
  have hother : handlers side.other ≠ .authSuccess := by
    rw [hfired]
    decide
  have hnext : ((races.run start past).threads move.side).next = some move.label := henabled.2
  have honce := readOnce_step hauth hother past move henabled hbefore.once
  by_cases htrigger : move.label = .getStrongAuthTimeTrigger
  · have hreads : lastMover AtomicStep.reads (past ++ [move]) = some move.side := by
      exact lastMover_concat_self _ (by rw [htrigger]; rfl)
    rw [htrigger] at hnext
    have hmover := other_of_trigger hauth hbefore.once.runs hnext
    refine ⟨honce, fun hnone => ?_, fun _ => ?_, fun hlast => ?_⟩
    · rw [hreads] at hnone
      cases hnone
    · rw [← hmover, stepped_self, stepped_shared, Thread.step, hnext]
      rfl
    · rw [hreads, hmover] at hlast
      exact absurd (Option.some.inj hlast) (Side.other_ne side)
  have hreason : ((races.step (races.run start past) move).threads side.other).reasonFlag =
      ((races.run start past).threads side.other).reasonFlag :=
    stepped_reason hnext htrigger side.other
  have hpending : ((races.step (races.run start past) move).threads side.other).next =
        some .getStrongAuthTimeTrigger ↔
      ((races.run start past).threads side.other).next = some .getStrongAuthTimeTrigger :=
    stepped_pending hnext htrigger side.other
  by_cases hread : move.label = .getStrongAuthTriggerPeriod
  · have hreads : lastMover AtomicStep.reads (past ++ [move]) = some move.side := by
      exact lastMover_concat_self _ (by rw [hread]; rfl)
    rw [hread] at hnext
    obtain rfl := reader_eq hother hbefore.once.runs hnext
    have hunread := not_hasRead_of_next hnext (Or.inr (Or.inr rfl))
    refine ⟨honce, fun hnone => ?_, fun hlast => ?_, fun _ hfound => ?_⟩
    · rw [hreads] at hnone
      cases hnone
    · rw [hreads] at hlast
      exact absurd (Option.some.inj hlast).symm (Side.other_ne _)
    · -- the callback has read the record as it was at the start
      rw [hreason]
      rw [Ne, hpending] at hfound
      cases hlast : lastMover AtomicStep.reads past with
      | none => exact absurd (hbefore.pending hlast) hfound
      | some reader =>
          rcases Side.eq_or_other move.side reader with rfl | rfl
          · exact hbefore.early hlast hfound
          · rw [hbefore.late hlast, hbefore.once.untouched hfired hunread]
  · have hreads : lastMover AtomicStep.reads (past ++ [move]) =
        lastMover AtomicStep.reads past := by
      exact lastMover_concat_skip _ (by simp [AtomicStep.reads, htrigger, hread])
    have hflag : (races.step (races.run start past) move).shared.info.timeoutFlag =
        (races.run start past).shared.info.timeoutFlag := by
      rcases kept_step hfired hbefore.once.runs hnext hread with hinfo | ⟨hdone, hinfo⟩
      · rw [hinfo]
      · exact TimerInfo.timeoutFlag_congr (hinfo.trans (hbefore.once.kept hfired hdone).symm)
    refine ⟨honce, ?_, ?_, ?_⟩
    · rw [hreads, hpending]
      exact hbefore.pending
    · rw [hreads, hreason, hflag]
      exact hbefore.late
    · rw [hreads, hreason, Ne, hpending]
      exact hbefore.early

omit hfired in
theorem firingSets_start (account : AuthAccount) (clock : Int) :
    FiringSets handlers side [] (account.race handlers clock) := by
  refine ⟨fun side => Thread.start_runs (handlers side), fun hcleared => ?_⟩
  change (Thread.start (handlers side)).next ≠ _ at hcleared
  rw [hauth] at hcleared
  exact absurd rfl hcleared

theorem firingReads_start (account : AuthAccount) (clock : Int) :
    FiringReads handlers side (account.race handlers clock) [] (account.race handlers clock) where
  once := readOnce_start hauth account clock
  pending _ := by
    change (Thread.start (handlers side.other)).next = _
    rw [hfired]
    rfl
  late hlast := by simp at hlast
  early hlast := by simp at hlast

/-- One after the other, the flag is cleared or fits the period that is left. -/
theorem serial_flag {account : AuthAccount} {clock after flag period armed : Int}
    (hserial : SerialOutcome handlers account clock after (some flag, some period, some armed)) :
    flag = StrongAuthReasonFlags.none ∨
      flag = StrongAuthManger.timeoutReason (StrongAuthManger.narrow period) := by
  obtain ⟨first, bootTimeMs, _, houtcome⟩ := hserial
  unfold Sections.oneAfterTheOther at houtcome
  rcases Side.eq_or_other side first with rfl | rfl
  · rw [hauth, hfired, outcome_timerFired, handle_authSuccess_flag,
      StrongAuthManger.requested_cleared] at houtcome
    obtain ⟨hflag, hrest⟩ := Prod.mk.inj houtcome
    obtain ⟨hperiod, _⟩ := Prod.mk.inj hrest
    rw [← Option.some.inj hflag, ← Option.some.inj hperiod]
    exact Or.inr rfl
  · rw [Side.other_other, hauth, outcome_authSuccess] at houtcome
    exact Or.inl (Option.some.inj (Prod.mk.inj houtcome).1).symm

/-- The callback last: the flag fits the period that is left. -/
theorem serial_callback_last {account : AuthAccount} {clock after currentTime : Int}
    (hlow : clock ≤ currentTime) (hhigh : currentTime ≤ after) :
    SerialOutcome handlers account clock after
      (some (account.info.advance currentTime).timeoutFlag,
        some (account.info.advance currentTime).triggerPeriod,
        some (account.info.advance currentTime).triggerPeriod) := by
  have hserial : SerialOutcome handlers account clock _ _ :=
    serialOutcome_of_moments side hlow (Int.le_refl currentTime) hhigh
  rw [hauth, hfired, outcome_timerFired, handle_authSuccess_flag,
    StrongAuthManger.requested_cleared, handle_authSuccess_info, handle_authSuccess_armed]
    at hserial
  exact hserial

/-- The authentication last: the flag is cleared. -/
theorem serial_auth_last {account : AuthAccount} {clock after currentTime : Int}
    (hlow : clock ≤ currentTime) (hhigh : currentTime ≤ after) :
    SerialOutcome handlers account clock after
      (some StrongAuthReasonFlags.none, some (account.info.advance currentTime).triggerPeriod,
        some (account.info.advance currentTime).triggerPeriod) := by
  have hserial : SerialOutcome handlers account clock _ _ :=
    serialOutcome_of_moments side.other hlow (Int.le_refl currentTime) hhigh
  rw [Side.other_other, hauth, hfired, outcome_authSuccess, handle_timerFired] at hserial
  exact hserial

end Step

section Complete

variable {account : AuthAccount} {clock : Int} {moves : List (Move AtomicStep)}
  (hauth : handlers side = .authSuccess) (hfired : handlers side.other = .timerFired)
  (hadmits : races.Admits (account.race handlers clock) moves)
  (hcomplete : (Thread.program sections).Complete (races.run (account.race handlers clock) moves))

include hauth hfired hadmits hcomplete

/-- Only the authentication sets the timer anew. -/
theorem timer_outcome :
    (races.run (account.race handlers clock) moves).shared.outcome =
      (some (races.run (account.race handlers clock) moves).shared.reasonFlag,
        some ((races.run (account.race handlers clock) moves).threads side).triggerPeriod,
        some ((races.run (account.race handlers clock) moves).threads side).triggerPeriod) := by
  obtain ⟨recorder, starter, _, _, hrecords, hstarts, houtcome⟩ :=
    renewed_outcome hauth hadmits hcomplete
  have honly : ∀ writer, (handlers writer).renews = true → writer = side := by
    intro writer hrenews
    rcases Side.eq_or_other side writer with rfl | rfl
    · rfl
    · rw [hfired] at hrenews
      cases hrenews
  rw [houtcome, honly recorder hrecords, honly starter hstarts]

/-- Against a firing timer: the race is serializable exactly if the authentication
clears the flag last, or the callback reads the period last, or the period read
is not a fourth stage that is over. -/
theorem auth_timer_iff :
    SerialOutcome handlers account clock (races.run (account.race handlers clock) moves).clock
        (races.run (account.race handlers clock) moves).shared.outcome ↔
      OrderedFor side moves (handlers side.other) ∨
        races.Steps (FindsFor record (handlers side.other)) (account.race handlers clock)
          moves := by
  have hdone : ((races.run (account.race handlers clock) moves).threads side).HasRead :=
    hasRead_of_complete hcomplete
  have houtcome := timer_outcome hauth hfired hadmits hcomplete
  have hreads := races.run_invariant_past (firingReads_start hauth hfired account clock)
    (firingReads_step hauth hfired) hadmits
  have hsets := (races.run_invariant_past (firingSets_start hauth account clock)
    (fun past => firingSets_step hauth hfired past _) hadmits).2 hdone.1
  obtain ⟨_, info, currentTime, ⟨hlow, hhigh⟩, hperiod, hsteps, hinfo⟩ := hreads.once.read hdone
  rw [hinfo hfired] at hperiod hsteps
  change _ = (account.info.advance currentTime).triggerPeriod at hperiod
  have hfits : races.Steps (FindsFor record (handlers side.other)) (account.race handlers clock)
      moves ↔ (account.info.advance currentTime).timeoutFlag = account.info.timeoutFlag := by
    rw [hsteps, TimerInfo.timeoutFlag_advance_iff, hfired]
    rfl
  rw [hperiod] at houtcome
  -- a flag that fits the period is what the callback sets after the authentication
  have hlate : (races.run (account.race handlers clock) moves).shared.reasonFlag =
      (account.info.advance currentTime).timeoutFlag →
      SerialOutcome handlers account clock (races.run (account.race handlers clock) moves).clock
        (races.run (account.race handlers clock) moves).shared.outcome := by
    intro hflag
    rw [houtcome, hflag]
    exact serial_callback_last hauth hfired hlow hhigh
  rcases hsets with ⟨hlast, hflag⟩ | ⟨hlast, hflag, hreturned⟩
  · refine iff_of_true ?_ (Or.inl ?_)
    · rw [houtcome, hflag]
      exact serial_auth_last hauth hfired hlow hhigh
    · rw [hfired]
      exact Or.inl hlast
  · cases hreader : lastMover AtomicStep.reads moves with
    | none =>
        rw [hreads.pending hreader] at hreturned
        cases hreturned
    | some reader =>
        rcases Side.eq_or_other side reader with rfl | rfl
        · -- the callback read the period before the authentication did
          have hreason := hreads.early hreader (by rw [hreturned]; decide)
          change _ = account.info.timeoutFlag at hreason
          rw [hreason] at hflag
          constructor
          · intro hserial
            rw [houtcome, hflag] at hserial
            refine Or.inr (hfits.mpr ?_)
            rcases serial_flag hauth hfired hserial with hnone | hfit
            · exact absurd hnone account.info.timeoutFlag_ne_none
            · exact hfit.symm
          · rintro (hordered | hfound)
            · rw [hfired] at hordered
              rcases hordered with hset | hread
              · exact absurd (Option.some.inj (hlast.symm.trans hset)) (Side.other_ne _)
              · exact absurd (Option.some.inj (hreader.symm.trans hread)).symm (Side.other_ne _)
            · exact hlate (hflag.trans (hfits.mp hfound).symm)
        · refine iff_of_true (hlate ?_) (Or.inl ?_)
          · rw [hflag, hreads.late hreader]
            exact TimerInfo.timeoutFlag_congr ((hreads.once.kept hfired hdone).trans hperiod)
          · rw [hfired]
            exact Or.inr hreader

end Complete

end Screenlock.AuthAccount
