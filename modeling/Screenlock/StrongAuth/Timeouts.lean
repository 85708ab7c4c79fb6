import Screenlock.StrongAuth.RaceHistory

/-! # Races without a successful authentication

Changed PINs and firing timers never take back what they set: the period is the
first stage as soon as a PIN has changed, and a timer asks for what it finds on
record, before or after the change. Any two of these handlers are serializable.
-/

namespace Screenlock.AuthAccount

open Foundation

variable {handlers : Side → Handler} {account : AuthAccount} {clock : Int}

/-- The flags a firing timer may ask for: by the period it starts with, or by the
first stage when a changed PIN races with it. -/
def Asked (handlers : Side → Handler) (account : AuthAccount) (reasonFlag : Int) : Prop :=
  reasonFlag = account.info.timeoutFlag ∨ (∃ side, (handlers side).renews = true) ∧
    reasonFlag = StrongAuthManger.timeoutReason
      (StrongAuthManger.narrow credChangeFirstStrongAuthTimeoutMs)

/-- Along the race each flag is the first one or one that a timer asked for. -/
structure Timeouts (handlers : Side → Handler) (account : AuthAccount)
    (race : Race AuthAccount Thread) : Prop where
  runs : Runs handlers race
  record : Asked handlers account race.shared.info.timeoutFlag
  asked : ∀ side, handlers side = .timerFired →
    (race.threads side).next ≠ some .getStrongAuthTimeTrigger →
      Asked handlers account (race.threads side).reasonFlag
  flag : race.shared.reasonFlag = account.reasonFlag ∧
      (∀ side, handlers side = .timerFired → (race.threads side).next ≠ none) ∨
    ∃ side reasonFlag, handlers side = .timerFired ∧ (race.threads side).next = none ∧
      Asked handlers account reasonFlag ∧
      race.shared.reasonFlag = StrongAuthManger.requested (some account.reasonFlag) reasonFlag

theorem timeouts_start (account : AuthAccount) (handlers : Side → Handler) (clock : Int) :
    Timeouts handlers account (account.race handlers clock) where
  runs side := Thread.start_runs (handlers side)
  record := Or.inl rfl
  asked side hfired hnext := by
    change (Thread.start (handlers side)).next ≠ _ at hnext
    rw [hfired] at hnext
    exact absurd rfl hnext
  flag := by
    refine Or.inl ⟨rfl, fun side hfired => ?_⟩
    change (Thread.start (handlers side)).next ≠ none
    rw [hfired]
    exact Option.some_ne_none _

section Step

variable (hauth : ∀ side, handlers side ≠ .authSuccess) {race : Race AuthAccount Thread}
  {move : Move AtomicStep}

include hauth

/-- Nobody reads the period to renew the timer with it. -/
theorem not_reading (hruns : Runs handlers race)
    (hnext : (race.threads move.side).next = some move.label) :
    move.label ≠ .getStrongAuthTriggerPeriod := by
  intro hread
  have hcomes := (hruns move.side).next _ hnext
  rw [hread] at hcomes
  cases hhandler : handlers move.side with
  | authSuccess => exact hauth _ hhandler
  | credChange renewal => simp [hhandler, Handler.comesTo] at hcomes
  | timerFired => simp [hhandler, Handler.comesTo] at hcomes

theorem sets_of_timerFired (hruns : Runs handlers race)
    (hnext : (race.threads move.side).next = some .setStrongAuthStat) :
    handlers move.side = .timerFired := by
  have hcomes := (hruns move.side).next _ hnext
  cases hhandler : handlers move.side with
  | authSuccess => exact absurd hhandler (hauth _)
  | credChange renewal => simp [hhandler, Handler.comesTo] at hcomes
  | timerFired => rfl

theorem timeouts_record (hbefore : Timeouts handlers account race)
    (hnext : (race.threads move.side).next = some move.label) :
    Asked handlers account (races.step race move).shared.info.timeoutFlag := by
  by_cases hrecord : move.label = .setCredChangeTriggerPeriod
  · have hrenews := renews_of_comesTo (Or.inr hrecord) ((hbefore.runs move.side).next _ hnext)
    rw [hrecord] at hnext
    refine Or.inr ⟨⟨move.side, hrenews⟩, ?_⟩
    rw [stepped_shared, Thread.step, hnext]
    have hperiod := (hbefore.runs move.side).period (hauth _) hrenews
    simp [sections, setCredChangeTriggerPeriod, TimerInfo.timeoutFlag, hperiod]
  · have hinfo : (races.step race move).shared.info = race.shared.info := by
      apply Thread.step_info
      · simpa [hnext] using hrecord
      · simpa [hnext] using not_reading hauth hbefore.runs hnext
    rw [hinfo]
    exact hbefore.record

omit hauth in
theorem timeouts_asked (hbefore : Timeouts handlers account race)
    (hnext : (race.threads move.side).next = some move.label) (side : Side)
    (hfired : handlers side = .timerFired)
    (hread : ((races.step race move).threads side).next ≠ some .getStrongAuthTimeTrigger) :
    Asked handlers account ((races.step race move).threads side).reasonFlag := by
  rcases Side.eq_or_other move.side side with rfl | rfl
  · rw [stepped_self] at hread ⊢
    by_cases htrigger : move.label = .getStrongAuthTimeTrigger
    · rw [htrigger] at hnext
      rw [Thread.step, hnext]
      exact hbefore.record
    · rw [Thread.step_requests]
      · apply hbefore.asked _ hfired
        simpa [hnext] using htrigger
      · simpa [hnext] using htrigger
  · rw [stepped_other] at hread ⊢
    exact hbefore.asked _ hfired hread

theorem timeouts_step (hnext : (race.threads move.side).next = some move.label)
    (hbefore : Timeouts handlers account race) :
    Timeouts handlers account (races.step race move) := by
  refine ⟨runs_step race move hbefore.runs, timeouts_record hauth hbefore hnext,
    timeouts_asked hbefore hnext, ?_⟩
  by_cases hset : move.label = .setStrongAuthStat
  · -- a firing timer sets what it asks for and returns
    rw [hset] at hnext
    have hfired := sets_of_timerFired hauth hbefore.runs hnext
    have hhandler := (hbefore.runs move.side).handler_eq
    have hasked := hbefore.asked _ hfired (by rw [hnext]; decide)
    refine Or.inr ⟨move.side, (race.threads move.side).reasonFlag, hfired, ?_, hasked, ?_⟩
    · rw [stepped_self, Thread.step, hnext]
      simp [hhandler, hfired]
    · rw [stepped_shared, Thread.step, hnext]
      change StrongAuthManger.requested (some race.shared.reasonFlag) _ = _
      rcases hbefore.flag with ⟨hflag, _⟩ | ⟨side, reasonFlag, hside, hreturned, hasked', hflag⟩
      · rw [hflag]
      · -- the other side is a firing timer too, and both ask for the same
        rcases Side.eq_or_other move.side side with rfl | rfl
        · rw [hreturned] at hnext
          cases hnext
        · have hnone : ¬ ∃ side, (handlers side).renews = true := by
            rintro ⟨renewing, hrenews⟩
            rcases Side.eq_or_other move.side renewing with rfl | rfl
            · rw [hfired] at hrenews
              cases hrenews
            · rw [hside] at hrenews
              cases hrenews
          have hsame := hasked.resolve_right (fun h => hnone h.1)
          have hsame' := hasked'.resolve_right (fun h => hnone h.1)
          rw [hflag, hsame, hsame', StrongAuthManger.requested_twice]
  · have hflag : (races.step race move).shared.reasonFlag = race.shared.reasonFlag := by
      apply Thread.step_flag
      simpa [hnext] using hset
    rw [hflag]
    rcases hbefore.flag with ⟨hsame, hrunning⟩ | ⟨side, reasonFlag, hside, hreturned, hrest⟩
    · refine Or.inl ⟨hsame, fun side hfired => ?_⟩
      rcases Side.eq_or_other move.side side with rfl | rfl
      · have hcomes := (hbefore.runs move.side).next _ hnext
        have htrigger : move.label = .getStrongAuthTimeTrigger := by
          rw [hfired] at hcomes
          simpa [Handler.comesTo, hset] using hcomes
        rw [htrigger] at hnext
        rw [stepped_self, Thread.step, hnext]
        exact Option.some_ne_none _
      · rw [stepped_other]
        exact hrunning _ hfired
    · refine Or.inr ⟨side, reasonFlag, hside, ?_, hrest⟩
      rcases Side.eq_or_other move.side side with rfl | rfl
      · rw [hreturned] at hnext
        cases hnext
      · rw [stepped_other]
        exact hreturned

end Step

/-- Firing timers leave the record and the timer alone. -/
theorem unrenewed_step (hunrenewed : ∀ side, (handlers side).renews = false)
    (race : Race AuthAccount Thread) (move : Move AtomicStep) (henabled : races.enabled race move)
    (hbefore : Runs handlers race ∧ race.shared.info = account.info ∧
      race.shared.armed = account.armed) :
    Runs handlers (races.step race move) ∧ (races.step race move).shared.info = account.info ∧
      (races.step race move).shared.armed = account.armed := by
  obtain ⟨hruns, hinfo, harmed⟩ := hbefore
  have hnext : (race.threads move.side).next = some move.label := henabled.2
  have hcomes := (hruns move.side).next _ hnext
  have hfired : handlers move.side = .timerFired := by
    have hhandler := hunrenewed move.side
    cases hcase : handlers move.side <;> rw [hcase] at hhandler <;> first | rfl | cases hhandler
  rw [hfired] at hcomes
  refine ⟨runs_step race move hruns, ?_, ?_⟩
  · rw [stepped_shared, Thread.step_info, hinfo]
    · rintro hrecord
      rw [Option.some.inj (hnext.symm.trans hrecord)] at hcomes
      simp [Handler.comesTo] at hcomes
    · rintro hread
      rw [Option.some.inj (hnext.symm.trans hread)] at hcomes
      simp [Handler.comesTo] at hcomes
  · rw [stepped_shared, Thread.step_armed, harmed]
    · rintro hstop
      rw [Option.some.inj (hnext.symm.trans hstop)] at hcomes
      simp [Handler.comesTo] at hcomes
    · rintro hstart
      rw [Option.some.inj (hnext.symm.trans hstart)] at hcomes
      simp [Handler.comesTo] at hcomes

section Complete

variable {moves : List (Move AtomicStep)} (hauth : ∀ side, handlers side ≠ .authSuccess)
  (hadmits : races.Admits (account.race handlers clock) moves)
  (hcomplete : (Thread.program sections).Complete (races.run (account.race handlers clock) moves))

include hauth hadmits

theorem timeouts_run :
    Timeouts handlers account (races.run (account.race handlers clock) moves) :=
  races.run_invariant (fun _ _ henabled => timeouts_step hauth henabled.2) hadmits
    (timeouts_start account handlers clock)

include hcomplete

/-- A changed PIN leaves the first stage recorded and armed. -/
theorem changed_outcome {side : Side} (hrenews : (handlers side).renews = true) :
    (races.run (account.race handlers clock) moves).shared.outcome =
      (some (races.run (account.race handlers clock) moves).shared.reasonFlag,
        some credChangeFirstStrongAuthTimeoutMs, some credChangeFirstStrongAuthTimeoutMs) := by
  have hruns := runs_run hadmits
  obtain ⟨recorder, _, hrecorder, hperiod⟩ := recorded_last hadmits hcomplete hrenews
  obtain ⟨starter, _, hstarter, harmed⟩ := armed_last hadmits hcomplete hrenews
  rw [(hruns recorder).period (hauth _) hrecorder] at hperiod
  rw [(hruns starter).period (hauth _) hstarter] at harmed
  unfold outcome
  rw [hperiod, harmed]

omit hauth hcomplete in
/-- A serial run in which both handlers read the clock at the start. -/
theorem serial_at_start (first : Side) :
    SerialOutcome handlers account clock (races.run (account.race handlers clock) moves).clock
      (sections.handle (fun _ => clock) (handlers first.other)
        (sections.handle (fun _ => clock) (handlers first) account)).outcome :=
  serialOutcome_of_moments first (Int.le_refl _) (Int.le_refl _)
    ((Thread.program sections).clock_le_of_admits hadmits)

/-- With a changed PIN the other handler only matters for the flag. -/
theorem serial_with_change {renewing : Side} (hrenews : (handlers renewing).renews = true) :
    SerialOutcome handlers account clock (races.run (account.race handlers clock) moves).clock
      (races.run (account.race handlers clock) moves).shared.outcome := by
  rw [changed_outcome hauth hadmits hcomplete hrenews]
  rcases (timeouts_run hauth hadmits).flag with
    ⟨hflag, hrunning⟩ | ⟨side, reasonFlag, hside, _, hasked, hflag⟩
  · -- no callback has set the flag, so none has run
    have hchanges : ∀ side, ∃ renewal, handlers side = .credChange renewal := by
      intro side
      cases hside : handlers side with
      | authSuccess => exact absurd hside (hauth side)
      | credChange renewal => exact ⟨renewal, rfl⟩
      | timerFired => exact absurd (hcomplete side) (hrunning side hside)
    obtain ⟨renewal, hleft⟩ := hchanges .left
    obtain ⟨renewal', hright⟩ := hchanges .right
    have houtcome := serial_at_start hadmits .left
    rw [hleft, show handlers Side.left.other = _ from hright, outcome_credChange,
      handle_credChange] at houtcome
    rw [hflag]
    exact houtcome
  · have hother : ∃ renewal, handlers side.other = .credChange renewal := by
      cases hother : handlers side.other with
      | authSuccess => exact absurd hother (hauth _)
      | credChange renewal => exact ⟨renewal, rfl⟩
      | timerFired =>
          rcases Side.eq_or_other side renewing with rfl | rfl
          · rw [hside] at hrenews
            cases hrenews
          · rw [hother] at hrenews
            cases hrenews
    obtain ⟨renewal, hother⟩ := hother
    rw [hflag]
    rcases hasked with rfl | ⟨_, rfl⟩
    · -- the timer read the period before the PIN changed
      have houtcome := serial_at_start hadmits side
      rw [hside, hother, outcome_credChange, handle_timerFired] at houtcome
      exact houtcome
    · have houtcome := serial_at_start hadmits side.other
      rw [Side.other_other, hside, hother, outcome_timerFired, handle_credChange] at houtcome
      exact houtcome

/-- Two callbacks ask for the same flag, so one after the other they set it once. -/
theorem serial_without_change (hunrenewed : ∀ side, (handlers side).renews = false) :
    SerialOutcome handlers account clock (races.run (account.race handlers clock) moves).clock
      (races.run (account.race handlers clock) moves).shared.outcome := by
  have hfired : ∀ side, handlers side = .timerFired := by
    intro side
    have hside := hunrenewed side
    cases hcase : handlers side <;> rw [hcase] at hside <;> first | rfl | cases hside
  obtain ⟨_, hinfo, harmed⟩ := races.run_invariant (unrenewed_step hunrenewed) hadmits
    ⟨fun side => Thread.start_runs (handlers side), rfl, rfl⟩
  have houtcome := serial_at_start hadmits .left
  rw [hfired, hfired, outcome_timerFired, handle_timerFired] at houtcome
  rcases (timeouts_run hauth hadmits).flag with
    ⟨_, hrunning⟩ | ⟨_, reasonFlag, _, _, hasked, hflag⟩
  · exact absurd (hcomplete .left) (hrunning .left (hfired .left))
  · have hnone : ¬ ∃ side, (handlers side).renews = true := by
      rintro ⟨side, hrenews⟩
      rw [hunrenewed] at hrenews
      cases hrenews
    rw [hasked.resolve_right (fun h => hnone h.1)] at hflag
    unfold outcome
    rw [hflag, hinfo, harmed, ← StrongAuthManger.requested_twice]
    exact houtcome

/-- Any two handlers other than successful authentications are serializable. -/
theorem serial_without_auth :
    SerialOutcome handlers account clock (races.run (account.race handlers clock) moves).clock
      (races.run (account.race handlers clock) moves).shared.outcome := by
  by_cases hchanged : ∃ side, (handlers side).renews = true
  · obtain ⟨renewing, hrenews⟩ := hchanged
    exact serial_with_change hauth hadmits hcomplete hrenews
  · refine serial_without_change hauth hadmits hcomplete fun side => ?_
    exact Bool.eq_false_iff.mpr fun hrenews => hchanged ⟨side, hrenews⟩

end Complete

end Screenlock.AuthAccount
