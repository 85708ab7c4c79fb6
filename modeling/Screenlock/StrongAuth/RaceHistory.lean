import Screenlock.StrongAuth.Outcome

/-! # What a race leaves behind

Along a race over one account, the recorded period is the one of the thread that
recorded last, unless a thread is about to record again; the armed period is the
one of the thread that started the timer last, unless it is stopped to be
started again; the flag is the one the last `SetStrongAuthStat` left.
-/

namespace Screenlock

open Foundation

/-- The handlers that set the account's timer anew. -/
def Handler.renews : Handler → Bool
  | .authSuccess => true
  | .credChange _ => true
  | .timerFired => false

/-- The steps a handler comes to for an account that has a timer. -/
def Handler.comesTo : Handler → AtomicStep → Bool
  | .authSuccess, label => label ∉ [AtomicStep.isUserExitInStrongAuthInfo,
      .startStrongAuthTimer, .getStrongAuthTimeTrigger]
  | .credChange _, label => label ∈ [AtomicStep.isUserExitInStrongAuthInfo, .getTimerId,
      .resetBootTime, .stopTimer, .startTimer, .setCredChangeTriggerPeriod]
  | .timerFired, label => label ∈ [AtomicStep.getStrongAuthTimeTrigger, .setStrongAuthStat]

/-- The one step that leads to this one, where there is only one. -/
def AtomicStep.predecessor : AtomicStep → Option AtomicStep
  | .setCredChangeTriggerPeriod => some .startTimer
  | .getStrongAuthTriggerPeriod => some .periodBootTime
  | _ => none

/-- The steps of `ResetStrongAuthTimer`. -/
def AtomicStep.resets : AtomicStep → Bool
  | .getTimerId | .startStrongAuthTimer | .resetBootTime | .stopTimer | .startTimer
  | .setCredChangeTriggerPeriod => true
  | _ => false

namespace Thread

/-- The thread runs the handler. -/
structure Runs (handler : Handler) (thread : Thread) : Prop where
  handler_eq : thread.handler = handler
  next : ∀ label, thread.next = some label → handler.comesTo label = true
  period : handler ≠ .authSuccess → handler.renews = true →
    thread.triggerPeriod = credChangeFirstStrongAuthTimeoutMs
  reason : handler = .authSuccess → thread.reasonFlag = StrongAuthReasonFlags.none

theorem start_runs (handler : Handler) : (start handler).Runs handler := by
  cases handler <;> constructor <;> simp [start, Handler.comesTo, Handler.renews]

section Frame

variable {account : AuthAccount} {thread : Thread} (time : Int)

theorem step_info (hrecord : thread.next ≠ some .setCredChangeTriggerPeriod)
    (hread : thread.next ≠ some .getStrongAuthTriggerPeriod) :
    (step AuthAccount.sections time thread account).2.info = account.info := by
  unfold step
  cases hnext : thread.next with
  | none => rfl
  | some label => cases label <;> first | rfl | contradiction

theorem step_armed (hstop : thread.next ≠ some .stopTimer)
    (hstart : thread.next ≠ some .startTimer) :
    (step AuthAccount.sections time thread account).2.armed = account.armed := by
  unfold step
  cases hnext : thread.next with
  | none => rfl
  | some label => cases label <;> first | rfl | contradiction

theorem step_flag (hset : thread.next ≠ some .setStrongAuthStat) :
    (step AuthAccount.sections time thread account).2.reasonFlag = account.reasonFlag := by
  unfold step
  cases hnext : thread.next with
  | none => rfl
  | some label => cases label <;> first | rfl | contradiction

theorem step_triggerPeriod (hread : thread.next ≠ some .getStrongAuthTriggerPeriod) :
    (step AuthAccount.sections time thread account).1.triggerPeriod = thread.triggerPeriod := by
  unfold step
  cases hnext : thread.next with
  | none => rfl
  | some label => cases label <;> first | rfl | contradiction

theorem step_requests (hread : thread.next ≠ some .getStrongAuthTimeTrigger) :
    (step AuthAccount.sections time thread account).1.reasonFlag = thread.reasonFlag := by
  unfold step
  cases hnext : thread.next with
  | none => rfl
  | some label => cases label <;> first | rfl | contradiction

@[simp] theorem step_handler :
    (step AuthAccount.sections time thread account).1.handler = thread.handler := by
  unfold step
  cases thread.next with
  | none => rfl
  | some label => cases label <;> rfl

theorem step_next {label : AtomicStep} {handler : Handler} (hruns : thread.Runs handler)
    (hnext : thread.next = some label) :
    ∀ after, (step AuthAccount.sections time thread account).1.next = some after →
      handler.comesTo after = true := by
  have hcomes := hruns.next label hnext
  have hhandler := hruns.handler_eq
  have hknown : account.info.timerId ≠ 0 := account.known
  unfold step
  rw [hnext]
  cases handler <;> cases label <;> revert hcomes <;>
    simp [Handler.comesTo, hhandler, hknown, AuthAccount.sections]

theorem step_runs {handler : Handler} (hruns : thread.Runs handler) :
    (step AuthAccount.sections time thread account).1.Runs handler := by
  cases hnext : thread.next with
  | none =>
      have hsame : (step AuthAccount.sections time thread account).1 = thread := by
        unfold step
        rw [hnext]
      rw [hsame]
      exact hruns
  | some label =>
      have hcomes := hruns.next label hnext
      refine ⟨?_, step_next time hruns hnext, fun hother hrenews => ?_, fun hauth => ?_⟩
      · rw [step_handler, hruns.handler_eq]
      · rw [step_triggerPeriod, hruns.period hother hrenews]
        rw [hnext]
        rintro ⟨rfl⟩
        cases handler <;> simp_all [Handler.comesTo]
      · rw [step_requests, hruns.reason hauth]
        rw [hnext]
        rintro ⟨rfl⟩
        subst hauth
        simp [Handler.comesTo] at hcomes

/-- A handler that renews the timer returns with its recording only. -/
theorem step_returns {label : AtomicStep} {handler : Handler} (hruns : thread.Runs handler)
    (hrenews : handler.renews = true) (hnext : thread.next = some label)
    (hreturns : (step AuthAccount.sections time thread account).1.next = none) :
    label = .setCredChangeTriggerPeriod := by
  have hcomes := hruns.next label hnext
  have hhandler := hruns.handler_eq
  have hknown : account.info.timerId ≠ 0 := account.known
  revert hreturns
  unfold step
  rw [hnext]
  cases handler <;> cases label <;> revert hcomes hrenews <;>
    simp [Handler.comesTo, Handler.renews, hhandler, hknown, AuthAccount.sections]

/-- A thread comes to a step with one predecessor from that one. -/
theorem step_from_predecessor {label after before : AtomicStep} {handler : Handler}
    (hruns : thread.Runs handler) (hnext : thread.next = some label)
    (hafter : (step AuthAccount.sections time thread account).1.next = some after)
    (hbefore : after.predecessor = some before) : label = before := by
  have hhandler := hruns.handler_eq
  have hknown : account.info.timerId ≠ 0 := account.known
  revert hafter
  unfold step
  rw [hnext]
  cases after <;> cases hbefore <;> cases handler <;> cases label <;>
    simp [hhandler, hknown, AuthAccount.sections]

theorem step_resets {label : AtomicStep} {handler : Handler} (hruns : thread.Runs handler)
    (hnext : thread.next = some label) (hresets : label.resets = true)
    (hrecord : label ≠ .setCredChangeTriggerPeriod) :
    ∃ after, (step AuthAccount.sections time thread account).1.next = some after ∧
      after.resets = true := by
  have hcomes := hruns.next label hnext
  have hknown : account.info.timerId ≠ 0 := account.known
  unfold step
  rw [hnext]
  cases label <;> revert hresets hrecord hcomes <;>
    simp [AtomicStep.resets, Handler.comesTo, hknown, AuthAccount.sections]
  cases handler <;> simp

end Frame

end Thread

namespace AuthAccount

/-- Both handlers of an account are called. -/
def race (account : AuthAccount) (handlers : Side → Handler) (clock : Int) :
    Race AuthAccount Thread :=
  ⟨account, fun side => .start (handlers side), clock⟩

/-- Races over one account. -/
abbrev races : Machine (Race AuthAccount Thread) (Move AtomicStep) :=
  (Thread.program sections).machine

variable {handlers : Side → Handler} {start : Race AuthAccount Thread}

/-- Each side runs its handler. -/
def Runs (handlers : Side → Handler) (race : Race AuthAccount Thread) : Prop :=
  ∀ side, (race.threads side).Runs (handlers side)

@[simp] theorem stepped_self (race : Race AuthAccount Thread) (move : Move AtomicStep) :
    (races.step race move).threads move.side =
      (Thread.step sections move.time (race.threads move.side) race.shared).1 :=
  Program.machine_step_self ..

@[simp] theorem stepped_other (race : Race AuthAccount Thread) (move : Move AtomicStep) :
    (races.step race move).threads move.side.other = race.threads move.side.other :=
  Program.machine_step_ne _ _ _ (Side.other_ne _)

theorem stepped_shared (race : Race AuthAccount Thread) (move : Move AtomicStep) :
    (races.step race move).shared =
      (Thread.step sections move.time (race.threads move.side) race.shared).2 := rfl

theorem runs_step (race : Race AuthAccount Thread) (move : Move AtomicStep)
    (hruns : Runs handlers race) : Runs handlers (races.step race move) := by
  intro side
  rcases Side.eq_or_other move.side side with rfl | rfl
  · rw [stepped_self]
    exact Thread.step_runs move.time (hruns move.side)
  · rw [stepped_other]
    exact hruns _

/-- Only handlers that renew start the timer or record a period. -/
theorem renews_of_comesTo {handler : Handler} {label : AtomicStep}
    (hlabel : label = .startTimer ∨ label = .setCredChangeTriggerPeriod)
    (hcomes : handler.comesTo label = true) : handler.renews = true := by
  rcases hlabel with rfl | rfl <;> cases handler <;> simp [Handler.comesTo, Handler.renews] at *

/-- A place that a thread writes its period to, once and late: nothing but the
write changes it, unless a thread is about to write again. -/
structure PeriodWrite where
  writes : AtomicStep → Bool
  written : AuthAccount → Option Int
  /-- The thread has made its write. -/
  Done : Thread → Prop
  /-- The thread is on its way to a write. -/
  Pending : Thread → Prop
  not_done_start : ∀ handler, ¬ Done (.start handler)
  returned : ∀ thread, thread.next = none → Done thread ∧ ¬ Pending thread
  renews : ∀ {handler : Handler} {label}, writes label = true → handler.comesTo label = true →
    handler.renews = true
  write : ∀ {thread label} time account, thread.next = some label → writes label = true →
    Done (Thread.step sections time thread account).1 ∧
      written (Thread.step sections time thread account).2 =
        some (Thread.step sections time thread account).1.triggerPeriod
  done_step : ∀ {thread label} time account, thread.next = some label → Done thread →
    Done (Thread.step sections time thread account).1 ∧
      (Thread.step sections time thread account).1.triggerPeriod = thread.triggerPeriod
  done_before : ∀ {thread handler label} time account, thread.Runs handler →
    handler.renews = true → thread.next = some label → writes label = false →
      Done (Thread.step sections time thread account).1 → Done thread
  kept : ∀ {thread label} time account, thread.next = some label → writes label = false →
    Pending (Thread.step sections time thread account).1 ∨
      written (Thread.step sections time thread account).2 = written account
  pending_step : ∀ {thread handler label} time account, thread.Runs handler →
    thread.next = some label → writes label = false → Pending thread →
      Pending (Thread.step sections time thread account).1

/-- What is written is the period of the side that wrote last. -/
structure WrittenLast (write : PeriodWrite) (handlers : Side → Handler)
    (past : List (Move AtomicStep)) (race : Race AuthAccount Thread) : Prop where
  runs : Runs handlers race
  done : ∀ side, (handlers side).renews = true → write.Done (race.threads side) →
    lastMover write.writes past ≠ none
  last : ∀ side, lastMover write.writes past = some side →
    (handlers side).renews = true ∧ write.Done (race.threads side) ∧
      ((∃ other, write.Pending (race.threads other)) ∨
        write.written race.shared = some (race.threads side).triggerPeriod)

section WrittenLast

variable {write : PeriodWrite} {past : List (Move AtomicStep)} {race : Race AuthAccount Thread}
  {move : Move AtomicStep}

/-- A thread that has made its write keeps its period. -/
theorem done_stepped (hnext : (race.threads move.side).next = some move.label) {side : Side}
    (hdone : write.Done (race.threads side)) :
    write.Done ((races.step race move).threads side) ∧
      ((races.step race move).threads side).triggerPeriod =
        (race.threads side).triggerPeriod := by
  rcases Side.eq_or_other move.side side with rfl | rfl
  · rw [stepped_self]
    exact write.done_step move.time race.shared hnext hdone
  · rw [stepped_other]
    exact ⟨hdone, rfl⟩

theorem pending_stepped (hnext : (race.threads move.side).next = some move.label)
    (hruns : Runs handlers race) (hother : write.writes move.label = false) {side : Side}
    (hpending : write.Pending (race.threads side)) :
    write.Pending ((races.step race move).threads side) := by
  rcases Side.eq_or_other move.side side with rfl | rfl
  · rw [stepped_self]
    exact write.pending_step move.time race.shared (hruns _) hnext hother hpending
  · rw [stepped_other]
    exact hpending

theorem writtenLast_write (hnext : (race.threads move.side).next = some move.label)
    (hbefore : WrittenLast write handlers past race) (hwrites : write.writes move.label = true) :
    WrittenLast write handlers (past ++ [move]) (races.step race move) := by
  have hlast : lastMover write.writes (past ++ [move]) = some move.side :=
    lastMover_concat_self _ hwrites
  refine ⟨runs_step race move hbefore.runs, fun side _ _ => ?_, fun side hside => ?_⟩
  · rw [hlast]
    exact Option.some_ne_none _
  · rw [hlast] at hside
    obtain rfl := Option.some.inj hside
    obtain ⟨hdone, hwritten⟩ := write.write move.time race.shared hnext hwrites
    rw [stepped_self, stepped_shared]
    exact ⟨write.renews hwrites ((hbefore.runs move.side).next _ hnext), hdone, Or.inr hwritten⟩

theorem writtenLast_other (hnext : (race.threads move.side).next = some move.label)
    (hbefore : WrittenLast write handlers past race) (hother : write.writes move.label = false) :
    WrittenLast write handlers (past ++ [move]) (races.step race move) := by
  have hruns := hbefore.runs
  have hlast : lastMover write.writes (past ++ [move]) = lastMover write.writes past :=
    lastMover_concat_skip _ (by simp [hother])
  refine ⟨runs_step race move hruns, fun side hrenews hdone => ?_, fun side hside => ?_⟩
  · rw [hlast]
    rcases Side.eq_or_other move.side side with rfl | rfl
    · rw [stepped_self] at hdone
      exact hbefore.done _ hrenews
        (write.done_before move.time race.shared (hruns _) hrenews hnext hother hdone)
    · rw [stepped_other] at hdone
      exact hbefore.done _ hrenews hdone
  · rw [hlast] at hside
    obtain ⟨hrenews, hdone, hperiod⟩ := hbefore.last side hside
    obtain ⟨hdone', hsame⟩ := done_stepped hnext hdone
    refine ⟨hrenews, hdone', ?_⟩
    rcases hperiod with ⟨other, hpending⟩ | hperiod
    · exact Or.inl ⟨other, pending_stepped hnext hruns hother hpending⟩
    · rcases write.kept move.time race.shared hnext hother with hpending | hkept
      · exact Or.inl ⟨move.side, by rwa [stepped_self]⟩
      · refine Or.inr ?_
        rw [stepped_shared, hkept, hperiod, hsame]

theorem writtenLast_step (past : List (Move AtomicStep)) (race : Race AuthAccount Thread)
    (move : Move AtomicStep) (henabled : races.enabled race move)
    (hbefore : WrittenLast write handlers past race) :
    WrittenLast write handlers (past ++ [move]) (races.step race move) := by
  cases hwrites : write.writes move.label with
  | true => exact writtenLast_write henabled.2 hbefore hwrites
  | false => exact writtenLast_other henabled.2 hbefore hwrites

theorem writtenLast_start (account : AuthAccount) (handlers : Side → Handler) (clock : Int) :
    WrittenLast write handlers [] (account.race handlers clock) where
  runs side := Thread.start_runs (handlers side)
  done side _ hdone := absurd hdone (write.not_done_start (handlers side))
  last _ hside := by simp at hside

end WrittenLast

/-- The period on record. A thread that reads it may move it on, and records what it
has read. -/
def recordedPeriod : PeriodWrite where
  writes := AtomicStep.records
  written account := some account.info.triggerPeriod
  Done thread := thread.next = none
  Pending thread := ∃ label, thread.next = some label ∧ label.resets = true
  not_done_start handler := by cases handler <;> simp [Thread.start]
  returned thread hreturned := ⟨hreturned, by simp [hreturned]⟩
  renews hrecords := renews_of_comesTo (Or.inr (of_decide_eq_true hrecords))
  write time account hnext hrecords := by
    obtain rfl := of_decide_eq_true hrecords
    rw [Thread.step, hnext]
    exact ⟨rfl, rfl⟩
  done_step time account hnext hdone := by
    rw [hdone] at hnext
    cases hnext
  done_before time account hruns hrenews hnext hother hdone :=
    absurd (Thread.step_returns time hruns hrenews hnext hdone) (of_decide_eq_false hother)
  kept := by
    intro thread label time account hnext hother
    by_cases hread : label = .getStrongAuthTriggerPeriod
    · subst hread
      refine Or.inl ⟨.getTimerId, ?_, rfl⟩
      rw [Thread.step, hnext]
    · refine Or.inr (congrArg (fun info => some (TimerInfo.triggerPeriod info)) ?_)
      apply Thread.step_info <;> rw [hnext]
      · simpa using of_decide_eq_false hother
      · simpa using hread
  pending_step := by
    rintro thread handler label time account hruns hnext hother ⟨_, hlabel, hresets⟩
    obtain rfl := Option.some.inj (hnext.symm.trans hlabel)
    exact Thread.step_resets time hruns hnext hresets (of_decide_eq_false hother)

/-- The period the timer is armed with. It is stopped only to be started again. -/
def armedPeriod : PeriodWrite where
  writes := AtomicStep.starts
  written account := account.armed.map ArmedAt.period
  Done thread := thread.next = some .setCredChangeTriggerPeriod ∨ thread.next = none
  Pending thread := thread.next = some .startTimer
  not_done_start handler := by cases handler <;> simp [Thread.start]
  returned thread hreturned := ⟨Or.inr hreturned, by simp [hreturned]⟩
  renews hstarts := renews_of_comesTo (Or.inl (of_decide_eq_true hstarts))
  write time account hnext hstarts := by
    obtain rfl := of_decide_eq_true hstarts
    rw [Thread.step, hnext]
    exact ⟨Or.inl rfl, rfl⟩
  done_step time account hnext hdone := by
    -- a thread that has started the timer only records and returns
    rcases hdone with hrecords | hreturned
    · rw [Thread.step, hrecords]
      exact ⟨Or.inr rfl, rfl⟩
    · rw [hreturned] at hnext
      cases hnext
  done_before := by
    intro thread handler label time account hruns hrenews hnext hother hdone
    rcases hdone with hrecords | hreturned
    · exact absurd (Thread.step_from_predecessor time hruns hnext hrecords rfl)
        (of_decide_eq_false hother)
    · rw [hnext, Thread.step_returns time hruns hrenews hnext hreturned]
      exact Or.inl rfl
  kept := by
    intro thread label time account hnext hother
    by_cases hstop : label = .stopTimer
    · subst hstop
      refine Or.inl ?_
      rw [Thread.step, hnext]
    · refine Or.inr (congrArg (Option.map ArmedAt.period) ?_)
      apply Thread.step_armed <;> rw [hnext]
      · simpa using hstop
      · simpa using of_decide_eq_false hother
  pending_step := by
    intro thread handler label time account _ hnext hother hpending
    obtain rfl := Option.some.inj (hnext.symm.trans hpending)
    cases hother

section Complete

variable {account : AuthAccount} {clock : Int} {moves : List (Move AtomicStep)}
  (hadmits : races.Admits (account.race handlers clock) moves)
  (hcomplete : (Thread.program sections).Complete (races.run (account.race handlers clock) moves))

include hadmits

theorem runs_run : Runs handlers (races.run (account.race handlers clock) moves) :=
  races.run_invariant (fun race move _ => runs_step race move) hadmits
    (fun side => Thread.start_runs (handlers side))

include hcomplete

/-- After the race what is written is the period of the side that wrote last. -/
theorem written_last (write : PeriodWrite) {side : Side}
    (hrenews : (handlers side).renews = true) :
    ∃ last, lastMover write.writes moves = some last ∧ (handlers last).renews = true ∧
      write.written (races.run (account.race handlers clock) moves).shared =
        some ((races.run (account.race handlers clock) moves).threads last).triggerPeriod := by
  have hwritten := races.run_invariant_past (writtenLast_start account handlers clock)
    (fun past => @writtenLast_step handlers write past _) hadmits
  have hreturned := fun side => write.returned _ (hcomplete side)
  cases hlast : lastMover write.writes moves with
  | none => exact absurd hlast (hwritten.done side hrenews (hreturned side).1)
  | some last =>
      obtain ⟨hrenews', _, ⟨other, hpending⟩ | hperiod⟩ := hwritten.last last hlast
      · exact absurd hpending (hreturned other).2
      · exact ⟨last, rfl, hrenews', hperiod⟩

/-- After the race the recorded period is the one of the side that recorded last. -/
theorem recorded_last {side : Side} (hrenews : (handlers side).renews = true) :
    ∃ last, lastMover AtomicStep.records moves = some last ∧ (handlers last).renews = true ∧
      (races.run (account.race handlers clock) moves).shared.info.triggerPeriod =
        ((races.run (account.race handlers clock) moves).threads last).triggerPeriod := by
  obtain ⟨last, hlast, hrenews', hperiod⟩ :=
    written_last hadmits hcomplete recordedPeriod hrenews
  exact ⟨last, hlast, hrenews', Option.some.inj hperiod⟩

/-- After the race the timer is armed with the period of the side that started it last. -/
theorem armed_last {side : Side} (hrenews : (handlers side).renews = true) :
    ∃ last, lastMover AtomicStep.starts moves = some last ∧ (handlers last).renews = true ∧
      (races.run (account.race handlers clock) moves).shared.armed.map ArmedAt.period =
        some ((races.run (account.race handlers clock) moves).threads last).triggerPeriod :=
  written_last hadmits hcomplete armedPeriod hrenews

end Complete

end AuthAccount

end Screenlock
