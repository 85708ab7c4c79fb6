import Screenlock.StrongAuth.Race
import Screenlock.StrongAuth.Stages

/-! # What a race may leave behind

The outcome of two handlers is the account's flag, the recorded period and the
period its timer is armed with. A race is serializable when one handler after
the other, within the time the race takes, has the same outcome. Whether a race
is harmless can be told from who wrote last and from what a successful
authentication finds when it reads the period.
-/

namespace Screenlock

open Foundation

namespace Sections

variable {σ : Type*} (sections : Sections σ)

/-- The handler of one side, and then the one of the other, on a clock that reads
`bootTimeMs`. -/
def oneAfterTheOther (handlers : Side → Handler) (first : Side) (bootTimeMs : Nat → Int)
    (shared : σ) : σ :=
  sections.handle (fun read => bootTimeMs (3 + read)) (handlers first.other)
    (sections.handle bootTimeMs (handlers first) shared)

theorem handle_congr {bootTimeMs bootTimeMs' : Nat → Int} (handler : Handler) (shared : σ)
    (hsame : ∀ read, read < 3 → bootTimeMs read = bootTimeMs' read) :
    sections.handle bootTimeMs handler shared = sections.handle bootTimeMs' handler shared := by
  cases handler <;>
    simp only [handle, hsame 0 (by decide), hsame 1 (by decide), hsame 2 (by decide)]

end Sections

/-- The steps that put a period on record. -/
def AtomicStep.records (label : AtomicStep) : Bool := label = .setCredChangeTriggerPeriod

def AtomicStep.starts (label : AtomicStep) : Bool := label = .startTimer

def AtomicStep.sets (label : AtomicStep) : Bool := label = .setStrongAuthStat

/-- The steps that read the recorded period. -/
def AtomicStep.reads (label : AtomicStep) : Bool :=
  label = .getStrongAuthTriggerPeriod ∨ label = .getStrongAuthTimeTrigger

/-- A successful authentication has its period. -/
def Thread.HasRead (thread : Thread) : Prop :=
  thread.next ≠ some .setStrongAuthStat ∧ thread.next ≠ some .periodBootTime ∧
    thread.next ≠ some .getStrongAuthTriggerPeriod

/-- The order of steps in which a successful authentication of `side` does no
harm, by the handler it races with. -/
def OrderedFor (side : Side) (moves : List (Move AtomicStep)) : Handler → Prop
  | .authSuccess => lastMover AtomicStep.records moves = lastMover AtomicStep.starts moves
  | .credChange _ =>
      lastMover AtomicStep.records moves = some side.other ∧
        lastMover AtomicStep.starts moves = some side.other
  | .timerFired =>
      lastMover AtomicStep.sets moves = some side ∨
        lastMover AtomicStep.reads moves = some side.other

/-- The period a successful authentication may find whatever the order. -/
def FoundFor (other : Thread) (info : TimerInfo) (currentTime : Int) : Handler → Prop
  | .authSuccess => other.HasRead → ¬ info.Expired currentTime
  | .credChange _ =>
      info.triggerPeriod = credChangeFirstStrongAuthTimeoutMs ∧ ¬ info.Expired currentTime
  | .timerFired =>
      ¬ (info.triggerPeriod = credChangeFourthStrongAuthTimeoutMs ∧ info.Expired currentTime)

/-- The move, where it reads the period, finds one of these. -/
def FindsFor {σ : Type*} (record : σ → Option TimerInfo) (handler : Handler)
    (race : Race σ Thread) (move : Move AtomicStep) : Prop :=
  move.label = .getStrongAuthTriggerPeriod → ∀ info, record race.shared = some info →
    FoundFor (race.threads move.side.other) info (race.threads move.side).currentTime handler

namespace StrongAuthManger

/-- The flag of the account, the period on record, and the period the recorded
timer is armed with. -/
def outcome (userId : UserId) (manager : StrongAuthManger) :
    Option Int × Option Int × Option Int :=
  (manager.strongAuthStateInfo[userId]?,
    (manager.strongAuthTimerInfo[userId]?).map TimerInfo.triggerPeriod,
    ((manager.strongAuthTimerInfo[userId]?).bind
      (fun info => (manager.timers[info.timerId]?).bind AuthTimer.armed)).map ArmedAt.period)

end StrongAuthManger

namespace AuthAccount

def outcome (account : AuthAccount) : Option Int × Option Int × Option Int :=
  (some account.reasonFlag, some account.info.triggerPeriod, account.armed.map ArmedAt.period)

theorem KeptBy.outcome_eq {userId : UserId} {manager : StrongAuthManger} {account : AuthAccount}
    (hkept : account.KeptBy userId manager) : manager.outcome userId = account.outcome := by
  obtain ⟨timer, htimer, harmed⟩ := hkept.timer_exists
  unfold StrongAuthManger.outcome outcome
  rw [hkept.flag, hkept.info, Option.bind_some, htimer, Option.bind_some, harmed]
  rfl

variable (account : AuthAccount) (bootTimeMs : Nat → Int)

theorem reset_eq (currentTime laterTime triggerPeriod : Int) :
    sections.resetStrongAuthTimer currentTime laterTime triggerPeriod account =
      (account.stopTimer.startTimer currentTime triggerPeriod).setCredChangeTriggerPeriod laterTime
        triggerPeriod := by
  unfold Sections.resetStrongAuthTimer
  rw [if_neg (show sections.getTimerId account ≠ 0 from account.known)]
  rfl

/-- A successful authentication clears the flag and renews the timer with the
period it finds. -/
theorem handle_authSuccess :
    sections.handle bootTimeMs .authSuccess account =
      (((((account.setStrongAuthStat StrongAuthReasonFlags.none).advance
        (bootTimeMs 0)).stopTimer).startTimer (bootTimeMs 1)
          (account.info.advance (bootTimeMs 0)).triggerPeriod).setCredChangeTriggerPeriod
            (bootTimeMs 2) (account.info.advance (bootTimeMs 0)).triggerPeriod) :=
  reset_eq _ _ _ _

@[simp] theorem handle_authSuccess_flag :
    (sections.handle bootTimeMs .authSuccess account).reasonFlag = StrongAuthReasonFlags.none := by
  rw [handle_authSuccess]
  exact StrongAuthManger.requested_none _

theorem outcome_authSuccess :
    (sections.handle bootTimeMs .authSuccess account).outcome =
      (some StrongAuthReasonFlags.none,
        some (account.info.advance (bootTimeMs 0)).triggerPeriod,
        some (account.info.advance (bootTimeMs 0)).triggerPeriod) := by
  unfold outcome
  rw [handle_authSuccess_flag, handle_authSuccess]
  rfl

theorem handle_authSuccess_armed :
    (sections.handle bootTimeMs .authSuccess account).armed.map ArmedAt.period =
      some (account.info.advance (bootTimeMs 0)).triggerPeriod := by
  rw [handle_authSuccess]
  rfl

theorem handle_authSuccess_info (currentTime : Int) :
    (sections.handle (fun _ => currentTime) .authSuccess account).info =
      account.info.renewed currentTime := by
  rw [handle_authSuccess]
  rfl

theorem handle_credChange (renewal : PinRenewal) :
    sections.handle bootTimeMs (.credChange renewal) account =
      (account.stopTimer.startTimer (bootTimeMs 0)
        credChangeFirstStrongAuthTimeoutMs).setCredChangeTriggerPeriod (bootTimeMs 1)
          credChangeFirstStrongAuthTimeoutMs :=
  reset_eq _ _ _ _

theorem handle_timerFired :
    sections.handle bootTimeMs .timerFired account =
      account.setStrongAuthStat account.info.timeoutFlag := rfl

theorem outcome_credChange (renewal : PinRenewal) :
    (sections.handle bootTimeMs (.credChange renewal) account).outcome =
      (some account.reasonFlag, some credChangeFirstStrongAuthTimeoutMs,
        some credChangeFirstStrongAuthTimeoutMs) := by
  rw [handle_credChange]
  simp [outcome, setCredChangeTriggerPeriod, startTimer, stopTimer]

theorem outcome_timerFired :
    (sections.handle bootTimeMs .timerFired account).outcome =
      (some (StrongAuthManger.requested (some account.reasonFlag) account.info.timeoutFlag),
        some account.info.triggerPeriod, account.armed.map ArmedAt.period) := rfl

/-- The outcomes of one handler after the other between two moments. -/
def SerialOutcome (handlers : Side → Handler) (account : AuthAccount) (clock after : Int)
    (result : Option Int × Option Int × Option Int) : Prop :=
  ∃ first bootTimeMs, Readings clock after bootTimeMs ∧
    (sections.oneAfterTheOther handlers first bootTimeMs account).outcome = result

/-- Each handler may run within a moment. -/
theorem serialOutcome_of_moments {handlers : Side → Handler} {account : AuthAccount}
    {clock after early late : Int} (first : Side) (hclock : clock ≤ early) (hearly : early ≤ late)
    (hlate : late ≤ after) :
    SerialOutcome handlers account clock after
      (sections.handle (fun _ => late) (handlers first.other)
        (sections.handle (fun _ => early) (handlers first) account)).outcome := by
  refine ⟨first, fun read => if read < 3 then early else late, ?_, ?_⟩
  · exact (Readings.const hclock (Int.le_refl _)).append 3 (Readings.const hearly hlate)
  · have hfirst : sections.handle (fun read => if read < 3 then early else late) (handlers first)
        account = sections.handle (fun _ => early) (handlers first) account :=
      sections.handle_congr _ _ (fun read hread => if_pos hread)
    unfold Sections.oneAfterTheOther
    rw [hfirst]
    exact congrArg outcome (sections.handle_congr _ _ (fun read _ => if_neg (by omega)))

end AuthAccount

end Screenlock
