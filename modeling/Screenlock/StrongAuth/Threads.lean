import Screenlock.Foundation.Interleaving
import Screenlock.StrongAuth.Account

/-! # Handlers on threads of their own

The platform calls the handlers from different threads. A thread carries the
local variables of its handler and the section it enters next; the reads of the
boot time are steps of their own, because most are made outside the mutex. A
thread that nobody interrupts does what its handler does.
-/

namespace Screenlock

open Foundation

/-- The atomic steps of the handlers, under the names of the functions whose
sections they are. -/
inductive AtomicStep where
  | setStrongAuthStat
  /-- `GetBootTimeMs` in `GetStrongAuthTriggerPeriod`. -/
  | periodBootTime
  | getStrongAuthTriggerPeriod
  | isUserExitInStrongAuthInfo
  | getTimerId
  | startStrongAuthTimer
  /-- `GetBootTimeMs` in `ResetStrongAuthTimer`. -/
  | resetBootTime
  | stopTimer
  | startTimer
  | setCredChangeTriggerPeriod
  | getStrongAuthTimeTrigger
  deriving DecidableEq, Repr

/-- A handler under way: the next step, none once it has returned, and the
local variables. -/
structure Thread where
  handler : Handler
  next : Option AtomicStep
  reasonFlag : Int := StrongAuthReasonFlags.none
  timerId : TimerId := 0
  currentTime : Int := 0
  triggerPeriod : Int := 0
  deriving DecidableEq, Repr

namespace Thread

/-- A thread that is about to run the handler. -/
def start : Handler → Thread
  | .authSuccess => { handler := .authSuccess, next := some .setStrongAuthStat }
  | .credChange renewal =>
      { handler := .credChange renewal
        next := some .isUserExitInStrongAuthInfo
        triggerPeriod := credChangeFirstStrongAuthTimeoutMs }
  | .timerFired => { handler := .timerFired, next := some .getStrongAuthTimeTrigger }

variable {σ : Type*} (sections : Sections σ)

/-- One atomic step at time `time`. -/
def step (time : Int) (thread : Thread) (shared : σ) : Thread × σ :=
  match thread.next with
  | none => (thread, shared)
  | some .setStrongAuthStat =>
      -- the timer callback ends here, a successful authentication goes on to its timer
      ({ thread with
          next := if thread.handler = .authSuccess then some .periodBootTime else none },
        sections.setStrongAuthStat thread.reasonFlag shared)
  | some .periodBootTime =>
      ({ thread with next := some .getStrongAuthTriggerPeriod, currentTime := time }, shared)
  | some .getStrongAuthTriggerPeriod =>
      let (triggerPeriod, advanced) :=
        sections.getStrongAuthTriggerPeriod thread.currentTime shared
      ({ thread with next := some .getTimerId, triggerPeriod := triggerPeriod }, advanced)
  | some .isUserExitInStrongAuthInfo =>
      ({ thread with
          next := if sections.isUserExitInStrongAuthInfo shared then some .getTimerId else none },
        shared)
  | some .getTimerId =>
      let timerId := sections.getTimerId shared
      ({ thread with
          next := if timerId = 0 then some .startStrongAuthTimer else some .resetBootTime
          timerId := timerId },
        shared)
  | some .startStrongAuthTimer =>
      ({ thread with next := none },
        sections.startStrongAuthTimer time thread.triggerPeriod shared)
  | some .resetBootTime =>
      ({ thread with next := some .stopTimer, currentTime := time }, shared)
  | some .stopTimer =>
      ({ thread with next := some .startTimer }, sections.stopTimer thread.timerId shared)
  | some .startTimer =>
      ({ thread with next := some .setCredChangeTriggerPeriod },
        sections.startTimer thread.timerId thread.currentTime thread.triggerPeriod shared)
  | some .setCredChangeTriggerPeriod =>
      ({ thread with next := none },
        sections.setCredChangeTriggerPeriod time thread.triggerPeriod shared)
  | some .getStrongAuthTimeTrigger =>
      ({ thread with
          next := some .setStrongAuthStat
          reasonFlag :=
            StrongAuthManger.timeoutReason (sections.getStrongAuthTimeTrigger shared) },
        shared)

def program : Program σ Thread AtomicStep where
  label := Thread.next
  step := step sections

@[simp] theorem program_label (thread : Thread) :
    (program sections).label thread = thread.next := rfl

@[simp] theorem program_step (time : Int) (thread : Thread) (shared : σ) :
    (program sections).step time thread shared = step sections time thread shared := rfl

section Alone

variable {sections} {clock after : Int} {thread : Thread} {shared final : σ}

theorem reset_alone (halone : (program sections).Alone clock thread shared after final)
    (hnext : thread.next = some .getTimerId) :
    ∃ currentTime laterTime, clock ≤ currentTime ∧ currentTime ≤ laterTime ∧ laterTime ≤ after ∧
      final = sections.resetStrongAuthTimer currentTime laterTime thread.triggerPeriod shared := by
  obtain ⟨lookedUp, hlookedUp, halone⟩ := halone.next hnext
  simp only [program_step, step, hnext] at halone
  by_cases hnone : sections.getTimerId shared = 0
  · rw [if_pos hnone] at halone
    obtain ⟨created, hcreated, halone⟩ := halone.next rfl
    obtain ⟨rfl, hfinal⟩ := halone.done rfl
    refine ⟨after, after, Int.le_trans hlookedUp hcreated, Int.le_refl _, Int.le_refl _, ?_⟩
    rw [hfinal, Sections.resetStrongAuthTimer, if_pos hnone]
    rfl
  · rw [if_neg hnone] at halone
    obtain ⟨currentTime, hcurrent, halone⟩ := halone.next rfl
    obtain ⟨stopped, hstopped, halone⟩ := halone.next rfl
    obtain ⟨started, hstarted, halone⟩ := halone.next rfl
    obtain ⟨laterTime, hlater, halone⟩ := halone.next rfl
    obtain ⟨rfl, hfinal⟩ := halone.done rfl
    refine ⟨currentTime, after, by omega, by omega, Int.le_refl _, ?_⟩
    rw [hfinal, Sections.resetStrongAuthTimer, if_neg hnone]
    rfl

/-- The successive reads of one handler. -/
def readings (first second third : Int) : Nat → Int
  | 0 => first
  | 1 => second
  | _ => third

theorem readings_of_le {first second third : Int} (hclock : clock ≤ first)
    (hfirst : first ≤ second) (hsecond : second ≤ third) (hthird : third ≤ after) :
    Readings clock after (readings first second third) := by
  refine ⟨fun read => ?_, fun read => ?_, fun read => ?_⟩
  · match read with
    | 0 => exact hfirst
    | 1 => exact hsecond
    | _ + 2 => exact Int.le_refl _
  · match read with
    | 0 => exact hclock
    | 1 => exact Int.le_trans hclock hfirst
    | _ + 2 => exact Int.le_trans (Int.le_trans hclock hfirst) hsecond
  · match read with
    | 0 => exact Int.le_trans (Int.le_trans hfirst hsecond) hthird
    | 1 => exact Int.le_trans hsecond hthird
    | _ + 2 => exact hthird

/-- A thread that nobody interrupts does what its handler does, with the boot
time read on its way. -/
theorem handle_alone {handler : Handler}
    (halone : (program sections).Alone clock (start handler) shared after final) :
    ∃ bootTimeMs, Readings clock after bootTimeMs ∧
      final = sections.handle bootTimeMs handler shared := by
  cases handler with
  | authSuccess =>
      obtain ⟨cleared, hcleared, halone⟩ := halone.next rfl
      obtain ⟨read, hread, halone⟩ := halone.next rfl
      obtain ⟨advanced, hadvanced, halone⟩ := halone.next rfl
      obtain ⟨currentTime, laterTime, hcurrent, hlater, hafter, hfinal⟩ :=
        reset_alone halone rfl
      exact ⟨readings read currentTime laterTime,
        readings_of_le (by omega) (by omega) hlater hafter, hfinal⟩
  | credChange renewal =>
      obtain ⟨checked, hchecked, halone⟩ := halone.next rfl
      change (program sections).Alone checked
        { start (.credChange renewal) with
          next := if sections.isUserExitInStrongAuthInfo shared then some .getTimerId else none }
        shared after final at halone
      by_cases hexists : sections.isUserExitInStrongAuthInfo shared = true
      · rw [if_pos hexists] at halone
        obtain ⟨currentTime, laterTime, hcurrent, hlater, hafter, hfinal⟩ :=
          reset_alone halone rfl
        refine ⟨readings currentTime laterTime laterTime,
          readings_of_le (by omega) hlater (Int.le_refl _) hafter, ?_⟩
        rw [hfinal, Sections.handle, if_pos hexists]
        rfl
      · rw [if_neg hexists] at halone
        obtain ⟨rfl, hfinal⟩ := halone.done rfl
        refine ⟨fun _ => after, .const hchecked (Int.le_refl _), ?_⟩
        rw [hfinal, Sections.handle, if_neg hexists]
  | timerFired =>
      obtain ⟨read, hread, halone⟩ := halone.next rfl
      obtain ⟨set, hset, halone⟩ := halone.next rfl
      obtain ⟨rfl, hfinal⟩ := halone.done rfl
      exact ⟨fun _ => after, .const (by omega) (Int.le_refl _), hfinal⟩

end Alone

end Thread

end Screenlock
