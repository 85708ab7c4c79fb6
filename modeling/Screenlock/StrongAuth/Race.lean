import Screenlock.StrongAuth.Threads

/-! # Two handlers of one account at the same time

Two handlers run for an account that has a record and a timer. The race over
the manager and the race over the account alone go in lockstep, so what follows
is proved of the account: which handler wrote the timer record and the timer
last, and what the other one read in between.
-/

namespace Screenlock

open Foundation

namespace Thread

/-- The timer id a renewing thread has looked up is the recorded one. -/
def Knows (account : AuthAccount) (thread : Thread) : Prop :=
  thread.next = some .resetBootTime ∨ thread.next = some .stopTimer ∨
    thread.next = some .startTimer → thread.timerId = account.info.timerId

section Account

variable {account : AuthAccount} {thread : Thread} (time : Int)

@[simp] theorem step_timerId (account : AuthAccount) (thread : Thread) :
    (step AuthAccount.sections time thread account).2.info.timerId = account.info.timerId := by
  unfold step
  cases thread.next with
  | none => rfl
  | some label => cases label <;> first | rfl | exact TimerInfo.advance_timerId ..

theorem step_knows (hknows : thread.Knows account) :
    (step AuthAccount.sections time thread account).1.Knows
      (step AuthAccount.sections time thread account).2 := by
  unfold Knows
  rw [step_timerId]
  unfold step
  cases hnext : thread.next with
  | none => intro h; simp [hnext] at h
  | some label =>
      cases label with
      | resetBootTime => exact fun _ => hknows (Or.inl hnext)
      | stopTimer => exact fun _ => hknows (Or.inr (Or.inl hnext))
      | getTimerId => exact fun _ => rfl
      | setStrongAuthStat => intro h; revert h; dsimp only; split <;> simp
      | isUserExitInStrongAuthInfo => intro h; revert h; dsimp only; split <;> simp
      | _ => intro h; simp at h

theorem step_kept (env : Environment) {userId : UserId} {manager : StrongAuthManger}
    (hkept : account.KeptBy userId manager) (hknows : thread.Knows account) :
    (step (StrongAuthManger.sections env userId) time thread manager).1 =
        (step AuthAccount.sections time thread account).1 ∧
      AuthAccount.KeptBy userId (step (StrongAuthManger.sections env userId) time thread manager).2
        (step AuthAccount.sections time thread account).2 := by
  unfold step
  cases hnext : thread.next with
  | none => exact ⟨rfl, hkept⟩
  | some label =>
      cases label with
      | setStrongAuthStat => exact ⟨rfl, hkept.setStrongAuthStat env _⟩
      | periodBootTime => exact ⟨rfl, hkept⟩
      | getStrongAuthTriggerPeriod =>
          obtain ⟨hperiod, hadvanced⟩ := hkept.getStrongAuthTriggerPeriod thread.currentTime
          refine ⟨?_, hadvanced⟩
          change { thread with
            next := some .getTimerId
            triggerPeriod := (StrongAuthManger.getStrongAuthTriggerPeriod _ userId manager).1 } = _
          rw [hperiod]
          rfl
      | isUserExitInStrongAuthInfo =>
          -- the account is known throughout, so the question has one answer
          have hexists : (StrongAuthManger.sections env userId).isUserExitInStrongAuthInfo manager =
            true := hkept.isUserExitInStrongAuthInfo
          simp only [hexists]
          exact ⟨rfl, hkept⟩
      | getTimerId =>
          have htimerId : (StrongAuthManger.sections env userId).getTimerId manager =
            AuthAccount.sections.getTimerId account := hkept.getTimerId
          simp only [htimerId]
          exact ⟨trivial, hkept⟩
      | startStrongAuthTimer =>
          refine ⟨rfl, ?_⟩
          change AuthAccount.KeptBy userId (manager.startStrongAuthTimer _ _ userId _) account
          rw [hkept.startStrongAuthTimer]
          exact hkept
      | resetBootTime => exact ⟨rfl, hkept⟩
      | stopTimer =>
          dsimp only
          rw [hknows (Or.inr (Or.inl hnext))]
          exact ⟨rfl, hkept.stopTimer⟩
      | startTimer =>
          dsimp only
          rw [hknows (Or.inr (Or.inr hnext))]
          exact ⟨rfl, hkept.startTimer _ _⟩
      | setCredChangeTriggerPeriod => exact ⟨rfl, hkept.setCredChangeTriggerPeriod _ _⟩
      | getStrongAuthTimeTrigger =>
          have htrigger : (StrongAuthManger.sections env userId).getStrongAuthTimeTrigger manager =
            AuthAccount.sections.getStrongAuthTimeTrigger account := hkept.getStrongAuthTimeTrigger
          simp only [htrigger]
          exact ⟨trivial, hkept⟩

end Account

end Thread

/-- A race over the manager and the race over the account it keeps. -/
structure AuthAccount.RaceKeptBy (userId : UserId) (race : Race StrongAuthManger Thread)
    (inner : Race AuthAccount Thread) : Prop where
  shared : inner.shared.KeptBy userId race.shared
  threads : race.threads = inner.threads
  clock : race.clock = inner.clock
  knows : ∀ side, (inner.threads side).Knows inner.shared

theorem AuthAccount.lockstep (env : Environment) (userId : UserId) :
    Lockstep (Thread.program (StrongAuthManger.sections env userId)).machine
      (Thread.program AuthAccount.sections).machine (AuthAccount.RaceKeptBy userId) where
  enabled race inner move hkept := by
    change race.clock ≤ _ ∧ (race.threads move.side).next = _ ↔
      inner.clock ≤ _ ∧ (inner.threads move.side).next = _
    rw [hkept.threads, hkept.clock]
  step race inner move hkept _ := by
    have hstep := Thread.step_kept move.time env hkept.shared (hkept.knows move.side)
    rw [← hkept.threads] at hstep
    refine ⟨?_, ?_, rfl, fun side => ?_⟩
    · rw [Program.machine_step_shared, Program.machine_step_shared, ← hkept.threads]
      exact hstep.2
    · change Function.update race.threads move.side (Thread.step _ _ _ _).1 =
        Function.update inner.threads move.side (Thread.step _ _ _ _).1
      rw [hstep.1, hkept.threads]
    · rcases Side.eq_or_other move.side side with rfl | rfl
      · rw [Program.machine_step_self]
        exact Thread.step_knows move.time (hkept.knows move.side)
      · rw [Program.machine_step_ne _ _ _ (Side.other_ne _)]
        intro hnext
        rw [hkept.knows _ hnext]
        exact (Thread.step_timerId ..).symm

end Screenlock
