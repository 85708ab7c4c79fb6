import Screenlock.Service.Schedule

/-! # How lock and unlock requests are completed

Every accepted request is called back once, whatever the order in which tasks
run. Which result it is called back with depends on that order: a task sweeps
up all that waits when it runs, so its result may be older than a request,
come from another account, or disagree with the recorded lock state.
-/

namespace Screenlock.ScreenLockSystemAbility

open Foundation

variable {events : List ServiceEvent} {disk : Std.TreeMap String PreferencesValue}

section Once

/-- The unlock vectors are equally long, and each listener stands beside the
account that asked. -/
def OwnersCorrespond (events : List ServiceEvent) (waiting : WaitingListeners) : Prop :=
  waiting.unlockVecListeners.length = waiting.unlockVecUserIds.length ∧
    ∀ (i : Nat) entry, waiting.unlockVecListeners[i]? = some entry →
      ∃ owner, waiting.unlockVecUserIds[i]? = some owner ∧
        UnlockRequested events entry.1 entry.2 owner

theorem ownersCorrespond_run (hadmits : machine.Admits (started disk) events) :
    OwnersCorrespond events (machine.run (started disk) events).waiting := by
  have haligned : (machine.run (started disk) events).waiting.Aligned :=
    unlockRefinement.invariant_run hadmits rfl
  refine ⟨haligned, fun i entry hentry => ?_⟩
  have hlt := (List.getElem?_eq_some_iff.mp hentry).1
  have howner := List.getElem?_eq_getElem (Nat.lt_of_lt_of_eq hlt haligned)
  refine ⟨_, howner, ?_⟩
  rw [← unlockEvent_push_iff]
  refine ((BatchQueue.explains_run (unlock_admits hadmits)).pending _ _ |>.mp ?_).1
  rw [← unlockQueue_run_started hadmits]
  refine List.mem_of_getElem? (i := i) ?_
  change (List.zipWith _ _ _)[i]? = _
  rw [List.getElem?_zipWith, hentry, howner]

theorem lock_completed_once (hadmits : machine.Admits (started disk) events)
    (hidle : (machine.run (started disk) events).waiting.lockTasks = [])
    {time reportedAt : Nat} {listener : ScreenLockCallback} {owner reporter : UserId} {param : Int}
    (hrequest : LockRequested events time listener owner) (hlt : time < reportedAt)
    (hreport : Reported events reportedAt lockScreenResult param reporter) :
    ∃! done, done ∈ (machine.run (started disk) events).waiting.lockCalled ∧
      done.pushedAt = time ∧ done.entry = listener := by
  have hpush := (lockEvent_push_iff time listener).mpr ⟨owner, hrequest⟩
  have hrun := lockQueue_run_started hadmits
  have htasks : (BatchQueue.machine.run BatchQueue.empty (events.map lockEvent)).tasks = [] := by
    rw [← hrun]
    exact hidle
  obtain ⟨done, hdone, hpushed⟩ := BatchQueue.completed_of_tasks_nil (lock_admits hadmits) htasks
    hpush ((lockEvent_report_iff reportedAt param).mpr ⟨reporter, hreport⟩) hlt
  have hnodup := BatchQueue.completed_nodup (lock_admits hadmits)
  have hentry : done.entry = listener := by
    have hsame := ((BatchQueue.mem_completed_iff (lock_admits hadmits) done).mp hdone).1
    rw [hpushed, hpush] at hsame
    exact (QueueEvent.push.inj (Option.some.inj hsame)).symm
  rw [← hrun] at hdone hnodup
  refine ⟨done, ⟨hdone, hpushed, hentry⟩, fun other hother => ?_⟩
  exact List.inj_on_of_nodup_map hnodup hother.1 hdone (hother.2.1.trans hpushed.symm)

theorem unlock_completed_once (hadmits : machine.Admits (started disk) events)
    (hidle : (machine.run (started disk) events).waiting.unlockTasks = [])
    {time reportedAt : Nat} {listener : ScreenLockCallback} {owner reporter : UserId} {param : Int}
    (hrequest : UnlockRequested events time listener owner) (hlt : time < reportedAt)
    (hreport : Reported events reportedAt unlockScreenResult param reporter)
    (hfail : param ≠ ScreenChange.screenFail) (hearly : param ≠ ScreenChange.earlySuccess) :
    ∃! called, called ∈ (machine.run (started disk) events).waiting.unlockCalled ∧
      called.completion.pushedAt = time ∧ called.completion.entry = (listener, owner) := by
  have hpush := (unlockEvent_push_iff time listener owner).mpr hrequest
  have hrun := unlockQueue_run_started hadmits
  obtain ⟨result, hresult⟩ : ∃ result, unlockResult param = some result := by
    unfold unlockResult
    split
    · exact ⟨_, rfl⟩
    · rw [if_neg fun hnone => hnone.elim hearly hfail]
      exact ⟨_, rfl⟩
  have htasks : (BatchQueue.machine.run BatchQueue.empty (events.map unlockEvent)).tasks = [] := by
    rw [← hrun]
    exact hidle
  obtain ⟨done, hdone, hpushed⟩ := BatchQueue.completed_of_tasks_nil (unlock_admits hadmits) htasks
    hpush ((unlockEvent_report_iff reportedAt result reporter).mpr ⟨param, hresult, hreport⟩) hlt
  have hnodup := BatchQueue.completed_nodup (unlock_admits hadmits)
  have hentry : done.entry = (listener, owner) := by
    have hsame := ((BatchQueue.mem_completed_iff (unlock_admits hadmits) done).mp hdone).1
    rw [hpushed, hpush] at hsame
    exact (QueueEvent.push.inj (Option.some.inj hsame)).symm
  rw [← hrun] at hdone hnodup
  obtain ⟨called, hcalled, rfl⟩ := List.mem_map.mp hdone
  refine ⟨called, ⟨hcalled, hpushed, hentry⟩, fun other hother => ?_⟩
  have hcalls : ((machine.run (started disk) events).waiting.unlockCalled.map
      fun called => called.completion.pushedAt).Nodup := by
    simpa [unlockQueue, WaitingListeners.unlockQueue, Function.comp_def] using hnodup
  exact List.inj_on_of_nodup_map hcalls hother.1 hcalled (hother.2.1.trans hpushed.symm)

/-- No accepted request is called back twice. Once no task is outstanding, a
request that a completing result followed has been called back. The unlock
vectors correspond throughout. -/
theorem requests_completed_once (hadmits : machine.Admits (started disk) events) :
    let waiting := (machine.run (started disk) events).waiting
    (waiting.lockCalled.map Completion.pushedAt).Nodup ∧
    (waiting.unlockCalled.map fun called => called.completion.pushedAt).Nodup ∧
    (waiting.lockTasks = [] → ∀ time reportedAt listener owner reporter param,
      LockRequested events time listener owner → time < reportedAt →
      Reported events reportedAt lockScreenResult param reporter →
      ∃! done, done ∈ waiting.lockCalled ∧ done.pushedAt = time ∧ done.entry = listener) ∧
    (waiting.unlockTasks = [] → ∀ time reportedAt listener owner reporter param,
      UnlockRequested events time listener owner → time < reportedAt →
      Reported events reportedAt unlockScreenResult param reporter →
      param ≠ ScreenChange.screenFail → param ≠ ScreenChange.earlySuccess →
      ∃! called, called ∈ waiting.unlockCalled ∧ called.completion.pushedAt = time ∧
        called.completion.entry = (listener, owner)) ∧
    OwnersCorrespond events waiting := by
  have hlock := BatchQueue.completed_nodup (lock_admits hadmits)
  have hunlock := BatchQueue.completed_nodup (unlock_admits hadmits)
  rw [← lockQueue_run_started hadmits] at hlock
  rw [← unlockQueue_run_started hadmits] at hunlock
  refine ⟨hlock, ?_, ?_, ?_, ownersCorrespond_run hadmits⟩
  · simpa [unlockQueue, WaitingListeners.unlockQueue, Function.comp_def] using hunlock
  · intro hidle time reportedAt listener owner reporter param hrequest hlt hreport
    exact lock_completed_once hadmits hidle hrequest hlt hreport
  · intro hidle time reportedAt listener owner reporter param hrequest hlt hreport hfail hearly
    exact unlock_completed_once hadmits hidle hrequest hlt hreport hfail hearly

/-- Account 100 asks for a lock, its application reports success, and the task runs. -/
def lockedOnce : List ServiceEvent :=
  [.call (.single 100) (.privileged 100) (.lock 5),
    .call (.single 100) (.privileged 100)
      (.sendScreenLockEvent lockScreenResult ScreenChange.screenSucc),
    .runLockTask 1]

theorem lockedOnce_admits : machine.Admits (started ∅) lockedOnce :=
  ⟨trivial, trivial, ⟨ScreenChange.screenSucc, by decide⟩, trivial⟩

theorem lockedOnce_completed_once :
    ∃! done, done ∈ (machine.run (started ∅) lockedOnce).waiting.lockCalled ∧
      done.pushedAt = 0 ∧ done.entry = 5 :=
  (requests_completed_once lockedOnce_admits).2.2.1 (by decide) 0 1 5 100 100
    ScreenChange.screenSucc ⟨_, _, rfl, by decide, by decide⟩ (by decide)
    ⟨_, _, rfl, by decide, by decide⟩

end Once

section Later

/-- The report at `time` is where the value of an unlock listener comes from: the
result passed on to a listener of the reporting account, and for any other
listener what its own account had told of its lock state when the task ran. -/
def ValueFrom (events : List ServiceEvent) (called : UnlockCalled) (time : Nat) : Prop :=
  if called.completion.entry.2 = called.completion.result.2 then
    time = called.completion.reportedAt ∧ ∃ param, unlockResult param = some called.value ∧
      Reported events time unlockScreenResult param called.completion.entry.2
  else
    ∃ isLocked, LastTold events called.completion.entry.2 time called.completion.ranAt isLocked ∧
      called.value = if isLocked then ScreenChange.screenFail else ScreenChange.screenSucc

/-- Every listener has been called back by a task that was submitted after its
request, with a value that comes from a result reported after the request. -/
def AnsweredLater (events : List ServiceEvent) (waiting : WaitingListeners) : Prop :=
  (∀ done ∈ waiting.lockCalled, done.pushedAt < done.reportedAt ∧
    ∃ reporter, Reported events done.reportedAt lockScreenResult done.result reporter) ∧
  ∀ called ∈ waiting.unlockCalled,
    called.completion.pushedAt < called.completion.reportedAt ∧
      ∃ time, called.completion.pushedAt < time ∧ ValueFrom events called time

/-- The first task of its kind to run after a request was submitted after it, and
where another account submitted the task of an unlock, the account that asked
has told its lock state since. -/
def RunsInTurn (events : List ServiceEvent) : Prop :=
  (∀ time listener owner reportedAt ranAt, LockRequested events time listener owner →
    FirstLockRun events time reportedAt ranAt → time < reportedAt) ∧
  ∀ time listener owner reportedAt ranAt, UnlockRequested events time listener owner →
    FirstUnlockRun events time reportedAt ranAt →
      time < reportedAt ∧ ∀ param reporter,
        Reported events reportedAt unlockScreenResult param reporter → reporter ≠ owner →
          ToldBetween events owner time ranAt

/-- The first task to run after a lock request answers it. -/
theorem lock_answered (hadmits : machine.Admits (started disk) events)
    {listener : ScreenLockCallback} {owner : UserId} {time reportedAt ranAt : Nat}
    (hrequest : LockRequested events time listener owner)
    (hfirst : FirstLockRun events time reportedAt ranAt) :
    ∃ result, ⟨listener, time, result, reportedAt, ranAt⟩ ∈
      (machine.run (started disk) events).waiting.lockCalled := by
  -- a task that runs belongs to a report
  have hdrain := (lockEvent_drain_iff ranAt reportedAt).mpr hfirst.2.1
  obtain ⟨_, result, hreport⟩ := BatchQueue.reported_of_drain (lock_admits hadmits) hdrain
  exact ⟨result, (mem_lockCalled_iff hadmits _).mpr
    ⟨⟨owner, hrequest⟩, (lockEvent_report_iff _ _).mp hreport, hfirst⟩⟩

theorem unlock_answered (hadmits : machine.Admits (started disk) events)
    {listener : ScreenLockCallback} {owner : UserId} {time reportedAt ranAt : Nat}
    (hrequest : UnlockRequested events time listener owner)
    (hfirst : FirstUnlockRun events time reportedAt ranAt) :
    ∃ called ∈ (machine.run (started disk) events).waiting.unlockCalled,
      ∃ result param reporter,
        called.completion = ⟨(listener, owner), time, (result, reporter), reportedAt, ranAt⟩ ∧
          Reported events reportedAt unlockScreenResult param reporter := by
  have hdrain := (unlockEvent_drain_iff ranAt reportedAt).mpr hfirst.2.1
  obtain ⟨_, ⟨result, reporter⟩, hreport⟩ :=
    BatchQueue.reported_of_drain (unlock_admits hadmits) hdrain
  obtain ⟨param, hresult, hreported⟩ := (unlockEvent_report_iff _ _ _).mp hreport
  obtain ⟨called, hcalled, hdone⟩ := (mem_unlockCompleted_iff hadmits
    ⟨(listener, owner), time, (result, reporter), reportedAt, ranAt⟩).mpr
      ⟨hrequest, ⟨param, hresult, hreported⟩, hfirst⟩
  exact ⟨called, hcalled, result, param, reporter, hdone, hreported⟩

/-- A listener of the reporting account gets what is reported. -/
theorem valueFrom_of_own (hadmits : machine.Admits (started disk) events) {called : UnlockCalled}
    (hcalled : called ∈ (machine.run (started disk) events).waiting.unlockCalled)
    (hown : called.completion.entry.2 = called.completion.result.2) :
    ValueFrom events called called.completion.reportedAt := by
  obtain ⟨_, ⟨param, hresult, hreport⟩, _⟩ :=
    (mem_unlockCompleted_iff hadmits called.completion).mp ⟨called, hcalled, rfl⟩
  have hvalue := ((started disk).unlockCalled_value events rfl rfl called hcalled).2
  rw [WaitingListeners.unlockValue, if_pos hown] at hvalue
  rw [ValueFrom, if_pos hown]
  exact ⟨rfl, param, hvalue ▸ hresult, hown ▸ hreport⟩

/-- A listener of another account than the reporting one gets the lock state that
its own account has told last, if it has told any. -/
theorem exists_valueFrom_iff_of_other {called : UnlockCalled}
    (hcalled : called ∈ (machine.run (started disk) events).waiting.unlockCalled)
    (hother : called.completion.entry.2 ≠ called.completion.result.2) :
    (∃ time, called.completion.pushedAt < time ∧ ValueFrom events called time) ↔
      ToldBetween events called.completion.entry.2 called.completion.pushedAt
        called.completion.ranAt := by
  have hvalue := ((started disk).unlockCalled_value events rfl rfl called hcalled).2
  rw [WaitingListeners.unlockValue, if_neg hother] at hvalue
  simp only [ValueFrom, if_neg hother]
  rw [← exists_lastTold_iff]
  constructor
  · rintro ⟨time, hafter, isLocked, hlast, _⟩
    exact ⟨time, isLocked, hafter, hlast⟩
  · rintro ⟨time, isLocked, hafter, hlast⟩
    rw [recorded_of_lastTold _ hlast] at hvalue
    exact ⟨time, hafter, isLocked, hlast, hvalue⟩

theorem lockAnsweredLater_iff (hadmits : machine.Admits (started disk) events) :
    (∀ done ∈ (machine.run (started disk) events).waiting.lockCalled,
        done.pushedAt < done.reportedAt ∧
          ∃ reporter, Reported events done.reportedAt lockScreenResult done.result reporter) ↔
      ∀ time listener owner reportedAt ranAt, LockRequested events time listener owner →
        FirstLockRun events time reportedAt ranAt → time < reportedAt := by
  constructor
  · intro hlock time listener owner reportedAt ranAt hrequest hfirst
    obtain ⟨result, hdone⟩ := lock_answered hadmits hrequest hfirst
    exact (hlock _ hdone).1
  · intro hlock done hdone
    obtain ⟨⟨owner, hrequest⟩, hreport, hfirst⟩ := (mem_lockCalled_iff hadmits done).mp hdone
    exact ⟨hlock _ _ _ _ _ hrequest hfirst, hreport⟩

theorem unlockAnsweredLater_iff (hadmits : machine.Admits (started disk) events) :
    (∀ called ∈ (machine.run (started disk) events).waiting.unlockCalled,
        called.completion.pushedAt < called.completion.reportedAt ∧
          ∃ time, called.completion.pushedAt < time ∧ ValueFrom events called time) ↔
      ∀ time listener owner reportedAt ranAt, UnlockRequested events time listener owner →
        FirstUnlockRun events time reportedAt ranAt →
          time < reportedAt ∧ ∀ param reporter,
            Reported events reportedAt unlockScreenResult param reporter → reporter ≠ owner →
              ToldBetween events owner time ranAt := by
  constructor
  · intro hunlock time listener owner reportedAt ranAt hrequest hfirst
    obtain ⟨called, hcalled, result, param, reporter, hdone, hreport⟩ :=
      unlock_answered hadmits hrequest hfirst
    obtain ⟨hlater, hfrom⟩ := hunlock called hcalled
    have htold := exists_valueFrom_iff_of_other hcalled
    rw [hdone] at hlater hfrom htold
    refine ⟨hlater, fun other second hsecond hother => ?_⟩
    -- one event has one reporter
    obtain rfl := hsecond.reporter_eq hreport
    exact (htold (Ne.symm hother)).mp hfrom
  · intro hunlock called hcalled
    obtain ⟨hrequest, ⟨param, _, hreport⟩, hfirst⟩ :=
      (mem_unlockCompleted_iff hadmits called.completion).mp ⟨called, hcalled, rfl⟩
    obtain ⟨hlater, htold⟩ := hunlock _ _ _ _ _ hrequest hfirst
    refine ⟨hlater, ?_⟩
    by_cases hown : called.completion.entry.2 = called.completion.result.2
    · exact ⟨_, hlater, valueFrom_of_own hadmits hcalled hown⟩
    · exact (exists_valueFrom_iff_of_other hcalled hown).mpr
        (htold param _ hreport (Ne.symm hown))

/-- Every listener is answered with what was reported after its request exactly if
the tasks run in turn. -/
theorem answeredLater_iff (hadmits : machine.Admits (started disk) events) :
    AnsweredLater events (machine.run (started disk) events).waiting ↔ RunsInTurn events :=
  and_congr (lockAnsweredLater_iff hadmits) (unlockAnsweredLater_iff hadmits)

theorem lockedOnce_answeredLater :
    AnsweredLater lockedOnce (machine.run (started ∅) lockedOnce).waiting ↔
      RunsInTurn lockedOnce :=
  answeredLater_iff lockedOnce_admits

/-- A second request comes in between a report and its task. -/
def lockedTwice : List ServiceEvent :=
  [.call (.single 100) (.privileged 100) (.lock 5),
    .call (.single 100) (.privileged 100)
      (.sendScreenLockEvent lockScreenResult ScreenChange.screenFail),
    .call (.single 100) (.privileged 100) (.lock 6),
    .runLockTask 1]

/-- The second request is answered by the report that precedes it. -/
theorem second_request_answered_earlier :
    machine.Admits (started ∅) lockedTwice ∧
      ¬ AnsweredLater lockedTwice (machine.run (started ∅) lockedTwice).waiting := by
  refine ⟨⟨trivial, trivial, trivial, ⟨ScreenChange.screenFail, by decide⟩, trivial⟩, ?_⟩
  intro hlater
  exact absurd (hlater.1 ⟨6, 2, ScreenChange.screenFail, 1, 3⟩ (by decide)).1 (by decide)

end Later

section OwnAccount

/-- Where a lock listener has been told of a success, the result comes from a caller
of the account that asked, and a caller of that account reported a success
after the request. -/
def LockedForOwner (events : List ServiceEvent) (waiting : WaitingListeners) : Prop :=
  ∀ done ∈ waiting.lockCalled, done.result = ScreenChange.screenSucc →
    ∀ owner, LockRequested events done.pushedAt done.entry owner →
      Reported events done.reportedAt lockScreenResult ScreenChange.screenSucc owner ∧
      ∃ time, done.pushedAt < time ∧ time < done.ranAt ∧
        Reported events time lockScreenResult ScreenChange.screenSucc owner

/-- Where the first task to run after a lock request carries a success, the account
that asked reported it, and reports one between the request and the run. -/
def OwnerReports (events : List ServiceEvent) : Prop :=
  ∀ pushedAt listener owner reportedAt ranAt reporter,
    LockRequested events pushedAt listener owner →
    FirstLockRun events pushedAt reportedAt ranAt →
    Reported events reportedAt lockScreenResult ScreenChange.screenSucc reporter →
      reporter = owner ∧ ∃ time, pushedAt < time ∧ time < ranAt ∧
        Reported events time lockScreenResult ScreenChange.screenSucc owner

theorem lockedForOwner_iff (hadmits : machine.Admits (started disk) events) :
    LockedForOwner events (machine.run (started disk) events).waiting ↔ OwnerReports events := by
  constructor
  · intro hlocked pushedAt listener owner reportedAt ranAt reporter hrequest hfirst hreport
    have hdone := (mem_lockCalled_iff hadmits
      ⟨listener, pushedAt, ScreenChange.screenSucc, reportedAt, ranAt⟩).mpr
        ⟨⟨owner, hrequest⟩, ⟨reporter, hreport⟩, hfirst⟩
    obtain ⟨hown, hsince⟩ := hlocked _ hdone rfl owner hrequest
    exact ⟨hreport.reporter_eq hown, hsince⟩
  · intro howner done hdone hsuccess owner hrequest
    obtain ⟨_, ⟨reporter, hreport⟩, hfirst⟩ := (mem_lockCalled_iff hadmits done).mp hdone
    rw [hsuccess] at hreport
    obtain ⟨rfl, hsince⟩ := howner _ _ owner _ _ reporter hrequest hfirst hreport
    exact ⟨hreport, hsince⟩

theorem lockedOnce_lockedForOwner :
    LockedForOwner lockedOnce (machine.run (started ∅) lockedOnce).waiting ↔
      OwnerReports lockedOnce :=
  lockedForOwner_iff lockedOnce_admits

/-- Account 100 asks for a lock, account 101 reports one. -/
def lockedByOther : List ServiceEvent :=
  [.call (.single 100) (.privileged 100) (.lock 5),
    .call (.single 100) (.privileged 101)
      (.sendScreenLockEvent lockScreenResult ScreenChange.screenSucc),
    .runLockTask 1]

/-- The listener of account 100 is told of the success of account 101. -/
theorem other_account_completes_lock :
    machine.Admits (started ∅) lockedByOther ∧
      ¬ LockedForOwner lockedByOther (machine.run (started ∅) lockedByOther).waiting := by
  refine ⟨⟨trivial, trivial, ⟨ScreenChange.screenSucc, by decide⟩, trivial⟩, ?_⟩
  intro hlocked
  have hrequest : LockRequested lockedByOther 0 5 100 := ⟨_, _, rfl, by decide, by decide⟩
  obtain ⟨⟨env, caller, hevent, _, howner⟩, _⟩ :=
    hlocked ⟨5, 0, ScreenChange.screenSucc, 1, 2⟩ (by decide) rfl 100 hrequest
  obtain ⟨rfl, rfl, _⟩ := ServiceEvent.call.inj (Option.some.inj hevent)
  exact absurd howner (by decide)

end OwnAccount

section Recorded

/-- Where an unlock listener has been told of a success, its account was
recorded as unlocked at some moment after the report and up to the call back. -/
def UnlockRecorded (disk : Std.TreeMap String PreferencesValue) (events : List ServiceEvent) :
    Prop :=
  ∀ called ∈ (machine.run (started disk) events).waiting.unlockCalled,
    called.value = ScreenChange.screenSucc →
      ∃ moment, called.completion.reportedAt < moment ∧ moment ≤ called.completion.ranAt ∧
        (machine.run (started disk) (events.take moment)).isScreenlockedMap[
          called.completion.entry.2]? = some false

/-- Where the first task to run after an unlock request carries an already
unlocked of the same account, the account was recorded as unlocked at that
report, or reports an unlock before the task runs. -/
def AlreadyUnlockedTrue (disk : Std.TreeMap String PreferencesValue)
    (events : List ServiceEvent) : Prop :=
  ∀ pushedAt listener owner reportedAt ranAt, UnlockRequested events pushedAt listener owner →
    FirstUnlockRun events pushedAt reportedAt ranAt →
    Reported events reportedAt unlockScreenResult ScreenChange.alreadyUnlocked owner →
      (machine.run (started disk) (events.take reportedAt)).isScreenlockedMap[owner]? =
        some false ∨
      ∃ time param, reportedAt < time ∧ time < ranAt ∧
        (param = ScreenChange.earlySuccess ∨ param = ScreenChange.screenSucc) ∧
        Reported events time unlockScreenResult param owner

theorem reportsUnlock_iff (time : Nat) (userId : UserId) :
    (∃ event, events[time]? = some event ∧ ReportsUnlock userId event) ↔
      ∃ param, (param = ScreenChange.earlySuccess ∨ param = ScreenChange.screenSucc) ∧
        Reported events time unlockScreenResult param userId := by
  constructor
  · rintro ⟨_, hevent, env, caller, param, rfl, hcontrol, howner, hparam⟩
    exact ⟨param, hparam, env, caller, hevent, hcontrol, howner⟩
  · rintro ⟨param, hparam, env, caller, hevent, hcontrol, howner⟩
    exact ⟨_, hevent, env, caller, param, rfl, hcontrol, howner, hparam⟩

/-- An account recorded as unlocked was so at an earlier moment, or has
reported an unlock since. -/
theorem unlocked_since (ability : ScreenLockSystemAbility) (userId : UserId)
    {earlier later : Nat} (hle : earlier ≤ later)
    (hunlocked : (machine.run ability (events.take later)).isScreenlockedMap[userId]? =
      some false) :
    (machine.run ability (events.take earlier)).isScreenlockedMap[userId]? = some false ∨
      ∃ time, earlier ≤ time ∧ time < later ∧
        ∃ event, events[time]? = some event ∧ ReportsUnlock userId event := by
  induction later, hle using Nat.le_induction with
  | base => exact Or.inl hunlocked
  | succ later hle ih =>
      cases hevent : events[later]? with
      | none =>
          rw [List.take_add_one, hevent, Option.toList_none, List.append_nil] at hunlocked
          rcases ih hunlocked with hbefore | ⟨time, hfrom, hto, hreport⟩
          · exact Or.inl hbefore
          · exact Or.inr ⟨time, hfrom, Nat.lt_succ_of_lt hto, hreport⟩
      | some event =>
          rw [run_take_succ ability hevent] at hunlocked
          rcases unlocked_step _ hunlocked with hstill | hreport
          · rcases ih hstill with hbefore | ⟨time, hfrom, hto, hreport⟩
            · exact Or.inl hbefore
            · exact Or.inr ⟨time, hfrom, Nat.lt_succ_of_lt hto, hreport⟩
          · exact Or.inr ⟨later, hle, Nat.lt_succ_self later, event, hevent, hreport⟩

theorem unlocked_after_report (ability : ScreenLockSystemAbility) {time : Nat} {param : Int}
    {userId : UserId} (hparam : param = ScreenChange.earlySuccess ∨ param = ScreenChange.screenSucc)
    (hreport : Reported events time unlockScreenResult param userId) :
    (machine.run ability (events.take (time + 1))).isScreenlockedMap[userId]? = some false := by
  obtain ⟨event, hevent, hreports⟩ := (reportsUnlock_iff time userId).mpr ⟨param, hparam, hreport⟩
  rw [run_take_succ ability hevent]
  exact unlocked_of_reportsUnlock _ hreports

theorem unchanged_after_alreadyUnlocked (ability : ScreenLockSystemAbility) {time : Nat}
    {userId : UserId}
    (hreport : Reported events time unlockScreenResult ScreenChange.alreadyUnlocked userId) :
    (machine.run ability (events.take (time + 1))).isScreenlockedMap =
      (machine.run ability (events.take time)).isScreenlockedMap := by
  obtain ⟨env, caller, hevent, _⟩ := hreport
  rw [run_take_succ ability hevent, alreadyUnlocked_keeps]

theorem unlockResult_success {param : Int}
    (hresult : unlockResult param = some ScreenChange.screenSucc) :
    param = ScreenChange.alreadyUnlocked ∨ param = ScreenChange.screenSucc := by
  unfold unlockResult at hresult
  split at hresult
  next halready => exact Or.inl halready
  next =>
    split at hresult
    next => cases hresult
    next => exact Or.inr (Option.some.inj hresult)

/-- The recorded lock state bears out every success told to an unlock listener
exactly if every already unlocked that is passed on to its own account is true. -/
theorem unlockRecorded_iff (hadmits : machine.Admits (started disk) events) :
    UnlockRecorded disk events ↔ AlreadyUnlockedTrue disk events := by
  have hvalues := (started disk).unlockCalled_value events rfl rfl
  constructor
  · intro hrecorded pushedAt listener owner reportedAt ranAt hrequest hfirst hreport
    obtain ⟨called, hcalled, hdone⟩ := (mem_unlockCompleted_iff hadmits
      ⟨(listener, owner), pushedAt, (ScreenChange.screenSucc, owner), reportedAt, ranAt⟩).mpr
        ⟨hrequest, ⟨ScreenChange.alreadyUnlocked, rfl, hreport⟩, hfirst⟩
    have hvalue : called.value = ScreenChange.screenSucc := by
      rw [(hvalues called hcalled).2, hdone]
      exact if_pos rfl
    obtain ⟨moment, hafter, hbefore, hunlocked⟩ := hrecorded called hcalled hvalue
    rw [hdone] at hafter hbefore hunlocked
    rcases unlocked_since (started disk) owner hafter hunlocked with
      hstill | ⟨time, hfrom, hto, hevent⟩
    · rw [unchanged_after_alreadyUnlocked (started disk) hreport] at hstill
      exact Or.inl hstill
    · obtain ⟨param, hparam, hunlock⟩ := (reportsUnlock_iff time owner).mp hevent
      exact Or.inr ⟨time, param, hfrom, Nat.lt_of_lt_of_le hto hbefore, hparam, hunlock⟩
  · intro htrue called hcalled hsuccess
    obtain ⟨hrequest, ⟨param, hresult, hreport⟩, hfirst⟩ :=
      (mem_unlockCompleted_iff hadmits called.completion).mp ⟨called, hcalled, rfl⟩
    have hdrain := (unlockEvent_drain_iff _ _).mpr hfirst.2.1
    have hlt := (BatchQueue.reported_of_drain (unlock_admits hadmits) hdrain).1
    have hvalue := (hvalues called hcalled).2
    rw [hsuccess] at hvalue
    unfold WaitingListeners.unlockValue at hvalue
    by_cases hown : called.completion.entry.2 = called.completion.result.2
    · rw [if_pos hown] at hvalue
      rw [← hvalue] at hresult
      rw [← hown] at hreport
      rcases unlockResult_success hresult with rfl | rfl
      · rcases htrue _ _ _ _ _ hrequest hfirst hreport with
          hstill | ⟨time, other, hfrom, hto, hparam, hunlock⟩
        · refine ⟨_, Nat.lt_succ_self _, hlt, ?_⟩
          rw [Nat.succ_eq_add_one, unchanged_after_alreadyUnlocked (started disk) hreport]
          exact hstill
        · exact ⟨time + 1, Nat.lt_succ_of_lt hfrom, hto,
            unlocked_after_report (started disk) hparam hunlock⟩
      · exact ⟨_, Nat.lt_succ_self _, hlt,
          unlocked_after_report (started disk) (Or.inr rfl) hreport⟩
    · rw [if_neg hown] at hvalue
      refine ⟨called.completion.ranAt, hlt, Nat.le_refl _, ?_⟩
      cases hstate : (machine.run (started disk)
          (events.take called.completion.ranAt)).isScreenlockedMap[
            called.completion.entry.2]? with
      | none => simp [hstate] at hvalue
      | some locked => cases locked <;> simp [hstate] at hvalue ⊢

/-- Account 100 asks for an unlock, its application reports that the screen is
unlocked already, and the task runs. -/
def unlockedAlready : List ServiceEvent :=
  [.call (.single 100) (.privileged 100) (.unlockScreen 5),
    .call (.single 100) (.privileged 100)
      (.sendScreenLockEvent unlockScreenResult ScreenChange.alreadyUnlocked),
    .runUnlockTask 1]

theorem unlockedAlready_admits : machine.Admits (started ∅) unlockedAlready :=
  ⟨trivial, trivial, ⟨(ScreenChange.screenSucc, 100), by decide⟩, trivial⟩

theorem unlockedAlready_recorded_iff :
    UnlockRecorded ∅ unlockedAlready ↔ AlreadyUnlockedTrue ∅ unlockedAlready :=
  unlockRecorded_iff unlockedAlready_admits

/-- After a start nothing is recorded, and the listener is told of a success all the same. -/
theorem unlockedAlready_unrecorded :
    machine.Admits (started ∅) unlockedAlready ∧ ¬ UnlockRecorded ∅ unlockedAlready := by
  refine ⟨⟨trivial, trivial, ⟨(ScreenChange.screenSucc, 100), by decide⟩, trivial⟩, ?_⟩
  intro hrecorded
  obtain ⟨moment, hafter, hbefore, hunlocked⟩ := hrecorded
    ⟨⟨(5, 100), 0, (ScreenChange.screenSucc, 100), 1, 2⟩, ScreenChange.screenSucc⟩ (by decide) rfl
  obtain rfl : moment = 2 := by
    change 1 < moment at hafter
    change moment ≤ 2 at hbefore
    omega
  exact absurd hunlocked (by decide)

end Recorded

end Screenlock.ScreenLockSystemAbility
