import Screenlock.Service.AccountRecords
import Screenlock.Service.Waiting

/-! # Reading a schedule

Who asked, who reported and which task ran first after a request, read off the
events of a run. What the tasks called back is told by these alone, and the
values passed to unlock listeners by the lock states recorded when they ran.
-/

namespace Screenlock.ScreenLockSystemAbility

open Foundation

section Events

variable (events : List ServiceEvent)

/-- The accepted request for a lock, and the account of its caller. -/
def LockRequested (time : Nat) (listener : ScreenLockCallback) (owner : UserId) : Prop :=
  ∃ env caller, events[time]? = some (.call env caller (.lock listener)) ∧
    mayControl caller = true ∧ env.userIdFromCallingUid caller = owner

/-- The accepted request for an unlock, and the account of its caller. -/
def UnlockRequested (time : Nat) (listener : ScreenLockCallback) (owner : UserId) : Prop :=
  ∃ env caller, env.userIdFromCallingUid caller = owner ∧ mayUnlock env caller = true ∧
    (events[time]? = some (.call env caller (.unlockScreen listener)) ∨
      caller.systemApp = true ∧ events[time]? = some (.call env caller (.unlock listener)))

/-- The accepted report of a result, and the account of the reporting caller. -/
def Reported (time : Nat) (event : String) (param : Int) (reporter : UserId) : Prop :=
  ∃ env caller, events[time]? = some (.call env caller (.sendScreenLockEvent event param)) ∧
    mayControl caller = true ∧ env.userIdFromCallingUid caller = reporter

/-- The event at `time` is a successful report of a caller of the account, and tells
that its screen is locked, or that it is not. -/
def LockStateTold (userId : UserId) (time : Nat) (isLocked : Bool) : Prop :=
  ∃ event, events[time]? = some event ∧ reported userId event = some isLocked

/-- The report at `time` is the last that tells the lock state of the account before
`before`, and the account is not removed in between. -/
def LastTold (userId : UserId) (time before : Nat) (isLocked : Bool) : Prop :=
  time < before ∧ LockStateTold events userId time isLocked ∧
    ∀ later, time < later → later < before → ∀ event, events[later]? = some event →
      reported userId event = none ∧ removes userId event = false

/-- Between the two times a caller of the account reports its lock state, and the
account is not removed after that. -/
def ToldBetween (userId : UserId) (after before : Nat) : Prop :=
  ∃ time isLocked, after < time ∧ time < before ∧ LockStateTold events userId time isLocked ∧
    ∀ later, time < later → later < before → ∀ event, events[later]? = some event →
      removes userId event = false

/-- The first lock task to run after `pushedAt` was submitted at `reportedAt`. -/
def FirstLockRun (pushedAt reportedAt ranAt : Nat) : Prop :=
  pushedAt < ranAt ∧ events[ranAt]? = some (.runLockTask reportedAt) ∧
    ∀ time, pushedAt < time → time < ranAt → ∀ other, events[time]? ≠ some (.runLockTask other)

/-- The first unlock task to run after `pushedAt` was submitted at `reportedAt`. -/
def FirstUnlockRun (pushedAt reportedAt ranAt : Nat) : Prop :=
  pushedAt < ranAt ∧ events[ranAt]? = some (.runUnlockTask reportedAt) ∧
    ∀ time, pushedAt < time → time < ranAt → ∀ other, events[time]? ≠ some (.runUnlockTask other)

variable {events}

theorem map_getElem?_iff {δ : Type} (translate : ServiceEvent → δ) (time : Nat) (wanted : δ) :
    (events.map translate)[time]? = some wanted ↔
      ∃ event, events[time]? = some event ∧ translate event = wanted := by
  rw [List.getElem?_map, Option.map_eq_some_iff]

/-- A report has one reporter. -/
theorem Reported.reporter_eq {time : Nat} {event : String} {param other : Int}
    {reporter second : UserId} (hfirst : Reported events time event param reporter)
    (hsecond : Reported events time event other second) : reporter = second := by
  obtain ⟨env, caller, hevent, _, rfl⟩ := hfirst
  obtain ⟨env', caller', hevent', _, rfl⟩ := hsecond
  obtain ⟨rfl, rfl, _⟩ := ServiceEvent.call.inj (Option.some.inj (hevent.symm.trans hevent'))
  rfl

/-- If the lock state has been told since, one of the reports was the last to tell it. -/
theorem exists_lastTold_iff {userId : UserId} {after before : Nat} :
    (∃ time isLocked, after < time ∧ LastTold events userId time before isLocked) ↔
      ToldBetween events userId after before := by
  constructor
  · rintro ⟨time, isLocked, hafter, hbefore, htold, hlast⟩
    exact ⟨time, isLocked, hafter, hbefore, htold, fun later hfrom hto event hevent =>
      (hlast later hfrom hto event hevent).2⟩
  · induction before with
    | zero => exact fun ⟨_, _, _, hbefore, _⟩ => absurd hbefore (Nat.not_lt_zero _)
    | succ before ih =>
        rintro ⟨time, isLocked, hafter, hbefore, htold, hkept⟩
        rcases Nat.lt_succ_iff_lt_or_eq.mp hbefore with hearlier | rfl
        · obtain ⟨last, state, hsince, hlt, hlast, hnone⟩ := ih ⟨time, isLocked, hafter, hearlier,
            htold, fun later hfrom hto => hkept later hfrom (Nat.lt_succ_of_lt hto)⟩
          by_cases htells : ∃ state, LockStateTold events userId before state
          · obtain ⟨state, hstate⟩ := htells
            exact ⟨before, state, Nat.lt_trans hafter hearlier, Nat.lt_succ_self _, hstate,
              fun later hfrom hto => by omega⟩
          · refine ⟨last, state, hsince, Nat.lt_succ_of_lt hlt, hlast, ?_⟩
            intro later hfrom hto event hevent
            rcases Nat.lt_succ_iff_lt_or_eq.mp hto with hlater | rfl
            · exact hnone later hfrom hlater event hevent
            · -- the last event before the end tells nothing
              refine ⟨?_, hkept later hearlier hto event hevent⟩
              by_contra hsome
              obtain ⟨told, hreported⟩ := Option.ne_none_iff_exists'.mp hsome
              exact htells ⟨told, event, hevent, hreported⟩
        · exact ⟨time, isLocked, hafter, hbefore, htold, fun later hfrom hto => by omega⟩

theorem lockEvent_push_iff (time : Nat) (listener : ScreenLockCallback) :
    (events.map lockEvent)[time]? = some (.push listener) ↔
      ∃ owner, LockRequested events time listener owner := by
  rw [map_getElem?_iff]
  constructor
  · rintro ⟨event, hevent, hpush⟩
    cases event with
    | call env caller request =>
        cases request with
        | lock other =>
            rw [lockEvent] at hpush
            split at hpush
            next hcontrol =>
              obtain rfl := QueueEvent.push.inj hpush
              exact ⟨_, env, caller, hevent, hcontrol, rfl⟩
            next => cases hpush
        | sendScreenLockEvent name param =>
            rw [lockEvent] at hpush
            split at hpush <;> cases hpush
        | _ => cases hpush
    | _ => cases hpush
  · rintro ⟨owner, env, caller, hevent, hcontrol, _⟩
    exact ⟨_, hevent, by rw [lockEvent, if_pos hcontrol]⟩

theorem lockEvent_report_iff (time : Nat) (param : Int) :
    (events.map lockEvent)[time]? = some (.report param) ↔
      ∃ reporter, Reported events time lockScreenResult param reporter := by
  rw [map_getElem?_iff]
  constructor
  · rintro ⟨event, hevent, hreport⟩
    cases event with
    | call env caller request =>
        cases request with
        | lock other =>
            rw [lockEvent] at hreport
            split at hreport <;> cases hreport
        | sendScreenLockEvent name value =>
            rw [lockEvent] at hreport
            split at hreport
            next hboth =>
              obtain rfl := QueueEvent.report.inj hreport
              obtain ⟨hcontrol, rfl⟩ := hboth
              exact ⟨_, env, caller, hevent, hcontrol, rfl⟩
            next => cases hreport
        | _ => cases hreport
    | _ => cases hreport
  · rintro ⟨reporter, env, caller, hevent, hcontrol, _⟩
    exact ⟨_, hevent, by rw [lockEvent, if_pos ⟨hcontrol, rfl⟩]⟩

theorem unlockEvent_push_iff (time : Nat) (listener : ScreenLockCallback) (owner : UserId) :
    (events.map unlockEvent)[time]? = some (.push (listener, owner)) ↔
      UnlockRequested events time listener owner := by
  rw [map_getElem?_iff]
  constructor
  · rintro ⟨event, hevent, hpush⟩
    cases event with
    | call env caller request =>
        cases request with
        | unlockScreen other =>
            rw [unlockEvent] at hpush
            split at hpush
            next hunlock =>
              obtain ⟨rfl, rfl⟩ := Prod.mk.inj (QueueEvent.push.inj hpush)
              exact ⟨env, caller, rfl, hunlock, Or.inl hevent⟩
            next => cases hpush
        | unlock other =>
            rw [unlockEvent] at hpush
            split at hpush
            next hunlock =>
              obtain ⟨rfl, rfl⟩ := Prod.mk.inj (QueueEvent.push.inj hpush)
              obtain ⟨hsystem, hmay⟩ := (Bool.and_eq_true _ _).mp hunlock
              exact ⟨env, caller, rfl, hmay, Or.inr ⟨hsystem, hevent⟩⟩
            next => cases hpush
        | sendScreenLockEvent name param =>
            rw [unlockEvent] at hpush
            split at hpush
            · cases hresult : unlockResult param <;> simp [hresult] at hpush
            · cases hpush
        | _ => cases hpush
    | _ => cases hpush
  · rintro ⟨env, caller, rfl, hmay, hevent | ⟨hsystem, hevent⟩⟩
    · exact ⟨_, hevent, by rw [unlockEvent, if_pos hmay]⟩
    · exact ⟨_, hevent, by rw [unlockEvent, hsystem, Bool.true_and, if_pos hmay]⟩

theorem unlockEvent_report_iff (time : Nat) (result : Int) (reporter : UserId) :
    (events.map unlockEvent)[time]? = some (.report (result, reporter)) ↔
      ∃ param, unlockResult param = some result ∧
        Reported events time unlockScreenResult param reporter := by
  rw [map_getElem?_iff]
  constructor
  · rintro ⟨event, hevent, hreport⟩
    cases event with
    | call env caller request =>
        cases request with
        | unlockScreen other =>
            rw [unlockEvent] at hreport
            split at hreport <;> cases hreport
        | unlock other =>
            rw [unlockEvent] at hreport
            split at hreport <;> cases hreport
        | sendScreenLockEvent name param =>
            rw [unlockEvent] at hreport
            split at hreport
            next hboth =>
              obtain ⟨hcontrol, rfl⟩ := hboth
              cases hresult : unlockResult param with
              | none => simp [hresult] at hreport
              | some value =>
                  simp only [hresult, QueueEvent.report.injEq, Prod.mk.injEq] at hreport
                  obtain ⟨rfl, rfl⟩ := hreport
                  exact ⟨param, hresult, env, caller, hevent, hcontrol, rfl⟩
            next => cases hreport
        | _ => cases hreport
    | _ => cases hreport
  · rintro ⟨param, hresult, env, caller, hevent, hcontrol, rfl⟩
    refine ⟨_, hevent, ?_⟩
    rw [unlockEvent, if_pos ⟨hcontrol, rfl⟩, hresult]

theorem lockEvent_drain_iff (time reportedAt : Nat) :
    (events.map lockEvent)[time]? = some (.drain reportedAt) ↔
      events[time]? = some (.runLockTask reportedAt) := by
  simp [lockEvent_eq_drain]

theorem unlockEvent_drain_iff (time reportedAt : Nat) :
    (events.map unlockEvent)[time]? = some (.drain reportedAt) ↔
      events[time]? = some (.runUnlockTask reportedAt) := by
  simp [unlockEvent_eq_drain]

theorem firstLockRun_iff (pushedAt reportedAt ranAt : Nat) :
    BatchQueue.FirstDrain (events.map lockEvent) pushedAt reportedAt ranAt ↔
      FirstLockRun events pushedAt reportedAt ranAt := by
  simp only [BatchQueue.FirstDrain, BatchQueue.Undrained, FirstLockRun, ne_eq,
    lockEvent_drain_iff]

theorem firstUnlockRun_iff (pushedAt reportedAt ranAt : Nat) :
    BatchQueue.FirstDrain (events.map unlockEvent) pushedAt reportedAt ranAt ↔
      FirstUnlockRun events pushedAt reportedAt ranAt := by
  simp only [BatchQueue.FirstDrain, BatchQueue.Undrained, FirstUnlockRun, ne_eq,
    unlockEvent_drain_iff]

end Events

section Records

variable (ability : ScreenLockSystemAbility)

/-- The event is an accepted report of an unlock by a caller of the account. -/
def ReportsUnlock (userId : UserId) (event : ServiceEvent) : Prop :=
  ∃ env caller param, event = .call env caller (.sendScreenLockEvent unlockScreenResult param) ∧
    mayControl caller = true ∧ env.userIdFromCallingUid caller = userId ∧
    (param = ScreenChange.earlySuccess ∨ param = ScreenChange.screenSucc)

theorem reported_false_iff {userId : UserId} {event : ServiceEvent} :
    reported userId event = some false ↔ ReportsUnlock userId event := by
  constructor
  · intro hreported
    unfold reported at hreported
    split at hreported
    next env caller event param =>
      split at hreported
      next howner =>
        split at hreported
        next hunlock =>
          obtain ⟨rfl, hparam⟩ := hunlock
          exact ⟨env, caller, param, rfl, howner.1, howner.2, hparam.symm⟩
        next => split at hreported <;> cases hreported
      next => cases hreported
    next => cases hreported
  · rintro ⟨env, caller, param, rfl, hcontrol, howner, hparam⟩
    simp [reported, hcontrol, howner, hparam.symm]

theorem unlocked_of_reportsUnlock {userId : UserId} {event : ServiceEvent}
    (hreports : ReportsUnlock userId event) :
    (ability.step event).isScreenlockedMap[userId]? = some false := by
  rw [isScreenlockedMap_step, reported_false_iff.mpr hreports]
  obtain ⟨env, caller, param, rfl, _⟩ := hreports
  rfl

/-- An account comes to be recorded as unlocked by its own reports only. -/
theorem unlocked_step {userId : UserId} {event : ServiceEvent}
    (hunlocked : (ability.step event).isScreenlockedMap[userId]? = some false) :
    ability.isScreenlockedMap[userId]? = some false ∨ ReportsUnlock userId event := by
  rw [isScreenlockedMap_step] at hunlocked
  split at hunlocked
  · cases hunlocked
  · split at hunlocked
    · -- an activated account is recorded as locked, if it is new
      left
      cases hbefore : ability.isScreenlockedMap[userId]? with
      | none => simp [hbefore] at hunlocked
      | some before => simpa [hbefore] using hunlocked
    · cases hreported : reported userId event with
      | none => exact Or.inl (by simpa [hreported] using hunlocked)
      | some isLocked =>
          obtain rfl : isLocked = false := by simpa [hreported] using hunlocked
          exact Or.inr (reported_false_iff.mp hreported)

/-- The results that are passed on as they are, and the one that is translated,
do not by themselves change what is recorded. -/
theorem alreadyUnlocked_keeps (env : Environment) (caller : Caller) :
    (ability.step (.call env caller (.sendScreenLockEvent unlockScreenResult
      ScreenChange.alreadyUnlocked))).isScreenlockedMap = ability.isScreenlockedMap := by
  rw [call_isScreenlockedMap]
  split <;> rfl

theorem run_take_succ {events : List ServiceEvent} {time : Nat} {event : ServiceEvent}
    (hevent : events[time]? = some event) :
    machine.run ability (events.take (time + 1)) =
      (machine.run ability (events.take time)).step event := by
  rw [List.take_add_one, hevent, Option.toList_some, machine.run_concat]
  rfl

/-- What the account has told last is on record. -/
theorem recorded_of_lastTold {events : List ServiceEvent} {userId : UserId} {time before : Nat}
    {isLocked : Bool} (hlast : LastTold events userId time before isLocked) :
    (machine.run ability (events.take before)).isScreenlockedMap[userId]? = some isLocked := by
  obtain ⟨hlt, ⟨told, htold, hreported⟩, hkept⟩ := hlast
  have hcalled : removes userId told = false ∧ activates userId told = false := by
    cases told with
    | call env caller request => exact ⟨rfl, rfl⟩
    | _ => cases hreported
  induction before, hlt using Nat.le_induction with
  | base =>
      rw [run_take_succ ability htold, isScreenlockedMap_step, hcalled.1, hcalled.2, hreported]
      rfl
  | succ before hle ih =>
      have hbefore := ih fun later hfrom hto => hkept later hfrom (Nat.lt_succ_of_lt hto)
      cases hevent : events[before]? with
      | none => rwa [List.take_add_one, hevent, Option.toList_none, List.append_nil]
      | some event =>
          obtain ⟨hnone, hstays⟩ := hkept before hle (Nat.lt_succ_self _) event hevent
          rw [run_take_succ ability hevent, isScreenlockedMap_step, hstays, hnone, hbefore]
          -- an activation keeps the lock state of an account on record
          simp

theorem run_clock (events : List ServiceEvent) :
    (machine.run ability events).clock = ability.clock + events.length := by
  induction events generalizing ability with
  | nil => rfl
  | cons event rest ih =>
      rw [Machine.run_cons, ih, List.length_cons]
      change ability.clock + 1 + rest.length = _
      omega

theorem step_unlockCalled (event : ServiceEvent) :
    (ability.step event).waiting.unlockCalled =
      match event with
      | .runUnlockTask reportedAt =>
          (ability.waiting.runUnlockTask ability.clock ability.isScreenlockedMap
            reportedAt).unlockCalled
      | _ => ability.waiting.unlockCalled := by
  cases event with
  | call env caller request =>
      rw [call_waiting]
      split
      · cases request with
        | sendScreenLockEvent event param =>
            simp only [submitReport, WaitingListeners.notifyUnlockListener,
              WaitingListeners.submitLockTask]
            repeat' split
            all_goals rfl
        | _ => rfl
      · rfl
  | notify env notification =>
      rw [notify_waiting]
  | runLockTask reportedAt =>
      change (ability.waiting.runLockTask ability.clock reportedAt).unlockCalled = _
      unfold WaitingListeners.runLockTask
      split <;> rfl
  | runUnlockTask reportedAt => rfl

theorem unlockCalled_prefix (event : ServiceEvent) :
    ability.waiting.unlockCalled <+: (ability.step event).waiting.unlockCalled := by
  rw [step_unlockCalled]
  cases event with
  | runUnlockTask reportedAt =>
      dsimp only [WaitingListeners.runUnlockTask]
      split
      · exact List.prefix_rfl
      · exact List.prefix_append _ _
  | _ => exact List.prefix_rfl

theorem lockCalled_prefix (event : ServiceEvent) :
    ability.waiting.lockCalled <+: (ability.step event).waiting.lockCalled := by
  change ability.lockQueue.completed <+: (ability.step event).lockQueue.completed
  rw [lockQueue_step]
  exact ability.lockQueue.completed_prefix _

/-- A request itself calls nobody back. -/
theorem call_lockCalled (env : Environment) (caller : Caller) (request : Request) :
    (ability.step (.call env caller request)).waiting.lockCalled = ability.waiting.lockCalled := by
  change (ability.step (.call env caller request)).lockQueue.completed =
    ability.lockQueue.completed
  rw [lockQueue_step]
  refine ability.lockQueue.completed_eq_of_ne_drain fun reportedAt hdrain => ?_
  cases lockEvent_eq_drain.mp hdrain

/-- The value an unlock listener got, told by the lock states recorded when its task ran. -/
theorem unlockCalled_value (events : List ServiceEvent) (hclock : ability.clock = 0)
    (hnone : ability.waiting.unlockCalled = []) :
    ∀ called ∈ (machine.run ability events).waiting.unlockCalled,
      called.completion.ranAt < events.length ∧
      called.value = WaitingListeners.unlockValue
        (machine.run ability (events.take called.completion.ranAt)).isScreenlockedMap
        called.completion.result.1 called.completion.result.2 called.completion.entry.2 := by
  induction events using List.reverseRecOn with
  | nil =>
      intro called hcalled
      rw [Machine.run_nil, hnone] at hcalled
      cases hcalled
  | append_singleton events event ih =>
      intro called hcalled
      have hold : called ∈ (machine.run ability events).waiting.unlockCalled →
          called.completion.ranAt < (events ++ [event]).length ∧
          called.value = WaitingListeners.unlockValue
            (machine.run ability
              ((events ++ [event]).take called.completion.ranAt)).isScreenlockedMap
            called.completion.result.1 called.completion.result.2 called.completion.entry.2 := by
        intro hearlier
        obtain ⟨hlt, hvalue⟩ := ih called hearlier
        rw [List.length_append, List.take_append_of_le_length (Nat.le_of_lt hlt)]
        exact ⟨Nat.lt_add_right _ hlt, hvalue⟩
      rw [machine.run_concat] at hcalled
      change called ∈ ((machine.run ability events).step event).waiting.unlockCalled at hcalled
      rw [step_unlockCalled] at hcalled
      cases event with
      | runUnlockTask reportedAt =>
          simp only [WaitingListeners.runUnlockTask] at hcalled
          split at hcalled
          · exact hold hcalled
          · next screenLockResult curUserId _ =>
              cases List.mem_append.mp hcalled with
              | inl hearlier => exact hold hearlier
              | inr hnew =>
                  -- the task reads the lock states as the events so far have left them
                  obtain ⟨i, _, hvisit⟩ := List.mem_filterMap.mp hnew
                  simp only [WaitingListeners.callbackUnlockListener, Option.bind_eq_bind,
                    Option.bind_eq_some_iff, Option.some.injEq] at hvisit
                  obtain ⟨userId, _, ⟨pushedAt, listener⟩, _, rfl⟩ := hvisit
                  have hran : (machine.run ability events).clock = events.length := by
                    rw [run_clock, hclock, Nat.zero_add]
                  refine ⟨by simp [hran], ?_⟩
                  simp only [hran, List.take_left]
      | _ => exact hold hcalled

end Records

section Called

variable {events : List ServiceEvent} {disk : Std.TreeMap String PreferencesValue}
  (hadmits : machine.Admits (started disk) events)

include hadmits

theorem lockQueue_run_started :
    (machine.run (started disk) events).lockQueue =
      BatchQueue.machine.run BatchQueue.empty (events.map lockEvent) :=
  lockRefinement.run hadmits trivial

theorem lock_admits : BatchQueue.machine.Admits BatchQueue.empty (events.map lockEvent) :=
  lockRefinement.admits hadmits trivial

theorem unlockQueue_run_started :
    (machine.run (started disk) events).unlockQueue =
      BatchQueue.machine.run BatchQueue.empty (events.map unlockEvent) :=
  unlockRefinement.run hadmits rfl

theorem unlock_admits : BatchQueue.machine.Admits BatchQueue.empty (events.map unlockEvent) :=
  unlockRefinement.admits hadmits rfl

/-- A lock listener is called back by the first task to run after its request,
with the result of the report that submitted the task, and by nothing else. -/
theorem mem_lockCalled_iff (done : Completion ScreenLockCallback Int) :
    done ∈ (machine.run (started disk) events).waiting.lockCalled ↔
      (∃ owner, LockRequested events done.pushedAt done.entry owner) ∧
      (∃ reporter, Reported events done.reportedAt lockScreenResult done.result reporter) ∧
      FirstLockRun events done.pushedAt done.reportedAt done.ranAt := by
  change done ∈ (machine.run (started disk) events).lockQueue.completed ↔ _
  rw [lockQueue_run_started hadmits, BatchQueue.mem_completed_iff (lock_admits hadmits),
    lockEvent_push_iff, lockEvent_report_iff, firstLockRun_iff]

theorem mem_unlockCompleted_iff
    (done : Completion (ScreenLockCallback × UserId) (Int × UserId)) :
    (∃ called ∈ (machine.run (started disk) events).waiting.unlockCalled,
        called.completion = done) ↔
      UnlockRequested events done.pushedAt done.entry.1 done.entry.2 ∧
      (∃ param, unlockResult param = some done.result.1 ∧
        Reported events done.reportedAt unlockScreenResult param done.result.2) ∧
      FirstUnlockRun events done.pushedAt done.reportedAt done.ranAt := by
  rw [← List.mem_map]
  change done ∈ (machine.run (started disk) events).unlockQueue.completed ↔ _
  rw [unlockQueue_run_started hadmits, BatchQueue.mem_completed_iff (unlock_admits hadmits),
    ← unlockEvent_push_iff, ← unlockEvent_report_iff, firstUnlockRun_iff]

end Called

end Screenlock.ScreenLockSystemAbility
