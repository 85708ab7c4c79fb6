import Screenlock.Foundation.History
import Screenlock.Service.Steps

/-! # Telling a listener that the system is ready

Every `OnSystemEvent` submits a task that polls until a listener is installed and
the system is ready, and tells the listener it finds then. Which task tells which
listener is open: a task that finds a later listener leaves the task of that
listener to tell it again.
-/

namespace Screenlock

open Foundation

/-- The event of `OnSystemReady`. -/
def SystemEvent.ready : SystemEvent := { eventType := SystemEvent.systemReady }

/-- The iterations a task makes before it gives up. -/
def tryTimes : Nat := 50

/-- The service with `systemReady_` and the task that is running on its queue. -/
structure SystemReadyRun where
  ability : ScreenLockSystemAbility
  systemReady : Bool
  /-- Calls of `OnSystemEvent` between the lock of the listener and that of the queue. -/
  submitting : Nat
  /-- The iterations left to the first task. -/
  tryTime : Nat

inductive SystemReadyEvent where
  /-- A call of `OnSystemEvent` takes the lock of the listener. -/
  | install (listener : SystemEventListener)
  /-- A call of `OnSystemEvent` comes to its end. -/
  | submit (env : Environment) (caller : Caller)
  | setSystemReady (ready : Bool)
  /-- One iteration of the task at the head of the queue. -/
  | iterate

namespace ScreenLockSystemAbility

def installSystemEventListener (listener : SystemEventListener)
    (ability : ScreenLockSystemAbility) : ScreenLockSystemAbility :=
  { ability with systemEventListener := some listener }

def submitSystemReady (env : Environment) (caller : Caller) (ability : ScreenLockSystemAbility) :
    ScreenLockSystemAbility :=
  { ability with currentUser := env.userIdFromCallingUid caller }.submit .onSystemReady

/-- The two parts make up a call that passes its checks. -/
theorem onSystemEvent_of_mayControl {env : Environment} {caller : Caller}
    (ability : ScreenLockSystemAbility) (listener : SystemEventListener)
    (hcontrol : mayControl caller = true) :
    ability.onSystemEvent env caller (some listener) =
      (.ok, (ability.installSystemEventListener listener).submitSystemReady env caller) := by
  simp only [mayControl, Bool.and_eq_true] at hcontrol
  simp only [onSystemEvent, hcontrol, Bool.true_eq_false, if_false]
  rfl

end ScreenLockSystemAbility

namespace SystemReadyRun

def start (disk : Std.TreeMap String PreferencesValue) : SystemReadyRun where
  ability := ScreenLockSystemAbility.started disk
  systemReady := false
  submitting := 0
  tryTime := tryTimes

/-- The body of the loop in `OnSystemReady`, and the end of the task when it is
the last one. -/
def iterate (run : SystemReadyRun) : SystemReadyRun :=
  match run.ability.queue with
  | some (.onSystemReady :: rest) =>
      let finished := { run.ability with queue := some rest }
      if run.ability.systemEventListener.isSome && run.systemReady then
        { run with
          ability := finished.send (finished.systemEventCallBack .ready)
          tryTime := tryTimes }
      else if run.tryTime ≤ 1 then { run with ability := finished, tryTime := tryTimes }
      else { run with tryTime := run.tryTime - 1 }
  | _ => run

/-- The task at the head of the queue polls. -/
def Polls (run : SystemReadyRun) : Prop :=
  (run.ability.queue.bind List.head?) = some .onSystemReady

instance (run : SystemReadyRun) : Decidable run.Polls := inferInstanceAs (Decidable (_ = _))

def machine : Machine SystemReadyRun SystemReadyEvent where
  enabled run
    | .install _ | .setSystemReady _ => True
    | .submit _ _ => 0 < run.submitting
    | .iterate => run.Polls
  step run
    | .install listener =>
        { run with
          ability := run.ability.installSystemEventListener listener
          submitting := run.submitting + 1 }
    | .submit env caller =>
        { run with
          ability := run.ability.submitSystemReady env caller
          submitting := run.submitting - 1 }
    | .setSystemReady ready => { run with systemReady := ready }
    | .iterate => run.iterate

instance (run : SystemReadyRun) (event : SystemReadyEvent) :
    Decidable (machine.enabled run event) := by
  cases event <;> dsimp only [machine] <;> infer_instance

/-- How often a listener was told. -/
def told (run : SystemReadyRun) (listener : SystemEventListener) : Nat :=
  run.ability.sent.count (.systemEvent listener .ready)

/-- The iteration finds a listener and the system ready. -/
def Tells (run : SystemReadyRun) : SystemReadyEvent → Prop
  | .iterate => run.Polls ∧ run.ability.systemEventListener.isSome = true ∧ run.systemReady = true
  | _ => False

def Installs (_run : SystemReadyRun) : SystemReadyEvent → Prop
  | .install _ => True
  | _ => False

def installed : SystemReadyEvent → Option SystemEventListener
  | .install listener => some listener
  | _ => none

section Steps

variable {run : SystemReadyRun} {event : SystemReadyEvent}

theorem iterate_of_tells (htells : run.Tells .iterate) :
    ∃ listener, run.ability.systemEventListener = some listener ∧
      run.iterate.ability.systemEventListener = some listener ∧
      run.iterate.ability.sent = run.ability.sent ++ [.systemEvent listener .ready] := by
  obtain ⟨hpolls, hlistener, hready⟩ := htells
  obtain ⟨listener, hlistener⟩ := Option.isSome_iff_exists.mp hlistener
  obtain ⟨tasks, hqueue, hhead⟩ := Option.bind_eq_some_iff.mp hpolls
  obtain ⟨rest, rfl⟩ := List.head?_eq_some_iff.mp hhead
  refine ⟨listener, hlistener, ?_⟩
  simp [iterate, hqueue, hlistener, hready, ScreenLockSystemAbility.send,
    ScreenLockSystemAbility.systemEventCallBack]

theorem iterate_of_not_tells (hquiet : ¬ run.Tells .iterate) :
    run.iterate.ability.systemEventListener = run.ability.systemEventListener ∧
      run.iterate.ability.sent = run.ability.sent := by
  unfold iterate
  split
  next rest hqueue =>
    have hpolls : run.Polls := by simp [Polls, hqueue]
    have hnot : (run.ability.systemEventListener.isSome && run.systemReady) = false := by
      refine Bool.eq_false_iff.mpr fun hfinds => hquiet ?_
      exact ⟨hpolls, Bool.and_eq_true_iff.mp hfinds⟩
    simp only [hnot, Bool.false_eq_true, if_false]
    split <;> exact ⟨rfl, rfl⟩
  next => exact ⟨rfl, rfl⟩

theorem step_sent_of_not_tells (hquiet : ¬ run.Tells event) :
    (machine.step run event).ability.sent = run.ability.sent := by
  cases event with
  | iterate => exact (iterate_of_not_tells hquiet).2
  | _ => rfl

/-- Only a call of `OnSystemEvent` changes the listener. -/
theorem step_listener :
    (machine.step run event).ability.systemEventListener =
      (installed event).orElse fun _ => run.ability.systemEventListener := by
  cases event with
  | iterate =>
      by_cases htells : run.Tells .iterate
      · obtain ⟨listener, hbefore, hafter, -⟩ := iterate_of_tells htells
        exact hafter.trans hbefore.symm
      · exact (iterate_of_not_tells htells).1
  | _ => rfl

theorem mem_step_sent_iff (listener : SystemEventListener) :
    .systemEvent listener .ready ∈ (machine.step run event).ability.sent ↔
      .systemEvent listener .ready ∈ run.ability.sent ∨
        (run.Tells event ∧ run.ability.systemEventListener = some listener) := by
  by_cases htells : run.Tells event
  · cases event with
    | iterate =>
        obtain ⟨told, hlistener, -, hsent⟩ := iterate_of_tells htells
        change _ ∈ run.iterate.ability.sent ↔ _
        rw [hsent, hlistener, List.mem_append, List.mem_singleton]
        simp [htells, eq_comm]
    | _ => cases htells
  · rw [step_sent_of_not_tells htells]
    simp [htells]

end Steps

section Runs

variable (disk : Std.TreeMap String PreferencesValue) {events : List SystemReadyEvent}

/-- A listener that is installed or was told came with a call. -/
theorem mem_installed_of_seen {listener : SystemEventListener}
    (hseen : (machine.run (start disk) events).ability.systemEventListener = some listener ∨
      .systemEvent listener .ready ∈ (machine.run (start disk) events).ability.sent) :
    listener ∈ events.filterMap installed := by
  induction events using List.reverseRecOn with
  | nil => rcases hseen with hlistener | hsent <;> contradiction
  | append_singleton past event ih =>
      rw [List.filterMap_append, List.mem_append]
      rw [machine.run_concat, step_listener, mem_step_sent_iff] at hseen
      rcases hseen with hlistener | hsent | ⟨-, hlistener⟩
      · cases hinstalled : installed event with
        | none =>
            rw [hinstalled] at hlistener
            exact Or.inl (ih (Or.inl hlistener))
        | some latest =>
            rw [hinstalled] at hlistener
            obtain rfl : latest = listener := Option.some.inj hlistener
            exact Or.inr (List.mem_filterMap.mpr ⟨event, List.mem_singleton_self event, hinstalled⟩)
      · exact Or.inl (ih (Or.inr hsent))
      · exact Or.inl (ih (Or.inl hlistener))

/-- The listener that is installed has been told if a task got through since it came. -/
theorem told_iff_since (hdistinct : (events.filterMap installed).Nodup)
    {listener : SystemEventListener}
    (hlistener : (machine.run (start disk) events).ability.systemEventListener = some listener) :
    .systemEvent listener .ready ∈ (machine.run (start disk) events).ability.sent ↔
      machine.Since Tells Installs (start disk) events := by
  induction events using List.reverseRecOn with
  | nil => contradiction
  | append_singleton past event ih =>
      rw [List.filterMap_append, List.nodup_append] at hdistinct
      obtain ⟨hpast, -, hnew⟩ := hdistinct
      rw [machine.run_concat] at hlistener ⊢
      rw [step_listener] at hlistener
      rw [mem_step_sent_iff, Machine.since_concat]
      cases event with
      | install latest =>
          obtain rfl : latest = listener := Option.some.inj hlistener
          -- the calls before came with other listeners
          have huntold : .systemEvent latest .ready ∉
              (machine.run (start disk) past).ability.sent := by
            intro htold
            exact hnew latest (mem_installed_of_seen disk (Or.inr htold)) latest
              (List.mem_singleton_self latest) rfl
          simp [huntold, Tells, Installs]
      | submit | setSystemReady | iterate =>
          have hbefore : (machine.run (start disk) past).ability.systemEventListener =
              some listener := hlistener
          rw [ih hpast hbefore]
          simp [hbefore, Installs, or_comm]

/-- One more iteration tells no listener a second time, unless it finds one that was told. -/
theorem told_concat_iff (hdistinct : (events.filterMap installed).Nodup) (event : SystemReadyEvent)
    (honce : ∀ listener, (machine.run (start disk) events).told listener ≤ 1) :
    (∀ listener, (machine.run (start disk) (events ++ [event])).told listener ≤ 1) ↔
      ((machine.run (start disk) events).Tells event →
        ¬ machine.Since Tells Installs (start disk) events) := by
  rw [machine.run_concat]
  by_cases htells : (machine.run (start disk) events).Tells event
  · cases event with
    | iterate =>
        obtain ⟨found, hlistener, -, hsent⟩ := iterate_of_tells htells
        have hcount (listener : SystemEventListener) :
            (machine.step (machine.run (start disk) events) .iterate).told listener =
              (machine.run (start disk) events).told listener +
                if found = listener then 1 else 0 := by
          change List.count _ (iterate _).ability.sent = _
          rw [hsent, List.count_append, List.count_singleton]
          simp [told]
        rw [← told_iff_since disk hdistinct hlistener, ← List.count_eq_zero]
        simp only [hcount, htells, forall_const]
        constructor
        · intro hafter
          have hfound := hafter found
          rw [if_pos rfl] at hfound
          exact Nat.le_zero.mp (Nat.le_of_succ_le_succ hfound)
        · intro huntold listener
          split
          next heq =>
            subst heq
            exact Nat.le_of_eq (congrArg (· + 1) huntold)
          next => exact honce listener
    | _ => cases htells
  · refine iff_of_true (fun listener => ?_) fun hnow => absurd hnow htells
    unfold told
    rw [step_sent_of_not_tells htells]
    exact honce listener

/-- While the calls come with different listeners, none is told twice if each
task that gets through is the first one to do so since the last call. -/
theorem told_once_iff (hdistinct : (events.filterMap installed).Nodup) :
    machine.Throughout (fun run => ∀ listener, run.told listener ≤ 1) (start disk) events ↔
      ∀ before event, before ++ [event] <+: events →
        (machine.run (start disk) before).Tells event →
          ¬ machine.Since Tells Installs (start disk) before := by
  refine prefixes_iff (fun listener => Nat.zero_le 1) fun past event hpast honce => ?_
  have hearlier : (past.filterMap installed).Nodup := by
    refine hdistinct.sublist ?_
    exact ((List.prefix_append past [event]).trans hpast).sublist.filterMap installed
  exact told_concat_iff disk hearlier event honce

end Runs

/-- One call and its task. -/
def called (listener : SystemEventListener) : List SystemReadyEvent :=
  [.install listener, .submit (.single 100) (.privileged 100)]

/-- Where the second listener replaces the first before the service is ready, both
tasks tell the second one. -/
theorem replaced_listener_told_twice :
    let events := called 1 ++ called 2 ++ [.iterate, .setSystemReady true, .iterate, .iterate]
    machine.Admits (start ∅) events ∧ (events.filterMap installed).Nodup ∧
      (machine.run (start ∅) events).told 1 = 0 ∧ (machine.run (start ∅) events).told 2 = 2 := by
  decide

/-- The same calls, each after the task of the one before. -/
theorem told_once_iff_in_turn :
    let events := .setSystemReady true :: called 1 ++ .iterate :: called 2 ++ [.iterate]
    machine.Throughout (fun run => ∀ listener, run.told listener ≤ 1) (start ∅) events ↔
      ∀ before event, before ++ [event] <+: events →
        (machine.run (start ∅) before).Tells event →
          ¬ machine.Since Tells Installs (start ∅) before :=
  told_once_iff ∅ (by decide)

end SystemReadyRun

end Screenlock
