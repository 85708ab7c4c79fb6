import Screenlock.Foundation.History

/-! # Registration for wear detection

`RegisterSensorListener` sets a flag and leaves the three sensor calls to a
detached thread, which starts all over when one of them fails and clears the
flag when it gives up. A subscription that was made is not taken back, and
`UnRegisterSensorListener` looks at the flag alone.
-/

namespace Screenlock

open Foundation

/-- `MAX_RETRIES`. -/
def maxRetries : Nat := 5

/-- The next thing a retry thread does. -/
inductive RetryPoint where
  | whileCondition
  | subscribeSensor
  | setBatch
  | activateSensor
  | giveUp
  deriving DecidableEq, Repr

/-- The observer, and what the sensor service has of it. -/
structure WearDetectionObserver where
  registered : Bool
  retryCount : Nat
  /-- The retry threads that are running. -/
  threads : List RetryPoint
  subscribed : Bool
  activated : Bool
  deriving DecidableEq, Repr

inductive WearEvent where
  | registerSensorListener
  | unRegisterSensorListener
  /-- The thread goes on, with the answer of the sensor service if it asks it. -/
  | retry (thread : Nat) (succeeds : Bool)
  deriving DecidableEq, Repr

namespace WearDetectionObserver

def idle : WearDetectionObserver := ⟨false, 0, [], false, false⟩

variable (observer : WearDetectionObserver)

def retryRegistration : WearDetectionObserver :=
  { observer with
    retryCount := 0
    threads := observer.threads ++ [.whileCondition] }

def registerSensorListener : WearDetectionObserver :=
  if observer.registered then observer
  else { observer with registered := true }.retryRegistration

def unRegisterSensorListener : WearDetectionObserver :=
  if observer.registered then
    { observer with registered := false, activated := false, subscribed := false }
  else observer

/-- A failed call; all threads count in one place. -/
def countRetry : WearDetectionObserver :=
  { observer with retryCount := observer.retryCount + 1 }

/-- What the thread does, and where it is afterwards, unless it has ended. -/
def retryTask (succeeds : Bool) : RetryPoint → Option RetryPoint × WearDetectionObserver
  | .whileCondition =>
      (some (if observer.retryCount < maxRetries then .subscribeSensor else .giveUp), observer)
  | .subscribeSensor =>
      if succeeds then (some .setBatch, { observer with subscribed := true })
      else (some .whileCondition, observer.countRetry)
  | .setBatch =>
      if succeeds then (some .activateSensor, observer)
      else (some .whileCondition, observer.countRetry)
  | .activateSensor =>
      if succeeds then (none, { observer with activated := true })
      else (some .whileCondition, observer.countRetry)
  | .giveUp => (none, { observer with registered := false })

/-- The threads after one of them has gone on, or ended. -/
def remaining (thread : Nat) : Option RetryPoint → List RetryPoint
  | none => observer.threads.eraseIdx thread
  | some next => observer.threads.set thread next

def retry (thread : Nat) (succeeds : Bool) : WearDetectionObserver :=
  match observer.threads[thread]? with
  | none => observer
  | some point =>
      let (next, after) := observer.retryTask succeeds point
      { after with threads := observer.remaining thread next }

/-- Calls run to their end, between the steps of the threads. -/
def machine : Machine WearDetectionObserver WearEvent where
  enabled observer event := match event with
    | .retry thread _ => thread < observer.threads.length
    | _ => True
  step observer event := match event with
    | .registerSensorListener => observer.registerSensorListener
    | .unRegisterSensorListener => observer.unRegisterSensorListener
    | .retry thread succeeds => observer.retry thread succeeds

instance : ∀ observer event, Decidable (machine.enabled observer event)
  | observer, .retry thread _ => inferInstanceAs (Decidable (thread < observer.threads.length))
  | _, .registerSensorListener | _, .unRegisterSensorListener => .isTrue trivial

/-- Without a running thread the flag tells whether the sensor is set up, and
without the flag there is no subscription. -/
def Accurate : Prop :=
  observer.threads = [] →
    (observer.registered = true ↔ observer.subscribed = true ∧ observer.activated = true) ∧
      (observer.registered = false → observer.subscribed = false)

/-- Where the thread is, if no other thread runs. -/
def lastThread (thread : Nat) : Option RetryPoint :=
  if observer.threads.length = 1 then observer.threads[thread]? else none

section Histories

variable (past : List WearEvent)

/-- Registered, and neither unregistered nor given up since. -/
def Flagged : Prop :=
  machine.Since (fun _ event => event = .registerSensorListener)
    (fun observer event => event = .unRegisterSensorListener ∨
      ∃ thread succeeds, event = .retry thread succeeds ∧
        observer.threads[thread]? = some .giveUp) idle past

/-- `SubscribeSensor` has succeeded, and no call that found the flag set has
unregistered since. -/
def Subscribed : Prop :=
  machine.Since
    (fun observer event => ∃ thread, event = .retry thread true ∧
      observer.threads[thread]? = some .subscribeSensor)
    (fun observer event => event = .unRegisterSensorListener ∧ observer.registered = true)
    idle past

/-- The last thread gives up only if nothing is subscribed, and sets the sensor up
only if the flag and the subscription go together. -/
def EndsWell : WearEvent → Prop
  | .retry thread succeeds =>
      match (machine.run idle past).lastThread thread with
      | some .giveUp => ¬ Subscribed past
      | some .activateSensor => succeeds = true → (Flagged past ↔ Subscribed past)
      | _ => True
  | _ => True

end Histories

section Steps

variable {observer : WearDetectionObserver} {thread : Nat} {succeeds : Bool} {point : RetryPoint}

theorem retry_eq (hpoint : observer.threads[thread]? = some point) :
    observer.retry thread succeeds =
      { (observer.retryTask succeeds point).2 with
        threads := observer.remaining thread (observer.retryTask succeeds point).1 } := by
  unfold retry
  rw [hpoint]

theorem registered_step (event : WearEvent) :
    (machine.step observer event).registered = true ↔ event = .registerSensorListener ∨
      (observer.registered = true ∧ ¬ (event = .unRegisterSensorListener ∨
        ∃ thread succeeds, event = .retry thread succeeds ∧
          observer.threads[thread]? = some .giveUp)) := by
  cases event with
  | registerSensorListener =>
      refine iff_of_true ?_ (Or.inl rfl)
      change observer.registerSensorListener.registered = true
      unfold registerSensorListener
      split
      next hset => exact hset
      next => rfl
  | unRegisterSensorListener =>
      refine iff_of_false ?_ ?_
      · change ¬ observer.unRegisterSensorListener.registered = true
        unfold unRegisterSensorListener
        split
        next => exact Bool.false_ne_true
        next hclear => exact hclear
      · rintro (hother | ⟨_, hkept⟩)
        · cases hother
        · exact hkept (Or.inl rfl)
  | retry thread succeeds =>
      change (observer.retry thread succeeds).registered = true ↔ _
      cases hpoint : observer.threads[thread]? with
      | none => simp [retry, hpoint]
      | some point =>
          rw [retry_eq hpoint]
          cases point <;> cases succeeds <;> simp [retryTask, countRetry, hpoint]

theorem subscribed_step (event : WearEvent) :
    (machine.step observer event).subscribed = true ↔
      (∃ thread, event = .retry thread true ∧
        observer.threads[thread]? = some .subscribeSensor) ∨
      (observer.subscribed = true ∧
        ¬ (event = .unRegisterSensorListener ∧ observer.registered = true)) := by
  cases event with
  | registerSensorListener =>
      change observer.registerSensorListener.subscribed = true ↔ _
      unfold registerSensorListener
      split <;> simp [retryRegistration]
  | unRegisterSensorListener =>
      change observer.unRegisterSensorListener.subscribed = true ↔ _
      unfold unRegisterSensorListener
      split
      next hset => simp [hset]
      next hclear => simp [hclear]
  | retry thread succeeds =>
      change (observer.retry thread succeeds).subscribed = true ↔ _
      cases hpoint : observer.threads[thread]? with
      | none => simp [retry, hpoint]
      | some point =>
          rw [retry_eq hpoint]
          cases point <;> cases succeeds <;> simp [retryTask, countRetry, hpoint]

theorem registered_run (past : List WearEvent) :
    (machine.run idle past).registered = true ↔ Flagged past :=
  @Machine.run_iff_since _ _ machine _ _ _ _ (fun observer => observer.registered = true)
    Bool.false_ne_true fun _ event => registered_step event

theorem subscribed_run (past : List WearEvent) :
    (machine.run idle past).subscribed = true ↔ Subscribed past :=
  @Machine.run_iff_since _ _ machine _ _ _ _ (fun observer => observer.subscribed = true)
    Bool.false_ne_true fun _ event => subscribed_step event

/-- While a thread runs there is nothing to keep. -/
theorem accurate_of_running (hrunning : observer.threads ≠ []) : observer.Accurate :=
  fun hnone => absurd hnone hrunning

theorem accurate_register (haccurate : observer.Accurate) :
    observer.registerSensorListener.Accurate := by
  unfold registerSensorListener
  split
  · exact haccurate
  · exact accurate_of_running (by simp [retryRegistration])

theorem accurate_unRegister (haccurate : observer.Accurate) :
    observer.unRegisterSensorListener.Accurate := by
  unfold unRegisterSensorListener
  split
  · exact fun _ => by simp
  · exact haccurate

theorem remaining_ne_nil (hpoint : observer.threads[thread]? = some point)
    (hothers : observer.threads.length ≠ 1) (next : Option RetryPoint) :
    observer.remaining thread next ≠ [] := by
  have hbound := (List.getElem?_eq_some_iff.mp hpoint).1
  apply List.ne_nil_of_length_pos
  cases next with
  | none =>
      simp only [remaining, List.length_eraseIdx, hbound, if_true]
      omega
  | some next =>
      simp only [remaining, List.length_set]
      omega

/-- Only the step that ends the last thread can leave the flag wrong. -/
theorem accurate_retry_iff (haccurate : observer.Accurate) :
    (observer.retry thread succeeds).Accurate ↔
      match observer.lastThread thread with
      | some .giveUp => ¬ observer.subscribed = true
      | some .activateSensor =>
          succeeds = true → (observer.registered = true ↔ observer.subscribed = true)
      | _ => True := by
  unfold lastThread
  cases hpoint : observer.threads[thread]? with
  | none =>
      rw [ite_self]
      unfold retry
      rw [hpoint]
      exact iff_of_true haccurate trivial
  | some point =>
      by_cases honly : observer.threads.length = 1
      · rw [if_pos honly, retry_eq hpoint]
        obtain ⟨only, hthreads⟩ := List.length_eq_one_iff.mp honly
        have hfirst : thread = 0 := by
          have hbound := (List.getElem?_eq_some_iff.mp hpoint).1
          omega
        cases point <;> cases succeeds <;>
          simp [Accurate, retryTask, remaining, countRetry, hthreads, hfirst]
        all_goals cases observer.registered <;> cases observer.subscribed <;> simp
      · rw [if_neg honly, retry_eq hpoint]
        exact iff_of_true (accurate_of_running (remaining_ne_nil hpoint honly _)) trivial

theorem accurate_concat {past : List WearEvent} (haccurate : (machine.run idle past).Accurate)
    (event : WearEvent) :
    (machine.run idle (past ++ [event])).Accurate ↔ EndsWell past event := by
  rw [machine.run_concat]
  cases event with
  | registerSensorListener => exact iff_of_true (accurate_register haccurate) trivial
  | unRegisterSensorListener => exact iff_of_true (accurate_unRegister haccurate) trivial
  | retry thread succeeds =>
      rw [EndsWell, ← subscribed_run, ← registered_run]
      exact accurate_retry_iff haccurate

end Steps

/-- The flag is accurate whenever no thread runs exactly if the last thread always
ends well. -/
theorem accurate_throughout_iff (events : List WearEvent) :
    (∀ past, past <+: events → (machine.run idle past).Accurate) ↔
      ∀ past event, past ++ [event] <+: events → EndsWell past event :=
  prefixes_iff (fun _ => by simp [idle]) fun _ event _ haccurate =>
    accurate_concat haccurate event

/-- The sensor is subscribed five times and `SetBatch` fails each time. -/
def batchFails : List WearEvent :=
  .registerSensorListener ::
    (List.replicate 5 [.retry 0 true, .retry 0 true, .retry 0 false]).flatten ++
      [.retry 0 true, .retry 0 true]

/-- The thread gives up and the subscription stays. -/
theorem subscription_left_behind :
    machine.Admits idle batchFails ∧
      ¬ ∀ past, past <+: batchFails → (machine.run idle past).Accurate := by
  constructor
  · decide
  · intro hall
    have hlast := (hall _ (List.prefix_refl _) (by decide)).2 (by decide)
    revert hlast
    decide

end WearDetectionObserver

end Screenlock
