import Screenlock.Foundation.History
import Screenlock.StrongAuth.Boot

/-! # Starting and stopping the service

Four notifications acquire what the service needs, and `OnStop` gives it back. It
returns at once unless the state is running, which only the display registration
brings about, possibly from a retry. Whatever the other notifications acquired
before then stays, and a registration that succeeds after the stop sets the state
again.
-/

namespace Screenlock

open Foundation

inductive ServiceRunningState where
  | notStart
  | running
  deriving DecidableEq, Repr

inductive OsAccountSubscribeType where
  | activated
  | removed
  | unlocked
  deriving DecidableEq, Repr

/-- An entry of the account or the identity service for an object of this service. -/
structure Subscription where
  subscriber : Nat
  /-- The start it was made in. -/
  start : Nat
  deriving DecidableEq, Repr

/-- What `OnStart` and the notifications acquire, with the entries the account
and the identity service hold for it. -/
structure Lifecycle where
  state : ServiceRunningState
  hasQueue : Bool
  hasInstance : Bool
  systemReady : Bool
  /-- The `times` of the attempts that wait for their delay. -/
  retries : List Nat
  displayPowerEventListener : Bool
  displayRegistered : Bool
  accountSubscribers : OsAccountSubscribeType → Option Nat
  subscriptions : List Subscription
  credChangeListener : Option Nat
  registrations : List Subscription
  authSuccessListener : Bool
  strongAuth : StrongAuthManger
  /-- The identity of the next object created. -/
  nextObject : Nat
  /-- How often the service was started. -/
  starts : Nat

inductive LifecycleEvent where
  | onStart
  | onAddDisplay (registered : Bool)
  | onAddAccount (subscribed : OsAccountSubscribeType → Bool)
  | onAddUserIdm (registered : Bool)
  | onAddUserAuth
  | onRemoveUserIdm (unregistered : Bool)
  | onRemoveUserAuth
  /-- A delayed attempt runs. -/
  | retryDisplay (times : Nat) (registered : Bool)
  /-- Any caller of `GetInstance`, the retry of `Init` among them. -/
  | getInstance
  | strongAuth (env : Environment) (event : StrongAuthEvent)
  | onStop (unsubscribed : OsAccountSubscribeType → Bool) (unregistered : Bool)

namespace LifecycleEvent

def starts : LifecycleEvent → Bool
  | onStart => true
  | _ => false

def stops : LifecycleEvent → Bool
  | onStop _ _ => true
  | _ => false

/-- A display registration succeeds, at once or in a retry. -/
def registersDisplay : LifecycleEvent → Bool
  | onAddDisplay registered | retryDisplay _ registered => registered
  | _ => false

end LifecycleEvent

namespace Lifecycle

def maxRetryTimes : Nat := 20

/-- The ability as it is constructed. -/
def constructed : Lifecycle where
  state := .notStart
  hasQueue := false
  hasInstance := false
  systemReady := false
  retries := []
  displayPowerEventListener := false
  displayRegistered := false
  accountSubscribers _ := none
  subscriptions := []
  credChangeListener := none
  registrations := []
  authSuccessListener := false
  strongAuth := .empty
  nextObject := 0
  starts := 0

section Handlers

/-- `OnStart`; `Init` publishes the instance, and its retry changes nothing but that. -/
def onStart (life : Lifecycle) : Lifecycle :=
  let entered := { life with hasInstance := true }
  if life.state = .running then entered
  else { entered with hasQueue := true, starts := life.starts + 1 }

def registerDisplayPowerEventListener (times : Nat) (registered : Bool) (life : Lifecycle) :
    Lifecycle :=
  let attempted :=
    { life with
      systemReady := registered
      displayRegistered := life.displayRegistered || registered }
  if registered = false ∧ times + 1 ≤ maxRetryTimes then
    if life.hasQueue then { attempted with retries := attempted.retries ++ [times + 1] }
    else attempted
  else if registered then { attempted with state := .running }
  else attempted

/-- The subscriber is kept whether or not the account service accepted it. -/
def subscribeAcccount (subscribed : OsAccountSubscribeType → Bool)
    (subscribeType : OsAccountSubscribeType) (life : Lifecycle) : Lifecycle :=
  { life with
    accountSubscribers :=
      Function.update life.accountSubscribers subscribeType (some life.nextObject)
    subscriptions :=
      if subscribed subscribeType then ⟨life.nextObject, life.starts⟩ :: life.subscriptions
      else life.subscriptions
    nextObject := life.nextObject + 1 }

def initUserId (subscribed : OsAccountSubscribeType → Bool) (life : Lifecycle) : Lifecycle :=
  ((life.subscribeAcccount subscribed .activated).subscribeAcccount subscribed
    .removed).subscribeAcccount subscribed .unlocked

def registIamEventListener (registered : Bool) (life : Lifecycle) : Lifecycle :=
  let listener := life.credChangeListener.getD life.nextObject
  { life with
    credChangeListener := some listener
    registrations :=
      if registered then ⟨listener, life.starts⟩ :: life.registrations else life.registrations
    nextObject := life.nextObject + 1 }

def unRegistIamEventListener (unregistered : Bool) (life : Lifecycle) : Lifecycle :=
  match life.credChangeListener with
  | none => life
  | some listener =>
      { life with
        credChangeListener := none
        registrations :=
          if unregistered then
            life.registrations.filter fun registration => registration.subscriber ≠ listener
          else life.registrations }

/-- The loop over `accountSubscribers_`. The entries stay in the map. -/
def unsubscribeOsAccounts (unsubscribed : OsAccountSubscribeType → Bool) (life : Lifecycle) :
    Lifecycle :=
  let gone (subscription : Subscription) (subscribeType : OsAccountSubscribeType) : Bool :=
    unsubscribed subscribeType &&
      life.accountSubscribers subscribeType = some subscription.subscriber
  { life with
    subscriptions := life.subscriptions.filter fun subscription =>
      !(gone subscription .activated || gone subscription .removed || gone subscription .unlocked) }

/-- What `OnStop` does itself; `cancels` tells whether releasing the queue drops what
is still waiting on it. -/
def release (cancels : Bool) (life : Lifecycle) : Lifecycle :=
  { life with
    state := .notStart
    hasQueue := false
    retries := if cancels then [] else life.retries
    hasInstance := false
    displayRegistered := life.displayRegistered && !life.displayPowerEventListener }

def destroyAllStrongAuthTimer (life : Lifecycle) : Lifecycle :=
  { life with strongAuth := life.strongAuth.destroyAllStrongAuthTimer }

def onStop (cancels : Bool) (unsubscribed : OsAccountSubscribeType → Bool) (unregistered : Bool)
    (life : Lifecycle) : Lifecycle :=
  if life.state ≠ .running then life
  else
    (((life.release cancels).unRegistIamEventListener
      unregistered).destroyAllStrongAuthTimer).unsubscribeOsAccounts unsubscribed

end Handlers

/-- The events in any order. Retries run that were submitted, and timers are
created under fresh ids. -/
def machine (cancels : Bool) : Machine Lifecycle LifecycleEvent where
  enabled life
    | .retryDisplay times _ => times ∈ life.retries
    | .strongAuth env event =>
        env.createdTimer ≠ 0 ∧ life.strongAuth.Fresh env.createdTimer ∧
          event ≠ .destroyAllStrongAuthTimer
    | _ => True
  step life
    | .onStart => life.onStart
    | .onAddDisplay registered =>
        { life with displayPowerEventListener := true }.registerDisplayPowerEventListener 0
          registered
    | .onAddAccount subscribed => life.initUserId subscribed
    | .onAddUserIdm registered => life.registIamEventListener registered
    | .onAddUserAuth => { life with authSuccessListener := true }
    | .onRemoveUserIdm unregistered => life.unRegistIamEventListener unregistered
    | .onRemoveUserAuth => { life with authSuccessListener := false }
    | .retryDisplay times registered =>
        { life with retries := life.retries.erase times }.registerDisplayPowerEventListener times
          registered
    | .getInstance => { life with hasInstance := true }
    | .strongAuth env event => { life with strongAuth := life.strongAuth.step (env, event) }
    | .onStop unsubscribed unregistered => life.onStop cancels unsubscribed unregistered

/-- Nothing of the last start is left. -/
structure Stopped (life : Lifecycle) : Prop where
  queue : life.hasQueue = false
  inst : life.hasInstance = false
  account : ∀ subscription ∈ life.subscriptions, subscription.start ≠ life.starts
  credChange : ∀ registration ∈ life.registrations, registration.start ≠ life.starts
  timers : ∀ timerId userId, ¬ life.strongAuth.Live timerId userId

/-- The service still knows the subscribers of the last start, and the account and
the identity service remove them when asked. -/
structure Removable (unsubscribed : OsAccountSubscribeType → Bool) (unregistered : Bool)
    (life : Lifecycle) : Prop where
  account : ∀ subscription ∈ life.subscriptions, subscription.start = life.starts →
    ∃ subscribeType, unsubscribed subscribeType = true ∧
      life.accountSubscribers subscribeType = some subscription.subscriber
  credChange : ∀ registration ∈ life.registrations, registration.start = life.starts →
    unregistered = true ∧ life.credChangeListener = some registration.subscriber

section Release

variable {life : Lifecycle} {unsubscribed : OsAccountSubscribeType → Bool} {unregistered : Bool}

theorem mem_unsubscribeOsAccounts {subscription : Subscription} :
    subscription ∈ (life.unsubscribeOsAccounts unsubscribed).subscriptions ↔
      subscription ∈ life.subscriptions ∧
        ¬ ∃ subscribeType, unsubscribed subscribeType = true ∧
          life.accountSubscribers subscribeType = some subscription.subscriber := by
  have htypes : ∀ kept : OsAccountSubscribeType → Prop,
      (∃ subscribeType, kept subscribeType) ↔
        kept .activated ∨ kept .removed ∨ kept .unlocked := by
    intro kept
    constructor
    · rintro ⟨_ | _ | _, hkept⟩
      · exact Or.inl hkept
      · exact Or.inr (Or.inl hkept)
      · exact Or.inr (Or.inr hkept)
    · rintro (hkept | hkept | hkept) <;> exact ⟨_, hkept⟩
  rw [htypes, unsubscribeOsAccounts, List.mem_filter]
  simp only [Bool.not_eq_true', ← Bool.not_eq_true, Bool.or_eq_true, Bool.and_eq_true,
    decide_eq_true_eq, or_assoc]

/-- Nothing of the last start is left in a list after a removal exactly if the
removal reaches every entry of the last start. -/
theorem removed_iff {kept before : List Subscription} {start : Nat}
    {removes : Subscription → Prop}
    (hkept : ∀ subscription, subscription ∈ kept ↔
      subscription ∈ before ∧ ¬ removes subscription) :
    (∀ subscription ∈ kept, subscription.start ≠ start) ↔
      ∀ subscription ∈ before, subscription.start = start → removes subscription := by
  constructor
  · intro hnone subscription hmem hstart
    by_contra hmissed
    exact hnone subscription ((hkept subscription).mpr ⟨hmem, hmissed⟩) hstart
  · intro hall subscription hmem hstart
    obtain ⟨hbefore, hmissed⟩ := (hkept subscription).mp hmem
    exact hmissed (hall subscription hbefore hstart)

theorem mem_unRegistIamEventListener {registration : Subscription} :
    registration ∈ (life.unRegistIamEventListener unregistered).registrations ↔
      registration ∈ life.registrations ∧
        ¬ (unregistered = true ∧ life.credChangeListener = some registration.subscriber) := by
  unfold unRegistIamEventListener
  cases hlistener : life.credChangeListener with
  | none => simp
  | some listener =>
      cases unregistered with
      | false => simp
      | true => simp [@eq_comm Nat listener]

/-- Taking the listener back changes only what is kept of it. -/
theorem unRegistIamEventListener_eq :
    life.unRegistIamEventListener unregistered =
      { life with
        credChangeListener := none
        registrations := (life.unRegistIamEventListener unregistered).registrations } := by
  unfold unRegistIamEventListener
  split
  next hnone => rw [← hnone]
  next => rfl

variable {cancels : Bool}

/-- A stop leaves nothing exactly if it removes every entry of the last start, or,
returning at once, has nothing to remove. -/
theorem onStop_stopped_iff (htimers : life.strongAuth.TimersOnRecord) :
    (life.onStop cancels unsubscribed unregistered).Stopped ↔
      if life.state = .running then life.Removable unsubscribed unregistered
      else life.Stopped := by
  unfold onStop
  by_cases hrunning : life.state = .running
  · rw [if_neg (not_not_intro hrunning), if_pos hrunning]
    have haccount := @removed_iff _ _ life.starts _ fun _ =>
      @mem_unsubscribeOsAccounts (((life.release cancels).unRegistIamEventListener
        unregistered).destroyAllStrongAuthTimer) unsubscribed _
    have hcred := @removed_iff _ _ life.starts _ fun _ =>
      @mem_unRegistIamEventListener (life.release cancels) unregistered _
    rw [unRegistIamEventListener_eq] at haccount ⊢
    constructor
    · intro hstopped
      exact ⟨haccount.mp hstopped.account, hcred.mp hstopped.credChange⟩
    · intro hremovable
      exact ⟨rfl, rfl, haccount.mpr hremovable.account, hcred.mpr hremovable.credChange,
        htimers.not_live_destroyAll⟩
  · rw [if_pos hrunning, if_neg hrunning]

theorem onStop_state : (life.onStop cancels unsubscribed unregistered).state = .notStart := by
  unfold onStop
  split
  next hidle =>
    cases hstate : life.state with
    | notStart => rfl
    | running => exact absurd hstate hidle
  next =>
    rw [unRegistIamEventListener_eq]
    rfl

end Release

section Steps

variable {cancels : Bool} {life : Lifecycle} {event : LifecycleEvent}

/-- An attempt changes only what is known of the display, and the state if it succeeds. -/
theorem registerDisplayPowerEventListener_eq (times : Nat) (registered : Bool)
    (life : Lifecycle) :
    life.registerDisplayPowerEventListener times registered =
      { life with
        state := if registered then .running else life.state
        systemReady := registered
        retries := (life.registerDisplayPowerEventListener times registered).retries
        displayRegistered := life.displayRegistered || registered } := by
  unfold registerDisplayPowerEventListener
  cases registered with
  | true => rfl
  | false =>
      simp only [true_and, Bool.false_eq_true, if_false]
      split
      · split <;> rfl
      · rfl

theorem step_state (hkept : event.stops = false) :
    ((machine cancels).step life event).state =
      if event.registersDisplay then .running else life.state := by
  cases event with
  | onStart =>
      change life.onStart.state = life.state
      unfold onStart
      split <;> rfl
  | onAddDisplay registered | retryDisplay times registered =>
      change (registerDisplayPowerEventListener _ registered _).state = _
      rw [registerDisplayPowerEventListener_eq]
      rfl
  | onRemoveUserIdm unregistered =>
      change (life.unRegistIamEventListener unregistered).state = life.state
      rw [unRegistIamEventListener_eq]
  | onStop unsubscribed unregistered => cases hkept
  | _ => rfl

/-- Only a start makes the queue, and only a stop of the running service drops it. -/
theorem step_hasQueue (life : Lifecycle) (event : LifecycleEvent) :
    ((machine cancels).step life event).hasQueue = true ↔
      (event.starts = true ∧ life.state ≠ .running) ∨
        (life.hasQueue = true ∧ ¬ (event.stops = true ∧ life.state = .running)) := by
  cases event with
  | onStart =>
      change life.onStart.hasQueue = true ↔ _
      unfold onStart
      split
      next hrunning => simp [LifecycleEvent.starts, LifecycleEvent.stops, hrunning]
      next hidle => simp [LifecycleEvent.starts, hidle]
  | onAddDisplay registered | retryDisplay times registered =>
      change (registerDisplayPowerEventListener _ registered _).hasQueue = true ↔ _
      rw [registerDisplayPowerEventListener_eq]
      simp [LifecycleEvent.starts, LifecycleEvent.stops]
  | onRemoveUserIdm unregistered =>
      change (life.unRegistIamEventListener unregistered).hasQueue = true ↔ _
      rw [unRegistIamEventListener_eq]
      simp [LifecycleEvent.starts, LifecycleEvent.stops]
  | onStop unsubscribed unregistered =>
      change (life.onStop cancels unsubscribed unregistered).hasQueue = true ↔ _
      unfold onStop
      split
      next hidle => simp [LifecycleEvent.starts, LifecycleEvent.stops, hidle]
      next hrunning =>
        rw [unRegistIamEventListener_eq]
        simp [LifecycleEvent.starts, LifecycleEvent.stops, not_not.mp hrunning,
          unsubscribeOsAccounts, destroyAllStrongAuthTimer, release]
  | _ => simp [machine, LifecycleEvent.starts, LifecycleEvent.stops, initUserId,
      subscribeAcccount, registIamEventListener]

theorem timersOnRecord_step (henabled : (machine cancels).enabled life event)
    (htimers : life.strongAuth.TimersOnRecord) :
    ((machine cancels).step life event).strongAuth.TimersOnRecord := by
  cases event with
  | onStart =>
      change life.onStart.strongAuth.TimersOnRecord
      unfold onStart
      split <;> exact htimers
  | onAddDisplay registered | retryDisplay times registered =>
      change (registerDisplayPowerEventListener _ registered _).strongAuth.TimersOnRecord
      rw [registerDisplayPowerEventListener_eq]
      exact htimers
  | onRemoveUserIdm unregistered =>
      change (life.unRegistIamEventListener unregistered).strongAuth.TimersOnRecord
      rw [unRegistIamEventListener_eq]
      exact htimers
  | strongAuth env entry => exact htimers.step henabled.1 henabled.2.1
  | onStop unsubscribed unregistered =>
      change (life.onStop cancels unsubscribed unregistered).strongAuth.TimersOnRecord
      unfold onStop
      split
      next => exact htimers
      next =>
        rw [unRegistIamEventListener_eq]
        exact htimers.destroyAll
  | _ => exact htimers

end Steps

section Runs

variable {cancels : Bool} {events past : List LifecycleEvent} {event : LifecycleEvent}

/-- `OnStop` has come, and no `OnStart` since. -/
def StoppedSince (cancels : Bool) (past : List LifecycleEvent) : Prop :=
  (machine cancels).Since (fun _ event => event.stops = true)
    (fun _ event => event.starts = true) constructed past

/-- After `OnStop` nothing is left, and the state stays not started until `OnStart`. -/
structure StopsService (cancels : Bool) (past : List LifecycleEvent) : Prop where
  stopped : ∀ event, past.getLast? = some event → event.stops = true →
    ((machine cancels).run constructed past).Stopped
  notStart : StoppedSince cancels past → ((machine cancels).run constructed past).state = .notStart

/-- A stop of the running service can remove every entry of the last start, any other
stop finds nothing to give back, and the display registration does not succeed between
a stop and the next start. -/
def MayStop (cancels : Bool) (past : List LifecycleEvent) : LifecycleEvent → Prop
  | .onStop unsubscribed unregistered =>
      let life := (machine cancels).run constructed past
      if life.state = .running then life.Removable unsubscribed unregistered else life.Stopped
  | event => event.registersDisplay = true → ¬ StoppedSince cancels past

theorem timersOnRecord_run (hadmits : (machine cancels).Admits constructed events) :
    ((machine cancels).run constructed events).strongAuth.TimersOnRecord :=
  (machine cancels).run_invariant
    (fun _ _ henabled hheld => timersOnRecord_step henabled hheld) hadmits .empty

/-- The service was started, and no stop has found it running since. -/
def StartedSince (cancels : Bool) (past : List LifecycleEvent) : Prop :=
  (machine cancels).Since (fun life event => event.starts = true ∧ life.state ≠ .running)
    (fun life event => event.stops = true ∧ life.state = .running) constructed past

theorem hasQueue_iff_startedSince :
    ((machine cancels).run constructed past).hasQueue = true ↔ StartedSince cancels past :=
  @Machine.run_iff_since _ _ (machine cancels) _ _ _ _ (fun life => life.hasQueue = true)
    Bool.false_ne_true step_hasQueue

/-- A stop that comes between the start and the first display registration to
succeed stops nothing, whatever else has been notified. -/
theorem not_mayStop_of_starting {unsubscribed : OsAccountSubscribeType → Bool}
    {unregistered : Bool} (hstarted : StartedSince cancels past)
    (hidle : ((machine cancels).run constructed past).state ≠ .running) :
    ¬ MayStop cancels past (.onStop unsubscribed unregistered) := by
  intro hmay
  rw [MayStop] at hmay
  have hstopped : ((machine cancels).run constructed past).Stopped := by
    simpa only [if_neg hidle] using hmay
  have hqueue := hstopped.queue
  rw [hasQueue_iff_startedSince.mpr hstarted] at hqueue
  cases hqueue

theorem mayStop_of_kept (hkept : event.stops = false) :
    MayStop cancels past event ↔ (event.registersDisplay = true → ¬ StoppedSince cancels past) := by
  cases event with
  | onStop unsubscribed unregistered => cases hkept
  | _ => exact Iff.rfl

theorem stopsService_concat_of_kept (hkept : event.stops = false)
    (hstops : StopsService cancels past) :
    StopsService cancels (past ++ [event]) ↔
      (event.registersDisplay = true → ¬ StoppedSince cancels past) := by
  have hsince : StoppedSince cancels (past ++ [event]) ↔
      StoppedSince cancels past ∧ event.starts = false := by
    rw [StoppedSince, Machine.since_concat]
    simp only [hkept, Bool.false_eq_true, false_or, Bool.not_eq_true]
    exact Iff.rfl
  have hstate := @step_state cancels ((machine cancels).run constructed past) event hkept
  rw [← Machine.run_concat] at hstate
  constructor
  · intro hafter hregisters hbefore
    have hidle : event.starts = false := by
      cases event with
      | onStart => cases hregisters
      | _ => rfl
    have hnotstart := hafter.notStart (hsince.mpr ⟨hbefore, hidle⟩)
    rw [hstate, if_pos hregisters] at hnotstart
    cases hnotstart
  · intro hquiet
    refine ⟨fun last hlast hlaststops => ?_, fun hlater => ?_⟩
    · obtain rfl : event = last := by simpa using hlast
      rw [hkept] at hlaststops
      cases hlaststops
    · obtain ⟨hbefore, _⟩ := hsince.mp hlater
      rw [hstate, if_neg fun hregisters => hquiet hregisters hbefore]
      exact hstops.notStart hbefore

theorem stopsService_concat (hadmits : (machine cancels).Admits constructed past)
    (hstops : StopsService cancels past) :
    StopsService cancels (past ++ [event]) ↔ MayStop cancels past event := by
  cases hstop : event.stops with
  | false => rw [mayStop_of_kept hstop, stopsService_concat_of_kept hstop hstops]
  | true =>
      cases event with
      | onStop unsubscribed unregistered =>
          rw [MayStop, ← onStop_stopped_iff (timersOnRecord_run hadmits)]
          constructor
          · intro hafter
            have hstopped := hafter.stopped _ List.getLast?_concat rfl
            rwa [Machine.run_concat] at hstopped
          · intro hstopped
            refine ⟨fun _ _ _ => ?_, fun _ => ?_⟩
            · rwa [Machine.run_concat]
            · rw [Machine.run_concat]
              exact onStop_state
      | _ => cases hstop

/-- In every run each `OnStop` stops the service, until the next `OnStart`, exactly if
each comes to a running service whose subscribers of the last start are all known and
removed, or to one with nothing to give back, and no display registration succeeds
while the service is stopped. -/
theorem stopsService_throughout_iff (hadmits : (machine cancels).Admits constructed events) :
    (∀ before, before <+: events → StopsService cancels before) ↔
      ∀ before event, before ++ [event] <+: events → MayStop cancels before event := by
  apply prefixes_iff
  · refine ⟨fun event hlast => ?_, fun hsince => absurd hsince Machine.not_since_nil⟩
    cases hlast
  · rintro past event ⟨rest, rfl⟩ hstops
    rw [List.append_assoc] at hadmits
    exact stopsService_concat (((machine cancels).steps_append _ _ _ _).mp hadmits).1 hstops

end Runs

section StartUp

/-- The display registers on the second attempt, and the stop comes after it. -/
def startedAndStopped : List LifecycleEvent :=
  [.onStart, .onAddDisplay false, .onAddAccount fun _ => true, .onAddUserIdm true,
    .strongAuth (StrongAuthManger.creating 5) (.credentialInfo 100 .success [⟨1⟩]),
    .retryDisplay 1 true, .onStop (fun _ => true) true, .onStart]

theorem startedAndStopped_stops_iff :
    (∀ before, before <+: startedAndStopped → StopsService true before) ↔
      ∀ before event, before ++ [event] <+: startedAndStopped → MayStop true before event := by
  refine stopsService_throughout_iff ⟨trivial, trivial, trivial, trivial, ⟨?_, ?_, ?_⟩,
    List.mem_singleton_self _, trivial, trivial, trivial⟩
  · decide
  · exact (StrongAuthManger.fresh_iff _ _).mpr (by decide)
  · exact fun hevent => by cases hevent

/-- The stop comes before the second attempt. It returns at once, everything
stays, and the retry sets the state to running. -/
def stoppedWhileStarting : List LifecycleEvent :=
  [.onStart, .onAddDisplay false, .onAddAccount fun _ => true, .onStop (fun _ => true) true,
    .retryDisplay 1 true]

theorem stop_while_starting_stops_nothing :
    (machine true).Admits constructed stoppedWhileStarting ∧
      ¬ ∀ before, before <+: stoppedWhileStarting → StopsService true before := by
  refine ⟨⟨trivial, trivial, trivial, trivial, List.mem_singleton_self _, trivial⟩, fun hall => ?_⟩
  have hstopped := (hall _ (List.take_prefix 4 _)).stopped _ rfl rfl
  exact absurd hstopped.queue (by decide)

end StartUp

end Lifecycle

end Screenlock
