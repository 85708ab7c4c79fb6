import Screenlock.Client.LockScreenApplication
import Screenlock.Service.Waiting

/-! # Requests, the application and its reports

A request to unlock or lock the screen waits in the service until the application
reports a result. The application is asked once for each request, and reports once for
each time it is asked. While a request waits, something that will answer it is on its way.
-/

namespace Screenlock

open Foundation ScreenLockSystemAbilityInterface ScreenlockSystemAbilityCallback

namespace WaitingListeners

variable (now : Nat) (waiting : WaitingListeners)

/-- The tasks that are submitted and have not run. -/
def tasks : Nat := waiting.lockTasks.length + waiting.unlockTasks.length

theorem tasks_submitLockTask_le (stateResult : Int) :
    (waiting.submitLockTask now stateResult).tasks ≤ waiting.tasks + 1 := by
  unfold submitLockTask
  split
  · exact Nat.le_succ _
  · simp only [tasks, List.length_append, List.length_singleton]
    omega

theorem tasks_notifyUnlockListener_le (screenLockResult : Int) (curUserId : UserId) :
    (waiting.notifyUnlockListener now screenLockResult curUserId).tasks ≤ waiting.tasks + 1 := by
  unfold notifyUnlockListener
  split
  · exact Nat.le_succ _
  · simp only [tasks, List.length_append, List.length_singleton]
    omega

/-- A report submits at most one task. -/
theorem tasks_submitReport_le (userId : UserId) (event : String) (param : Int) :
    (ScreenLockSystemAbility.submitReport now userId event param waiting).tasks ≤
      waiting.tasks + 1 := by
  unfold ScreenLockSystemAbility.submitReport
  split
  · split
    · exact waiting.tasks_notifyUnlockListener_le now _ _
    · split
      · exact Nat.le_succ _
      · exact waiting.tasks_notifyUnlockListener_le now _ _
  · split
    · exact waiting.tasks_submitLockTask_le now _
    · exact Nat.le_succ _

variable {now waiting} {reportedAt : Nat}

/-- A task that runs is gone. -/
theorem length_filter_task_lt {β : Type} {tasks : List (Nat × β)} {result : β}
    (htask : (reportedAt, result) ∈ tasks) :
    (tasks.filter fun task => task.1 ≠ reportedAt).length < tasks.length :=
  List.length_filter_lt_length_iff_exists.mpr ⟨_, htask, by simp⟩

theorem lookup_task_ne_none {β : Type} {tasks : List (Nat × β)} {result : β}
    (htask : (reportedAt, result) ∈ tasks) : tasks.lookup reportedAt ≠ none := fun hnone => by
  have hne := List.lookup_eq_none_iff.mp hnone _ htask
  simp at hne

theorem tasks_runLockTask_lt {result : Int} (htask : (reportedAt, result) ∈ waiting.lockTasks) :
    (waiting.runLockTask now reportedAt).tasks < waiting.tasks := by
  obtain ⟨found, hfound⟩ := Option.ne_none_iff_exists'.mp (lookup_task_ne_none htask)
  have hlength := length_filter_task_lt htask
  simp only [runLockTask, hfound, tasks]
  omega

theorem tasks_runUnlockTask_lt {isScreenlockedMap : Std.TreeMap UserId Bool}
    {result : Int × UserId} (htask : (reportedAt, result) ∈ waiting.unlockTasks) :
    (waiting.runUnlockTask now isScreenlockedMap reportedAt).tasks < waiting.tasks := by
  obtain ⟨found, hfound⟩ := Option.ne_none_iff_exists'.mp (lookup_task_ne_none htask)
  have hlength := length_filter_task_lt htask
  simp only [runUnlockTask, hfound, tasks]
  omega

end WaitingListeners

/-- The service beside an application that owes it reports. -/
structure Handshake where
  told : Relayed PoweredService (Nat × Parcel Empty) EventObject
  /-- The calls of its function that have asked and are not reported on. -/
  due : List EventObject

/-- Anything the service and the application do. A report is on one of the calls. -/
inductive HandshakeEvent where
  | application (event : ApplicationEvent)
  | report (call : EventObject) (env : Environment) (caller : Caller) (result : Int)

namespace EventObject

def lockAsk : EventObject := SystemEvent.object { eventType := SystemEvent.lockscreen }

def unlockAsk : EventObject := SystemEvent.object { eventType := SystemEvent.unlockscreen }

/-- The event a report on the call comes with. -/
def resultEvent (call : EventObject) : String :=
  if call.eventType = SystemEvent.unlockscreen then unlockScreenResult else lockScreenResult

end EventObject

namespace HandshakeEvent

/-- The call of `SendScreenLockEvent`. -/
def reporting (call : EventObject) (env : Environment) (caller : Caller) (result : Int) :
    ServiceEvent :=
  .call env caller (.sendScreenLockEvent call.resultEvent result)

/-- What enters the service. -/
def service? : HandshakeEvent → Option PoweredEvent
  | application event => event.service?
  | report call env caller result => some (.service (reporting call env caller result))

/-- The report passes the checks, and one on an unlock passes a result on. -/
def Answers : HandshakeEvent → Prop
  | application _ => True
  | report call _ caller result =>
      ScreenLockSystemAbility.mayControl caller = true ∧
        (call = EventObject.unlockAsk → ScreenLockSystemAbility.unlockResult result ≠ none)

/-- The event only carries on what has been begun. -/
def Internal : HandshakeEvent → Prop
  | application .serve | application .runTask | report .. => True
  | application (.service (.service (.runLockTask _)))
  | application (.service (.service (.runUnlockTask _))) => True
  | application (.service _) => False

end HandshakeEvent

/-- A kind of requests that wait: what asks for them, and the queue they wait in. -/
structure RequestKind (α β : Type) where
  ask : EventObject
  queue : Nat → WaitingListeners → BatchQueue α β
  event : ServiceEvent → QueueEvent α β
  asking : PoweredService.asking ask.eventType = true
  queue_step : ∀ (ability : ScreenLockSystemAbility) entry, ability.waiting.Aligned →
    queue (ability.step entry).clock (ability.step entry).waiting =
      (queue ability.clock ability.waiting).step (event entry)
  asks : ∀ (ability : ScreenLockSystemAbility) entry, (event entry).pushed ≠ [] →
    ∃ asked, ability.askedBy entry = some asked ∧ asked.object = ask
  reports : ∀ env caller result, HandshakeEvent.Answers (.report ask env caller result) →
    ∃ reported, event (HandshakeEvent.reporting ask env caller result) = .report reported
  tasks_nil : ∀ now waiting, waiting.tasks = 0 → (queue now waiting).tasks = []

namespace RequestKind

open ScreenLockSystemAbility

def lock : RequestKind ScreenLockCallback Int where
  ask := .lockAsk
  queue now waiting := waiting.lockQueue now
  event := lockEvent
  asking := rfl
  queue_step ability entry _ := ability.lockQueue_step entry
  asks ability entry hpushed := by
    cases entry with
    | call env caller request =>
        cases request with
        | lock waiter =>
            rw [lockEvent] at hpushed
            split at hpushed
            next hcontrol => exact ⟨_, if_pos hcontrol, rfl⟩
            next => exact absurd rfl hpushed
        | sendScreenLockEvent event param =>
            rw [lockEvent] at hpushed
            split at hpushed <;> exact absurd rfl hpushed
        | _ => exact absurd rfl hpushed
    | _ => exact absurd rfl hpushed
  reports env caller result hanswers := ⟨result, if_pos ⟨hanswers.1, rfl⟩⟩
  tasks_nil _ _ hnone := List.length_eq_zero_iff.mp (Nat.add_eq_zero_iff.mp hnone).1

def unlock : RequestKind (ScreenLockCallback × UserId) (Int × UserId) where
  ask := .unlockAsk
  queue now waiting := waiting.unlockQueue now
  event := unlockEvent
  asking := rfl
  queue_step ability entry haligned := ability.unlockQueue_step entry haligned
  asks ability entry hpushed := by
    cases entry with
    | call env caller request =>
        cases request with
        | unlockScreen waiter | unlock waiter =>
            rw [unlockEvent] at hpushed
            split at hpushed
            next hmay => exact ⟨_, if_pos hmay, rfl⟩
            next => exact absurd rfl hpushed
        | sendScreenLockEvent event param =>
            rw [unlockEvent] at hpushed
            split at hpushed
            · split at hpushed <;> exact absurd rfl hpushed
            · exact absurd rfl hpushed
        | _ => exact absurd rfl hpushed
    | _ => exact absurd rfl hpushed
  reports env caller result hanswers := by
    obtain ⟨passed, hpassed⟩ := Option.ne_none_iff_exists'.mp (hanswers.2 rfl)
    refine ⟨(passed, env.userIdFromCallingUid caller), ?_⟩
    refine (if_pos ⟨hanswers.1, rfl⟩).trans ?_
    rw [hpassed]
  tasks_nil _ _ hnone := List.length_eq_zero_iff.mp (Nat.add_eq_zero_iff.mp hnone).2

section Queues

variable {α β : Type} (kind : RequestKind α β)

/-- The requests of the kind in the service. -/
def requestsOf (ability : ScreenLockSystemAbility) : BatchQueue α β :=
  kind.queue ability.clock ability.waiting

/-- The requests that an entry makes. -/
def pushed : PoweredEvent → List α
  | .service entry => (kind.event entry).pushed
  | _ => []

/-- Only a call, a notification or a task touches the waiting requests. -/
theorem step_waiting_of_display (service : PoweredService) {event : PoweredEvent}
    (hdisplay : ∀ entry, event ≠ .service entry) :
    (service.step event).ability.clock = service.ability.clock ∧
      (service.step event).ability.waiting = service.ability.waiting := by
  cases event with
  | service entry => exact absurd rfl (hdisplay entry)
  | displayPower event status => cases event <;> cases status <;> exact ⟨rfl, rfl⟩
  | userIamReady key value =>
      rw [PoweredService.step, PoweredService.userIamReadyCallback]
      split <;> exact ⟨rfl, rfl⟩
  | runTask finds =>
      rw [PoweredService.step, PoweredService.runTask]
      split
      · split <;> exact ⟨rfl, rfl⟩
      · exact ⟨rfl, rfl⟩
      · exact ⟨rfl, rfl⟩

variable {service : PoweredService}

theorem aligned_step (haligned : service.ability.waiting.Aligned) (event : PoweredEvent) :
    (service.step event).ability.waiting.Aligned := by
  by_cases hservice : ∃ entry, event = .service entry
  · obtain ⟨entry, rfl⟩ := hservice
    exact service.ability.aligned_step entry haligned
  · rw [(step_waiting_of_display service (not_exists.mp hservice)).2]
    exact haligned

theorem requestsOf_step_of_display {event : PoweredEvent}
    (hdisplay : ∀ entry, event ≠ .service entry) :
    kind.requestsOf (service.step event).ability = kind.requestsOf service.ability := by
  obtain ⟨hclock, hwaiting⟩ := step_waiting_of_display service hdisplay
  rw [requestsOf, requestsOf, hclock, hwaiting]

/-- Requests of a kind are completed in the order in which they are made. -/
theorem entries_step (haligned : service.ability.waiting.Aligned) (event : PoweredEvent) :
    (kind.requestsOf (service.step event).ability).entries =
      (kind.requestsOf service.ability).entries ++ kind.pushed event := by
  by_cases hservice : ∃ entry, event = .service entry
  · obtain ⟨entry, rfl⟩ := hservice
    have hstep := kind.queue_step service.ability entry haligned
    rw [requestsOf, PoweredService.step, hstep]
    exact BatchQueue.entries_step _ _
  · rw [kind.requestsOf_step_of_display (not_exists.mp hservice)]
    cases event with
    | service entry => exact absurd ⟨entry, rfl⟩ hservice
    | displayPower | userIamReady | runTask => exact (List.append_nil _).symm

/-- What waits unanswered after an entry has just asked, or waited so before. -/
theorem unanswered_step {listener : SystemEventListener}
    (hlistener : service.ability.systemEventListener = some listener)
    (haligned : service.ability.waiting.Aligned) {event : PoweredEvent}
    (hunanswered : (kind.requestsOf (service.step event).ability).Unanswered) :
    kind.ask ∈ (service.told listener event).map SystemEvent.object ∨
      (kind.requestsOf service.ability).Unanswered ∧
        ∀ entry reported, event = .service entry → kind.event entry ≠ .report reported := by
  by_cases hservice : ∃ entry, event = .service entry
  · obtain ⟨entry, rfl⟩ := hservice
    have hstep := kind.queue_step service.ability entry haligned
    rw [requestsOf, PoweredService.step, hstep] at hunanswered
    rcases BatchQueue.unanswered_step hunanswered with hpushed | ⟨hbefore, hreport⟩
    · obtain ⟨asked, hasked, hask⟩ := kind.asks service.ability entry hpushed
      refine Or.inl (List.mem_map.mpr ⟨asked, ?_, hask⟩)
      rw [PoweredService.told, PoweredService.step, service.ability.step_sent_of_asked hasked,
        PoweredService.eventsTo_systemEventCallBack hlistener]
      exact List.mem_singleton_self asked
    · refine Or.inr ⟨hbefore, fun other reported hentry => ?_⟩
      obtain rfl := PoweredEvent.service.inj hentry
      exact hreport reported
  · rw [kind.requestsOf_step_of_display (not_exists.mp hservice)] at hunanswered
    exact Or.inr ⟨hunanswered, fun entry _ hentry => absurd ⟨entry, hentry⟩ hservice⟩

end Queues

end RequestKind

namespace Handshake

variable (listener : SystemEventListener)

/-- The calls the event handler makes next, if they ask. -/
def newlyDue (posted : List EventObject) : List EventObject :=
  posted.head?.toList.filter fun call => PoweredService.asking call.eventType

def machine : Machine Handshake HandshakeEvent where
  enabled state event := match event with
    | .application event =>
        (LockScreenApplication.machine .leftToRight true listener).enabled state.told event
    | .report call _ _ _ => call ∈ state.due
  step state event := match event with
    | .application event =>
        { told := (LockScreenApplication.machine .leftToRight true listener).step state.told event
          due := match event with
            | .runTask => state.due ++ newlyDue state.told.relay.posted
            | _ => state.due }
    | .report call env caller result =>
        { told := (LockScreenApplication.machine .leftToRight true listener).step state.told
            (.service (.service (HandshakeEvent.reporting call env caller result)))
          due := state.due.erase call }

/-- The service beside an application that owes nothing. -/
def opening (service : PoweredService) : Handshake :=
  ⟨LockScreenApplication.beside service, []⟩

/-- The calls that have been asked for and are not reported on. -/
def underway (state : Handshake) : List EventObject :=
  state.told.relay.posted ++
    state.told.relay.inFlight.flatMap (received true .leftToRight) ++ state.due

def ability (state : Handshake) : ScreenLockSystemAbility := state.told.source.ability

/-- Nothing that has been begun can be carried on. -/
def AtRest (state : Handshake) : Prop :=
  ∀ event, HandshakeEvent.Internal event → ¬ (machine listener).enabled state event

/-- The steps that what has been begun can still take: a request in flight is served, its
call made and reported on, and the task of the report run. -/
def work (state : Handshake) : Nat :=
  4 * state.told.relay.inFlight.length + 3 * state.told.relay.posted.length +
    2 * state.due.length + state.ability.waiting.tasks

section Runs

variable {listener} {α β : Type} {state : Handshake} {event : HandshakeEvent}

/-- What holds on the way: a request that waits unanswered has asked. -/
structure Sound (listener : SystemEventListener) (kind : RequestKind α β) (state : Handshake) :
    Prop where
  aligned : state.ability.waiting.Aligned
  listening : state.ability.systemEventListener = some listener
  asked : (kind.requestsOf state.ability).Unanswered → kind.ask ∈ state.underway

/-- The state after an entry into the service. -/
def enter (listener : SystemEventListener) (entry : PoweredEvent) (state : Handshake) :
    Handshake :=
  { state with
    told := (LockScreenApplication.machine .leftToRight true listener).step state.told
      (.service entry) }

/-- What an entry sends is under way. -/
theorem mem_underway_enter (entry : PoweredEvent) (call : EventObject) :
    call ∈ (state.enter listener entry).underway ↔
      call ∈ state.underway ∨
        call ∈ (state.told.source.told listener entry).map SystemEvent.object := by
  have hreceived : (LockScreenApplication.requests listener state.told.source entry).flatMap
      (received true .leftToRight) = _ := received_sent _
  rw [← hreceived]
  simp only [underway, enter, LockScreenApplication.machine, Relay.send, List.flatMap_append,
    List.mem_append]
  tauto

theorem sound_enter {kind : RequestKind α β} (hsound : Sound listener kind state)
    {entry : PoweredEvent} (hkept : ¬ PoweredService.Replaces listener entry) :
    Sound listener kind (state.enter listener entry) where
  aligned := RequestKind.aligned_step hsound.aligned entry
  listening := PoweredService.listener_step hsound.listening hkept
  asked hunanswered := by
    rw [mem_underway_enter]
    rcases kind.unanswered_step hsound.listening hsound.aligned hunanswered with hasked | hbefore
    · exact Or.inr hasked
    · exact Or.inl (hsound.asked hbefore.1)

/-- The process of the application only carries the calls on. -/
theorem mem_underway_serve (call : EventObject) :
    call ∈ ((machine listener).step state (.application .serve)).underway ↔
      call ∈ state.underway := by
  have hserve := serve_eq_take true .leftToRight state.told.relay
  simp only [machine, LockScreenApplication.machine, underway, hserve]
  rw [Relay.move]
  cases hflight : state.told.relay.inFlight with
  | nil => simp only [hflight]
  | cons message rest =>
      simp only [Relay.accept, if_true, List.flatMap_cons, List.mem_append]
      tauto

theorem mem_underway_runTask {call : EventObject}
    (hasks : PoweredService.asking call.eventType = true) (hmem : call ∈ state.underway) :
    call ∈ ((machine listener).step state (.application .runTask)).underway := by
  have hrun := runTask_eq_runPosted true .leftToRight state.told.relay
  simp only [machine, LockScreenApplication.machine, underway, hrun] at hmem ⊢
  rw [Relay.move]
  cases hposted : state.told.relay.posted with
  | nil => simpa [hposted, newlyDue] using hmem
  | cons first rest =>
      simp only [hposted, List.mem_append, List.mem_cons] at hmem
      simp only [newlyDue, List.head?_cons, Option.toList_some, List.mem_append, List.mem_filter,
        List.mem_singleton]
      rcases hmem with ((rfl | hrest) | hflight) | hdue
      -- the call that is made asks, so a report on it is due
      · exact Or.inr (Or.inr ⟨rfl, hasks⟩)
      · exact Or.inl (Or.inl hrest)
      · exact Or.inl (Or.inr hflight)
      · exact Or.inr (Or.inl hdue)

/-- Reports on other calls leave a call under way. -/
theorem sound_report {kind : RequestKind α β} (hsound : Sound listener kind state)
    {call : EventObject} {env : Environment} {caller : Caller} {result : Int}
    (hanswers : HandshakeEvent.Answers (.report call env caller result)) :
    Sound listener kind ((machine listener).step state (.report call env caller result)) := by
  have hentered := @sound_enter listener α β state kind hsound
    (.service (HandshakeEvent.reporting call env caller result)) id
  refine ⟨hentered.aligned, hentered.listening, fun hunanswered => ?_⟩
  have htold : state.told.source.told listener
      (.service (HandshakeEvent.reporting call env caller result)) = [] :=
    PoweredService.told_report env caller _ _
  rcases kind.unanswered_step hsound.listening hsound.aligned hunanswered with
    hasked | ⟨hbefore, hreport⟩
  · rw [htold] at hasked
    cases hasked
  -- a report on a call of this kind would have submitted a task
  have hother : kind.ask ≠ call := by
    rintro rfl
    obtain ⟨reported, heq⟩ := kind.reports env caller result hanswers
    exact hreport _ reported rfl heq
  have hrequests := LockScreenApplication.requests_of_silent listener htold
  have hunder := hsound.asked hbefore
  simp only [underway, List.mem_append] at hunder
  simp only [machine, LockScreenApplication.machine, underway, Relay.send, hrequests,
    List.append_nil, List.mem_append]
  exact hunder.imp_right (List.mem_erase_of_ne hother).mpr

theorem sound_step {kind : RequestKind α β} (hsound : Sound listener kind state)
    (hkept : ∀ entry, event.service? = some entry → ¬ PoweredService.Replaces listener entry)
    (hanswers : event.Answers) : Sound listener kind ((machine listener).step state event) := by
  cases event with
  | application event =>
      cases event with
      | service entry => exact sound_enter hsound (hkept entry rfl)
      | serve =>
          refine ⟨hsound.aligned, hsound.listening, fun hunanswered => ?_⟩
          exact (mem_underway_serve _).mpr (hsound.asked hunanswered)
      | runTask =>
          refine ⟨hsound.aligned, hsound.listening, fun hunanswered => ?_⟩
          exact mem_underway_runTask kind.asking (hsound.asked hunanswered)
  | report call env caller result => exact sound_report hsound hanswers

/-- The events keep the listener, and the reports among them answer. -/
def Fair (listener : SystemEventListener) (event : HandshakeEvent) : Prop :=
  (∀ entry, event.service? = some entry → ¬ PoweredService.Replaces listener entry) ∧
    event.Answers

theorem sound_run {kind : RequestKind α β} (hsound : Sound listener kind state)
    {events : List HandshakeEvent} (hfair : ∀ event ∈ events, Fair listener event) :
    Sound listener kind ((machine listener).run state events) :=
  @Machine.steps_invariant _ _ (machine listener) (fun _ event => Fair listener event)
    (fun state => Sound listener kind state)
    (fun _ _ hfair hsound => sound_step hsound hfair.1 hfair.2) _ _
    (((machine listener).steps_iff_forall_mem _ _ _).mpr hfair) hsound

theorem source_step (state : Handshake) (event : HandshakeEvent) :
    ((machine listener).step state event).told.source =
      match event.service? with
      | some entry => state.told.source.step entry
      | none => state.told.source := by
  cases event with
  | application event => cases event <;> rfl
  | report => rfl

/-- The requests of a kind that have been completed, and then those that wait, are those that
have been made. -/
theorem entries_run {kind : RequestKind α β} (hsound : Sound listener kind state)
    {events : List HandshakeEvent} (hfair : ∀ event ∈ events, Fair listener event) :
    (kind.requestsOf ((machine listener).run state events).ability).entries =
      (kind.requestsOf state.ability).entries ++
        (events.filterMap HandshakeEvent.service?).flatMap kind.pushed := by
  induction events generalizing state with
  | nil => simp
  | cons event rest ih =>
      obtain ⟨hfirst, hrest⟩ := List.forall_mem_cons.mp hfair
      rw [Machine.run_cons, ih (sound_step hsound hfirst.1 hfirst.2) hrest, ability, source_step]
      cases hservice : event.service? with
      | none => rw [List.filterMap_cons_none hservice]; rfl
      | some entry =>
          rw [List.filterMap_cons_some hservice, List.flatMap_cons,
            kind.entries_step hsound.aligned entry, List.append_assoc]
          rfl

end Runs

section Rest

variable {listener} {state : Handshake}

theorem length_received_le (message : Nat × Parcel Empty) :
    (received true .leftToRight message).length ≤ 1 := by
  unfold received ScreenLockSystemAbilityStub.onRemoteRequest
  dsimp only
  split
  · exact Nat.zero_le 1
  · split
    · exact Nat.le_refl 1
    · exact Nat.zero_le 1

/-- An entry that sends nothing changes the work by the tasks alone. -/
theorem work_enter_of_silent {entry : PoweredEvent}
    (hsilent : state.told.source.told listener entry = []) :
    (state.enter listener entry).work =
      4 * state.told.relay.inFlight.length + 3 * state.told.relay.posted.length +
        2 * state.due.length + (state.told.source.step entry).ability.waiting.tasks := by
  have hrequests := LockScreenApplication.requests_of_silent listener hsilent
  simp only [enter, LockScreenApplication.machine, work, ability, Relay.send, hrequests,
    List.append_nil]

/-- A report takes its call off the due ones and submits at most one task. -/
theorem work_report {call : EventObject} {env : Environment} {caller : Caller} {result : Int}
    (hdue : call ∈ state.due) :
    ((machine listener).step state (.report call env caller result)).work < state.work := by
  have hentered := @work_enter_of_silent listener state
    (.service (HandshakeEvent.reporting call env caller result))
    (PoweredService.told_report env caller call.resultEvent result)
  have hwaiting := state.ability.call_waiting env caller
    (.sendScreenLockEvent call.resultEvent result)
  have htasks : (state.told.source.step (.service (HandshakeEvent.reporting call env caller
      result))).ability.waiting.tasks ≤ state.ability.waiting.tasks + 1 := by
    change (state.ability.step (HandshakeEvent.reporting call env caller result)).waiting.tasks ≤ _
    rw [HandshakeEvent.reporting, hwaiting]
    split
    · exact state.ability.waiting.tasks_submitReport_le _ _ _ _
    · exact Nat.le_succ _
  have herase := List.length_erase_of_mem hdue
  have hpos := List.length_pos_of_mem hdue
  have hstep : ((machine listener).step state (.report call env caller result)).work +
        2 * state.due.length =
      (state.enter listener (.service (HandshakeEvent.reporting call env caller result))).work +
        2 * (state.due.erase call).length := by
    simp only [work, machine, enter, ability]
    omega
  rw [hentered, herase] at hstep
  unfold work
  unfold work at hstep
  omega

/-- An enabled internal step takes one off the work. -/
theorem work_step {event : HandshakeEvent} (hinternal : event.Internal)
    (henabled : (machine listener).enabled state event) :
    ((machine listener).step state event).work < state.work := by
  cases event with
  | application event =>
      cases event with
      | serve =>
          have hserve := serve_eq_take true .leftToRight state.told.relay
          have hflight : state.told.relay.inFlight ≠ [] := henabled
          obtain ⟨message, rest, hrest⟩ := List.exists_cons_of_ne_nil hflight
          have hlength := length_received_le message
          simp only [machine, LockScreenApplication.machine, work, ability, hserve, Relay.move,
            hrest, Relay.accept, if_true, List.length_append, List.length_cons]
          omega
      | runTask =>
          have hrun := runTask_eq_runPosted true .leftToRight state.told.relay
          have hposted : state.told.relay.posted ≠ [] := henabled
          obtain ⟨first, rest, hrest⟩ := List.exists_cons_of_ne_nil hposted
          have hdue : (newlyDue state.told.relay.posted).length ≤ 1 := by
            rw [newlyDue, hrest]
            exact List.length_filter_le _ _
          simp only [machine, LockScreenApplication.machine, work, ability, hrun, Relay.move,
            hrest, List.length_append, List.length_cons] at hdue ⊢
          omega
      | service entry =>
          cases entry with
          | service entry =>
              cases entry with
              | runLockTask reportedAt =>
                  obtain ⟨stateResult, htask⟩ := henabled
                  have hsilent : state.told.source.told listener
                      (.service (.runLockTask reportedAt)) = [] := rfl
                  refine (work_enter_of_silent hsilent).trans_lt ?_
                  exact Nat.add_lt_add_left (WaitingListeners.tasks_runLockTask_lt htask) _
              | runUnlockTask reportedAt =>
                  obtain ⟨result, htask⟩ := henabled
                  have hsilent : state.told.source.told listener
                      (.service (.runUnlockTask reportedAt)) = [] := rfl
                  refine (work_enter_of_silent hsilent).trans_lt ?_
                  exact Nat.add_lt_add_left (WaitingListeners.tasks_runUnlockTask_lt htask) _
              | call | notify => cases hinternal
          | displayPower | userIamReady | runTask => cases hinternal
  | report call env caller result => exact work_report henabled

/-- At rest nothing is under way, nothing is due and no task is left. -/
theorem atRest_iff :
    AtRest listener state ↔
      state.told.relay.Settled ∧ state.due = [] ∧ state.ability.waiting.tasks = 0 := by
  constructor
  · intro hrest
    have hflight : state.told.relay.inFlight = [] :=
      not_not.mp (hrest (.application .serve) trivial)
    have hposted : state.told.relay.posted = [] :=
      not_not.mp (hrest (.application .runTask) trivial)
    have hdue : state.due = [] := List.eq_nil_iff_forall_not_mem.mpr fun call hcall =>
      hrest (.report call (.single 0) (.privileged 0) 0) trivial hcall
    have hlock : state.ability.waiting.lockTasks = [] :=
      List.eq_nil_iff_forall_not_mem.mpr fun task htask =>
        hrest (.application (.service (.service (.runLockTask task.1)))) trivial ⟨task.2, htask⟩
    have hunlock : state.ability.waiting.unlockTasks = [] :=
      List.eq_nil_iff_forall_not_mem.mpr fun task htask =>
        hrest (.application (.service (.service (.runUnlockTask task.1)))) trivial ⟨task.2, htask⟩
    exact ⟨⟨hflight, hposted⟩, hdue, by rw [WaitingListeners.tasks, hlock, hunlock]; rfl⟩
  · rintro ⟨⟨hflight, hposted⟩, hdue, htasks⟩ event hinternal henabled
    have hlower := work_step hinternal henabled
    have hnone : state.work = 0 := by rw [work, hflight, hposted, hdue, htasks]; rfl
    rw [hnone] at hlower
    exact Nat.not_lt_zero _ hlower

/-- At rest no request waits. -/
theorem pending_of_atRest {α β : Type} {kind : RequestKind α β}
    (hsound : Sound listener kind state) (hrest : AtRest listener state) :
    (kind.requestsOf state.ability).pending = [] := by
  obtain ⟨⟨hflight, hposted⟩, hdue, htasks⟩ := atRest_iff.mp hrest
  by_contra hwaits
  have hasked := hsound.asked ⟨hwaits, kind.tasks_nil _ _ htasks⟩
  rw [underway, hflight, hposted, hdue] at hasked
  cases hasked

end Rest

section Answering

variable {listener} {service : PoweredService} {events : List HandshakeEvent}

/-- No request waits. -/
def Unasked (waiting : WaitingListeners) : Prop :=
  waiting.lockVecListeners = [] ∧ waiting.unlockVecListeners = [] ∧ waiting.unlockVecUserIds = []

theorem sound_opening {α β : Type} {kind : RequestKind α β}
    (hlistener : service.ability.systemEventListener = some listener)
    (hunasked : Unasked service.ability.waiting)
    (hpending : (kind.requestsOf service.ability).pending = []) :
    Sound listener kind (opening service) where
  aligned := by
    change service.ability.waiting.unlockVecListeners.length =
      service.ability.waiting.unlockVecUserIds.length
    rw [hunasked.2.1, hunasked.2.2]
    rfl
  listening := hlistener
  asked hunanswered := absurd hpending hunanswered.1

/-- At rest every request that has been made has been completed, in order. -/
theorem completed_of_atRest {α β : Type} {kind : RequestKind α β}
    (hsound : Sound listener kind (opening service))
    (hpending : (kind.requestsOf service.ability).pending = [])
    (hfair : ∀ event ∈ events, Fair listener event)
    (hrest : AtRest listener ((machine listener).run (opening service) events)) :
    (kind.requestsOf ((machine listener).run (opening service) events).ability).completed.map
        Completion.entry =
      (kind.requestsOf service.ability).completed.map Completion.entry ++
        (events.filterMap HandshakeEvent.service?).flatMap kind.pushed := by
  have hentries := entries_run hsound hfair
  have hdone := pending_of_atRest (sound_run hsound hfair) hrest
  have hopening : (kind.requestsOf (opening service).ability).pending = [] := hpending
  rw [BatchQueue.entries, BatchQueue.entries, hdone, hopening, List.map_nil, List.append_nil,
    List.append_nil] at hentries
  exact hentries

/-- While one listener stands and every report answers, whatever has been begun comes to rest
within its work, and then each accepted request has been answered once, in the order in
which the requests were accepted. -/
theorem requests_answered (hlistener : service.ability.systemEventListener = some listener)
    (hunasked : Unasked service.ability.waiting) {later : List HandshakeEvent}
    (hadmits : (machine listener).Admits (opening service) (events ++ later))
    (hfair : ∀ event ∈ events ++ later, Fair listener event)
    (hinternal : ∀ event ∈ later, event.Internal) :
    let final := (machine listener).run (opening service) (events ++ later)
    let entries := (events ++ later).filterMap HandshakeEvent.service?
    later.length ≤ ((machine listener).run (opening service) events).work ∧
      (AtRest listener final →
        final.ability.waiting.lockCalled.map Completion.entry =
            service.ability.waiting.lockCalled.map Completion.entry ++
              entries.flatMap RequestKind.lock.pushed ∧
          final.ability.waiting.unlockCalled.map (fun called => called.completion.entry) =
            service.ability.waiting.unlockCalled.map (fun called => called.completion.entry) ++
              entries.flatMap RequestKind.unlock.pushed) := by
  intro final entries
  have hlock : (RequestKind.lock.requestsOf service.ability).pending = [] := hunasked.1
  have hunlock : (RequestKind.unlock.requestsOf service.ability).pending = [] := by
    change List.zipWith _ service.ability.waiting.unlockVecListeners _ = []
    rw [hunasked.2.1]
    rfl
  refine ⟨?_, fun hrest => ⟨?_, ?_⟩⟩
  · obtain ⟨-, hlater⟩ := ((machine listener).steps_append _ _ _ _).mp hadmits
    have hsteps := (machine listener).steps_and hlater
      (((machine listener).steps_iff_forall_mem _ _ _).mpr hinternal)
    exact (machine listener).length_le_of_steps
      (fun state event hboth => work_step hboth.2 hboth.1) hsteps
  · exact completed_of_atRest (sound_opening hlistener hunasked hlock) hlock hfair hrest
  · have hcompleted := completed_of_atRest (sound_opening hlistener hunasked hunlock) hunlock
      hfair hrest
    change List.map _ (List.map _ _) = List.map _ (List.map _ _) ++ _ at hcompleted
    rw [List.map_map, List.map_map] at hcompleted
    exact hcompleted

/-- The device is locked for two listeners while it is reported on once. -/
def lockedForTwo : List HandshakeEvent :=
  [.application (.service (.service (.call (.single 100) (.privileged 100) (.lock 7)))),
    .application .serve,
    .application (.service (.service (.call (.single 100) (.privileged 100) (.lock 8)))),
    .application .runTask]

/-- Both calls are reported on; the task of the first report answers both listeners. -/
def reportedTwice : List HandshakeEvent :=
  [.report .lockAsk (.single 100) (.privileged 100) ScreenChange.screenSucc,
    .application (.service (.service (.runLockTask 3))),
    .application .serve,
    .application .runTask,
    .report .lockAsk (.single 100) (.privileged 100) ScreenChange.screenSucc]

theorem lockedForTwo_admitted :
    (machine 1).Admits (opening LockScreenApplication.registered)
      (lockedForTwo ++ reportedTwice) := by
  have hflight : ∀ {α : Type} (first : α) rest, first :: rest ≠ [] := fun _ _ =>
    List.cons_ne_nil _ _
  refine ⟨trivial, hflight _ _, trivial, hflight _ _, List.mem_cons_self, ?_, hflight _ _,
    hflight _ _, List.mem_cons_self, trivial⟩
  exact ⟨ScreenChange.screenSucc, List.mem_cons_self⟩

theorem lockedForTwo_fair : ∀ event ∈ lockedForTwo ++ reportedTwice, Fair 1 event := by
  intro event hevent
  simp only [lockedForTwo, reportedTwice, List.cons_append, List.nil_append, List.mem_cons,
    List.not_mem_nil, or_false] at hevent
  refine ⟨fun entry hentry => ?_, ?_⟩
  · rcases hevent with rfl | rfl | rfl | rfl | rfl | rfl | rfl | rfl | rfl <;> cases hentry <;>
      exact id
  · rcases hevent with rfl | rfl | rfl | rfl | rfl | rfl | rfl | rfl | rfl <;> trivial

theorem lockedForTwo_answered :
    ((machine 1).run (opening LockScreenApplication.registered)
        (lockedForTwo ++ reportedTwice)).ability.waiting.lockCalled.map Completion.entry =
      [7, 8] := by
  have hinternal : ∀ event ∈ reportedTwice, event.Internal := by
    intro event hevent
    simp only [reportedTwice, List.mem_cons, List.not_mem_nil, or_false] at hevent
    rcases hevent with rfl | rfl | rfl | rfl | rfl <;> trivial
  have hrest : AtRest 1 ((machine 1).run (opening LockScreenApplication.registered)
      (lockedForTwo ++ reportedTwice)) := atRest_iff.mpr ⟨⟨rfl, rfl⟩, rfl, rfl⟩
  exact ((requests_answered rfl ⟨rfl, rfl, rfl⟩ lockedForTwo_admitted lockedForTwo_fair
    hinternal).2 hrest).1

end Answering

end Handshake

end Screenlock
