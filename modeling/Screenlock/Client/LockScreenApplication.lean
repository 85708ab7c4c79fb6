import Screenlock.Foundation.Relay
import Screenlock.Ipc.EventChannel
import Screenlock.Service.LockScreenEvents

/-! # The lock-screen application

The stub in the process of the lock-screen application hands each event to
`ScreenlockSystemAbilityCallback`, which posts it to the event handler of the thread
that has registered the function of the application. That thread calls the function
with an object of two strings.
-/

namespace Screenlock

open Foundation ScreenLockSystemAbilityInterface

/-- The object the function is called with. -/
structure EventObject where
  eventType : String
  params : String
  deriving DecidableEq, Repr

namespace SystemEvent

def object (event : SystemEvent) : EventObject := ⟨event.eventType, event.params⟩

end SystemEvent

/-- The process of the application: requests under way to it, tasks posted to its event
handler, and the calls its function has got. -/
abbrev ApplicationProcess := Relay (Nat × Parcel Empty) EventObject

namespace ScreenlockSystemAbilityCallback

variable (handler : Bool)

/-- `OnCallBack`; `handler` tells whether there is an event handler. -/
def onCallBack (event : SystemEvent) (process : ApplicationProcess) : ApplicationProcess :=
  if handler then { process with posted := process.posted ++ [event.object] } else process

/-- A thread of the process takes the first request. -/
def serve (order : EvaluationOrder) (process : ApplicationProcess) : ApplicationProcess :=
  match process.inFlight with
  | [] => process
  | (code, data) :: rest =>
      (ScreenLockSystemAbilityStub.onRemoteRequest order (onCallBack handler) code data
        { process with inFlight := rest }).2

/-- The event handler runs its first task. -/
def runTask (process : ApplicationProcess) : ApplicationProcess :=
  match process.posted with
  | [] => process
  | object :: rest => { process with posted := rest, handled := process.handled ++ [object] }

/-- The calls a request asks for. -/
def received (order : EvaluationOrder) (message : Nat × Parcel Empty) : List EventObject :=
  (ScreenLockSystemAbilityStub.onRemoteRequest order
    (fun event calls => if handler then calls ++ [event.object] else calls) message.1 message.2
    []).2

theorem serve_eq_take (order : EvaluationOrder) (process : ApplicationProcess) :
    serve handler order process = process.move (received handler order) (.take true) := by
  unfold serve Relay.move received ScreenLockSystemAbilityStub.onRemoteRequest
  cases process.inFlight with
  | nil => rfl
  | cons message rest =>
      dsimp only
      split
      · simp [Relay.accept]
      · split
        · cases handler <;> simp [Relay.accept, onCallBack]
        · simp [Relay.accept]

theorem runTask_eq_runPosted (order : EvaluationOrder) (process : ApplicationProcess) :
    runTask process = process.move (received handler order) .runPosted := by
  unfold runTask Relay.move
  cases process.posted <;> rfl

theorem received_systemEvent (event : SystemEvent) :
    received true .leftToRight (onCallback, ScreenLockSystemAbilityProxy.written event) =
      [event.object] := rfl

/-- Of the requests for some events the calls of the function are read back. -/
theorem received_sent (events : List SystemEvent) :
    (events.map fun sent => (onCallback, ScreenLockSystemAbilityProxy.written sent)).flatMap
        (received true .leftToRight) = events.map SystemEvent.object := by
  rw [List.flatMap_map]
  simp only [received_systemEvent]
  exact List.map_eq_flatMap.symm

end ScreenlockSystemAbilityCallback

/-- A step of the service, or of the application's process. -/
inductive ApplicationEvent where
  | service (event : PoweredEvent)
  | serve
  | runTask

namespace ApplicationEvent

def service? : ApplicationEvent → Option PoweredEvent
  | service event => some event
  | _ => none

/-- The step of the relay between the two. -/
def relayed : ApplicationEvent → RelayEvent PoweredEvent
  | service event => .source event
  | serve => .move (.take true)
  | runTask => .move .runPosted

theorem filterMap_relayed (events : List ApplicationEvent) :
    (events.map relayed).filterMap RelayEvent.source? = events.filterMap service? := by
  rw [List.filterMap_map]
  refine List.filterMap_congr fun event _ => ?_
  cases event <;> rfl

end ApplicationEvent

namespace LockScreenApplication

open PoweredService ScreenlockSystemAbilityCallback

variable (order : EvaluationOrder) (handler : Bool) (listener : SystemEventListener)

/-- What an entry sends to the process. -/
def requests (service : PoweredService) (event : PoweredEvent) : List (Nat × Parcel Empty) :=
  (service.told listener event).map fun sent =>
    (onCallback, ScreenLockSystemAbilityProxy.written sent)

/-- The service beside the application. -/
def machine : Machine (Relayed PoweredService (Nat × Parcel Empty) EventObject)
    ApplicationEvent where
  enabled state event := match event with
    | .service event => PoweredService.machine.enabled state.source event
    | .serve => state.relay.inFlight ≠ []
    | .runTask => state.relay.posted ≠ []
  step state event := match event with
    | .service event =>
        ⟨state.source.step event, state.relay.send (requests listener state.source event)⟩
    | .serve => { state with relay := serve handler order state.relay }
    | .runTask => { state with relay := ScreenlockSystemAbilityCallback.runTask state.relay }

theorem requests_of_silent {service : PoweredService} {entry : PoweredEvent}
    (hsilent : service.told listener entry = []) : requests listener service entry = [] := by
  rw [requests, hsilent, List.map_nil]

/-- A service that has nothing under way to the application. -/
def beside (service : PoweredService) : Relayed PoweredService (Nat × Parcel Empty) EventObject :=
  ⟨service, Relay.idle⟩

/-- The application acts as a relay that posts every message. -/
def refinement : Refinement (machine order handler listener)
    (PoweredService.machine.relayed (requests listener) (received handler order)) where
  invariant _ := True
  state := id
  event := ApplicationEvent.relayed
  invariant_step _ _ _ _ := trivial
  enabled state event henabled _ := by cases event <;> exact henabled
  step state event _ _ := by
    cases event with
    | service event => rfl
    | serve => exact congrArg (Relayed.mk state.source) (serve_eq_take handler order state.relay)
    | runTask =>
        exact congrArg (Relayed.mk state.source) (runTask_eq_runPosted handler order state.relay)

/-- No call overtakes another one. -/
theorem relays (state : Relayed PoweredService (Nat × Parcel Empty) EventObject)
    (events : List ApplicationEvent) :
    (PoweredService.machine.relayed (requests listener) (received handler order)).Steps
      (Machine.Relays fun _ _ => True) state (events.map ApplicationEvent.relayed) := by
  have hposts : ∀ state (event : RelayEvent PoweredEvent),
      event ∈ Set.range ApplicationEvent.relayed →
        Machine.Relays (β := EventObject) (α := Nat × Parcel Empty) (σ := PoweredService)
          (fun _ _ => True) state event := by
    rintro state _ ⟨event, rfl⟩
    cases event with
    | service | runTask => trivial
    -- the callback posts whatever it gets
    | serve => exact Or.inl rfl
  refine Machine.steps_mono _ (fun state event => hposts state event) ?_
  refine (Machine.steps_iff_forall_mem _ (· ∈ Set.range ApplicationEvent.relayed) _ _).mpr ?_
  intro event hevent
  obtain ⟨step, -, hstep⟩ := List.mem_map.mp hevent
  exact ⟨step, hstep⟩

section Arrival

variable {listener} {service : PoweredService} {events : List ApplicationEvent}

/-- The events sent to the application in the course of a run. -/
def sent (listener : SystemEventListener) (service : PoweredService)
    (events : List ApplicationEvent) : List SystemEvent :=
  PoweredService.machine.outputs (fun service => service.told listener) service
    (events.filterMap ApplicationEvent.service?)

theorem run_eq_relayed
    (hadmits : (machine order handler listener).Admits (beside service) events) :
    (machine order handler listener).run (beside service) events =
      (PoweredService.machine.relayed (requests listener) (received handler order)).run
        (beside service) (events.map ApplicationEvent.relayed) :=
  (refinement order handler listener).run hadmits trivial

/-- The service runs as it would without the application. -/
theorem source_run (hadmits : (machine order handler listener).Admits (beside service) events) :
    ((machine order handler listener).run (beside service) events).source =
      PoweredService.machine.run service (events.filterMap ApplicationEvent.service?) := by
  rw [run_eq_relayed _ _ hadmits, Machine.relayed_source, ApplicationEvent.filterMap_relayed]
  rfl

/-- What the application has got and will get is what is sent to it. -/
theorem trace_run (hadmits : (machine .leftToRight true listener).Admits (beside service) events) :
    ((machine .leftToRight true listener).run (beside service) events).relay.trace
        (received true .leftToRight) =
      (sent listener service events).map SystemEvent.object := by
  have htrace := Machine.relayed_trace (relays .leftToRight true listener (beside service) events)
  rw [ApplicationEvent.filterMap_relayed] at htrace
  rw [run_eq_relayed _ _ hadmits, htrace]
  unfold requests sent
  rw [← PoweredService.machine.outputs_map]
  exact received_sent _

theorem filter_sent (hlistener : service.ability.systemEventListener = some listener)
    (hkept : ∀ event ∈ events.filterMap ApplicationEvent.service?, ¬ Replaces listener event) :
    (sent listener service events).filter (fun told => asking told.eventType) =
      PoweredService.machine.outputs askings service
        (events.filterMap ApplicationEvent.service?) := by
  have hreading : ∀ event : SystemEvent, event.Informs →
      Option.guard (fun told : SystemEvent => asking told.eventType) event = none :=
    fun event hinforms => Option.guard_eq_none_iff.mpr (informs_reads_nothing hinforms).1
  rw [← List.filterMap_eq_filter]
  refine (filterMap_outputs_told hlistener hreading hkept).trans ?_
  simp only [List.filterMap_eq_filter, filter_telling]

/-- While one listener stands, the function is called with the events sent to it, each once
and in their order. What it is asked to unlock and lock is what accepted requests have asked
for. -/
theorem events_arrive (hlistener : service.ability.systemEventListener = some listener)
    (hadmits : (machine .leftToRight true listener).Admits (beside service) events)
    (hkept : ∀ event ∈ events.filterMap ApplicationEvent.service?, ¬ Replaces listener event) :
    let final := (machine .leftToRight true listener).run (beside service) events
    let calls := final.relay.handled
    let asked := (PoweredService.machine.outputs askings service
      (events.filterMap ApplicationEvent.service?)).map SystemEvent.object
    calls <+: (sent listener service events).map SystemEvent.object ∧
      (calls.filter fun call => asking call.eventType) <+: asked ∧
      (final.relay.Settled →
        calls = (sent listener service events).map SystemEvent.object ∧
          (calls.filter fun call => asking call.eventType) = asked) := by
  intro final calls asked
  have htrace := trace_run hadmits
  have hfilter : ((sent listener service events).map SystemEvent.object).filter
      (fun call => asking call.eventType) = asked := by
    rw [List.filter_map]
    exact congrArg (List.map SystemEvent.object) (filter_sent hlistener hkept)
  have hbegins : calls <+: (sent listener service events).map SystemEvent.object := by
    rw [← htrace]
    exact Relay.handled_prefix
  refine ⟨hbegins, ?_, fun hsettled => ?_⟩
  · rw [← hfilter]
    exact hbegins.filter _
  · have hall : calls = (sent listener service events).map SystemEvent.object := by
      rw [← htrace]
      exact (Relay.trace_of_settled hsettled).symm
    exact ⟨hall, by rw [hall, hfilter]⟩

/-- A service that the application has given its listener. -/
def registered : PoweredService :=
  PoweredService.machine.run (PoweredService.started ∅)
    [.service (.call (.single 100) (.privileged 100) (.onSystemEvent (some 1)))]

/-- The screen goes off and the device is locked; the application is told of both. -/
def offAndLocked : List ApplicationEvent :=
  [.service (.displayPower .displayOff .begins),
    .serve,
    .service (.service (.call (.single 100) (.privileged 100) (.lockUser 100))),
    .runTask,
    .serve,
    .runTask]

theorem offAndLocked_admitted :
    (machine .leftToRight true 1).Admits (beside registered) offAndLocked := by
  refine ⟨trivial, ?_, trivial, ?_, ?_, ?_, trivial⟩ <;> exact List.cons_ne_nil _ _

theorem offAndLocked_keeps :
    ∀ event ∈ offAndLocked.filterMap ApplicationEvent.service?, ¬ Replaces 1 event := by
  intro event hevent
  rcases List.mem_cons.mp hevent with rfl | hevent
  · exact id
  · rw [List.mem_singleton.mp hevent]
    exact id

theorem offAndLocked_arrives :
    (((machine .leftToRight true 1).run (beside registered) offAndLocked).relay.handled.filter
        fun call => asking call.eventType) =
      (PoweredService.machine.outputs askings registered
        (offAndLocked.filterMap ApplicationEvent.service?)).map SystemEvent.object :=
  ((events_arrive rfl offAndLocked_admitted offAndLocked_keeps).2.2 ⟨rfl, rfl⟩).2

end Arrival

section Mirror

variable {listener} {service : PoweredService} {events : List ApplicationEvent}

/-- A state that the service keeps as it tells it is the last one the application was told. -/
theorem last_told (hlistener : service.ability.systemEventListener = some listener)
    (hadmits : (machine .leftToRight true listener).Admits (beside service) events)
    (hkept : ∀ event ∈ events.filterMap ApplicationEvent.service?, ¬ Replaces listener event)
    (hsettled :
      ((machine .leftToRight true listener).run (beside service) events).relay.Settled)
    {reading : String → Option Int} {state : PoweredService → Int}
    (hreading : ∀ event : SystemEvent, event.Informs → reading event.eventType = none)
    (hstate : ∀ service event, state (PoweredService.machine.step service event) =
      ((service.telling event).toList.filterMap fun told => reading told.eventType).getLast?.getD
        (state service)) :
    let final := (machine .leftToRight true listener).run (beside service) events
    state final.source =
      (final.relay.handled.filterMap fun call => reading call.eventType).getLast?.getD
        (state service) := by
  intro final
  have hcalls : final.relay.handled = (sent listener service events).map SystemEvent.object := by
    rw [← trace_run hadmits]
    exact (Relay.trace_of_settled hsettled).symm
  have hlast := @Machine.last_outputs _ _ PoweredService.machine _ _ state hstate service
    (events.filterMap ApplicationEvent.service?)
  have htold := filterMap_outputs_told hlistener hreading hkept
  rw [source_run _ _ hadmits, hlast, ← htold, hcalls, List.filterMap_map]
  rfl

/-- Once nothing is under way, the screen state and the interactive state of the service are
the last ones the application was told. -/
theorem display_mirrored (hlistener : service.ability.systemEventListener = some listener)
    (hadmits : (machine .leftToRight true listener).Admits (beside service) events)
    (hkept : ∀ event ∈ events.filterMap ApplicationEvent.service?, ¬ Replaces listener event)
    (hsettled :
      ((machine .leftToRight true listener).run (beside service) events).relay.Settled) :
    let final := (machine .leftToRight true listener).run (beside service) events
    final.source.screenState =
        (final.relay.handled.filterMap fun call =>
          screenStateTold call.eventType).getLast?.getD service.screenState ∧
      final.source.interactiveState =
        (final.relay.handled.filterMap fun call =>
          interactiveStateTold call.eventType).getLast?.getD service.interactiveState :=
  ⟨last_told hlistener hadmits hkept hsettled
      (fun _ hinforms => (informs_reads_nothing hinforms).2.1)
      (fun service event => (service.states_step event).1),
    last_told hlistener hadmits hkept hsettled
      (fun _ hinforms => (informs_reads_nothing hinforms).2.2)
      (fun service event => (service.states_step event).2)⟩

theorem offAndLocked_mirrored :
    let final := (machine .leftToRight true 1).run (beside registered) offAndLocked
    final.source.screenState =
      (final.relay.handled.filterMap fun call =>
        screenStateTold call.eventType).getLast?.getD registered.screenState :=
  (display_mirrored rfl offAndLocked_admitted offAndLocked_keeps ⟨rfl, rfl⟩).1

end Mirror

end LockScreenApplication

end Screenlock
