import Screenlock.Service.PowerEvents

/-! # What the lock-screen application is told

Four requests ask the application to unlock or lock the screen, each with one event, and
nothing else does. What the display does is told with events of their own.
-/

namespace Screenlock

open Foundation

/-- The event informs the application of a change of the service; it neither asks for
anything nor tells of the display. -/
def SystemEvent.Informs (event : SystemEvent) : Prop :=
  event.eventType ∈ [SystemEvent.strongAuthChanged, SystemEvent.preAuthResult,
    SystemEvent.unlockPolicyChange]

namespace ScreenLockSystemAbility

section Informing

/-- Every system event among the effects has the property. -/
def Tells (property : SystemEvent → Prop) (effects : List Effect) : Prop :=
  ∀ listener event, Effect.systemEvent listener event ∈ effects → property event

variable {property : SystemEvent → Prop}

theorem tells_nil : Tells property [] := fun _ _ hmem => by cases hmem

theorem tells_append {first second : List Effect} (hfirst : Tells property first)
    (hsecond : Tells property second) : Tells property (first ++ second) :=
  fun listener event hmem =>
    (List.mem_append.mp hmem).elim (hfirst listener event) (hsecond listener event)

variable (ability : ScreenLockSystemAbility)

theorem tells_systemEventCallBack {event : SystemEvent} (hproperty : property event) :
    Tells property (ability.systemEventCallBack event) := by
  intro listener told hmem
  unfold systemEventCallBack at hmem
  split at hmem
  · cases hmem
  · obtain ⟨-, rfl⟩ := Effect.systemEvent.inj (List.mem_singleton.mp hmem)
    exact hproperty

theorem tells_publishEvent (event : CommonEvent) (userId : UserId) :
    Tells property (publishEvent event userId) := fun _ _ hmem => by
  cases List.mem_singleton.mp hmem

theorem tells_onStateChanged (userId : UserId) (state : Int) (listenType : ListenType) :
    Tells property (ability.onStateChanged userId state listenType) := fun _ _ hmem => by
  cases List.mem_singleton.mp hmem

theorem informs_preAuthStateNotify (userId : UserId) (authState : Int) :
    Tells SystemEvent.Informs (ability.preAuthStateNotify userId authState) := by
  unfold preAuthStateNotify
  split
  · exact tells_nil
  · split
    · exact ability.tells_systemEventCallBack (List.mem_cons_of_mem _ List.mem_cons_self)
    · exact tells_nil

theorem informs_strongAuthChanged (userId : UserId) (reasonFlag : Int) :
    Tells SystemEvent.Informs (ability.strongAuthChanged userId reasonFlag) := by
  unfold strongAuthChanged
  split
  · exact tells_nil
  · exact ability.tells_systemEventCallBack List.mem_cons_self

variable {ability}

theorem informs_enterStrongAuth (hinforms : Tells SystemEvent.Informs ability.sent)
    (env : Environment) (event : StrongAuthEvent) :
    Tells SystemEvent.Informs (ability.enterStrongAuth env event).sent := by
  refine tells_append hinforms fun listener told hmem => ?_
  obtain ⟨⟨userId, reasonFlag⟩, -, htold⟩ := List.mem_flatMap.mp hmem
  exact tells_append (ability.informs_strongAuthChanged userId reasonFlag)
    (ability.tells_onStateChanged userId reasonFlag ListenType.strongAuth) listener told htold

/-- A report tells the application nothing. -/
theorem tells_screenLockEvent (htells : Tells property ability.sent) (env : Environment)
    (caller : Caller) (event : String) (param : Int) :
    Tells property (ability.screenLockEvent env caller event param).sent := by
  have hpublished : ∀ change, Tells property (ability.sent ++
      publishEvent change (env.userIdFromCallingUid caller)) := fun change =>
    tells_append htells (tells_publishEvent change _)
  unfold screenLockEvent
  split
  · unfold unlockScreenEvent
    dsimp only
    split
    · exact htells
    · split
      · exact hpublished .screenLockExiting
      · split <;> split
        · exact hpublished .screenUnlocked
        · exact htells
        · exact hpublished .screenUnlocked
        · exact htells
  · split
    · exact htells
    · split
      · unfold lockScreenEvent
        dsimp only
        split
        · exact hpublished .screenLocked
        · exact htells
      · exact htells

theorem informs_storeAuthState (hinforms : Tells SystemEvent.Informs ability.sent)
    (authState : Int) (userId : UserId) :
    Tells SystemEvent.Informs (ability.storeAuthState authState userId).sent := by
  refine tells_append hinforms (tells_append ?_ (ability.informs_preAuthStateNotify _ _))
  split
  · dsimp only
    split
    · exact ability.tells_onStateChanged _ _ _
    · exact tells_nil
  · exact tells_nil

theorem informs_storeUnlockPolicy (hinforms : Tells SystemEvent.Informs ability.sent)
    (env : Environment) (userId : UserId) (policy : Int) :
    Tells SystemEvent.Informs (ability.storeUnlockPolicy env userId policy).sent := by
  unfold storeUnlockPolicy
  split
  · exact hinforms
  · exact tells_append hinforms
      (ability.tells_systemEventCallBack (List.mem_of_mem_getLast? rfl))

theorem informs_onNotification (hinforms : Tells SystemEvent.Informs ability.sent)
    (env : Environment) (notification : Notification) :
    Tells SystemEvent.Informs (ability.onNotification env notification).sent := by
  obtain ⟨store, heq⟩ := ability.onNotification_touches env notification
  rw [heq]
  cases notification with
  | activeUser targetUser => exact informs_enterStrongAuth hinforms env _
  | accountUnlocked targetUser => exact informs_enterStrongAuth hinforms env _
  | credChange callingUid userId authType eventType isSilentCredChange =>
      dsimp only [notice]
      split
      · exact informs_enterStrongAuth hinforms env _
      · exact hinforms
  | authSuccess userId authType isWidgetAuth => exact informs_enterStrongAuth hinforms env _
  | credentialInfo userId result infoList => exact informs_enterStrongAuth hinforms env _
  | timerFired userId => exact informs_enterStrongAuth hinforms env _
  | destroyAllStrongAuthTimer => exact informs_enterStrongAuth hinforms env _
  | removeUser | initUserId | credentialUpdated | remoteDied => exact hinforms

end Informing

section Asking

/-- What a request asks of the application. -/
def asks : Request → Option SystemEvent
  | .unlockScreen _ | .unlock _ => some { eventType := SystemEvent.unlockscreen }
  | .lock _ | .lockUser _ => some { eventType := SystemEvent.lockscreen }
  | _ => none

variable (ability : ScreenLockSystemAbility)

theorem perform_sent_of_asks (env : Environment) (caller : Caller) {request : Request}
    {asked : SystemEvent} (hasks : asks request = some asked) :
    (ability.perform env caller request).sent =
      ability.sent ++ ability.systemEventCallBack asked := by
  cases request with
  | unlockScreen | unlock | lock | lockUser =>
      obtain rfl := Option.some.inj hasks
      rfl
  | _ => cases hasks

theorem informs_perform {ability : ScreenLockSystemAbility}
    (hinforms : Tells SystemEvent.Informs ability.sent) (env : Environment) (caller : Caller)
    {request : Request} (hasks : asks request = none) :
    Tells SystemEvent.Informs (ability.perform env caller request).sent := by
  cases request with
  | unlockScreen | unlock | lock | lockUser => cases hasks
  | onSystemEvent | registerInnerListener | unRegisterInnerListener => exact hinforms
  | sendScreenLockEvent event param =>
      exact tells_screenLockEvent hinforms env caller event param
  | setScreenLockDisabled disable userId =>
      obtain ⟨store, heq⟩ := ability.freshDisabledState_touches env disable userId
      rw [perform, heq]
      exact hinforms
  | setScreenLockAuthState authState userId =>
      exact informs_storeAuthState hinforms authState userId
  | requestStrongAuth reasonFlag userId => exact informs_enterStrongAuth hinforms env _
  | setUnlockPolicy userId policy => exact informs_storeUnlockPolicy hinforms env userId policy

/-- What an entry asks of the application. -/
def askedBy : ServiceEvent → Option SystemEvent
  | .call env caller request =>
      if accepts env caller ability.readied request then asks request else none
  | _ => none

theorem step_sent_of_asked {event : ServiceEvent} {asked : SystemEvent}
    (hasked : ability.askedBy event = some asked) :
    (ability.step event).sent = ability.systemEventCallBack asked := by
  cases event with
  | call env caller request =>
      rw [askedBy] at hasked
      split at hasked
      · next haccepts =>
          change (ability.readied.handle env caller request).2.sent = _
          rw [handle_eq, if_pos haccepts, ability.readied.perform_sent_of_asks env caller hasked]
          rfl
      · cases hasked
  | _ => cases hasked

/-- What does not ask informs. -/
theorem informs_step {event : ServiceEvent} (hasked : ability.askedBy event = none) :
    Tells SystemEvent.Informs (ability.step event).sent := by
  cases event with
  | call env caller request =>
      change Tells SystemEvent.Informs (ability.readied.handle env caller request).2.sent
      rw [handle_eq]
      rw [askedBy] at hasked
      split
      · next haccepts =>
          rw [if_pos haccepts] at hasked
          exact informs_perform tells_nil env caller hasked
      · exact tells_nil
  | notify env notification => exact informs_onNotification tells_nil env notification
  | runLockTask | runUnlockTask => exact tells_nil

theorem step_systemEventListener (event : ServiceEvent) :
    (ability.step event).systemEventListener =
      match event with
      | .call _ caller (.onSystemEvent listener) =>
          if mayControl caller then listener else ability.systemEventListener
      | _ => ability.systemEventListener := by
  cases event with
  | call env caller request =>
      change (ability.readied.handle env caller request).2.systemEventListener = _
      obtain ⟨queue, store, effects, heq⟩ := ability.readied.perform_touches env caller request
      rw [handle_eq, heq]
      cases request with
      | onSystemEvent listener =>
          have haccepts : accepts env caller ability.readied (.onSystemEvent listener) =
              mayControl caller := rfl
          dsimp only
          rw [haccepts]
          split <;> rfl
      | _ => split <;> rfl
  | notify env notification =>
      change (ability.readied.onNotification env notification).systemEventListener = _
      obtain ⟨store, heq⟩ := ability.readied.onNotification_touches env notification
      rw [heq]
      cases notification with
      | credChange =>
          dsimp only [notice]
          split <;> rfl
      | _ => rfl
  | runLockTask | runUnlockTask => rfl

end Asking

end ScreenLockSystemAbility

namespace PoweredService

section Telling

/-- What `OnDisplayPowerEvent` passes on. -/
def displayed (event : DisplayPowerEvent) (status : EventStatus) : Option SystemEvent :=
  match event, status with
  | .wakeUp, .begins => some { eventType := SystemEvent.beginWakeup }
  | .wakeUp, .ends => some { eventType := SystemEvent.endWakeup }
  | .sleep, .begins => some { eventType := SystemEvent.beginSleep }
  | .sleep, .ends => some { eventType := SystemEvent.endSleep }
  | .displayOn, .begins => some { eventType := SystemEvent.beginScreenOn }
  | .displayOn, .ends => some { eventType := SystemEvent.endScreenOn }
  | .displayOff, .begins => some { eventType := SystemEvent.beginScreenOff }
  | .displayOff, .ends => some { eventType := SystemEvent.endScreenOff }
  | .desktopReady, _ => some { eventType := SystemEvent.exitAnimation }
  | .other _, _ => none

variable (service : PoweredService)

/-- What an entry tells besides what informs. -/
def telling : PoweredEvent → Option SystemEvent
  | .service event => service.ability.askedBy event
  | .displayPower event status => displayed event status
  | .userIamReady key value =>
      if key = iamEventKey then some { eventType := SystemEvent.useriamReady, params := value }
      else none
  | .runTask finds =>
      if finds = true ∧ (service.ability.queue.getD []).head? = some .onSystemReady then
        some { eventType := SystemEvent.systemReady }
      else none

/-- The events sent to the listener. -/
def eventsTo (listener : SystemEventListener) (effects : List Effect) : List SystemEvent :=
  effects.filterMap fun effect => match effect with
    | .systemEvent receiver event => if receiver = listener then some event else none
    | _ => none

/-- What an entry sends to the listener. -/
def told (listener : SystemEventListener) (event : PoweredEvent) : List SystemEvent :=
  eventsTo listener (service.step event).ability.sent

variable {service} {listener : SystemEventListener}

theorem eventsTo_systemEventCallBack {ability : ScreenLockSystemAbility}
    (hlistener : ability.systemEventListener = some listener) (event : SystemEvent) :
    eventsTo listener (ability.systemEventCallBack event) = [event] := by
  simp [eventsTo, ScreenLockSystemAbility.systemEventCallBack, hlistener]

theorem property_of_mem_eventsTo {property : SystemEvent → Prop} {effects : List Effect}
    (htells : ScreenLockSystemAbility.Tells property effects) {event : SystemEvent}
    (hmem : event ∈ eventsTo listener effects) : property event := by
  obtain ⟨effect, heffect, htold⟩ := List.mem_filterMap.mp hmem
  cases effect with
  | systemEvent receiver sent =>
      dsimp only at htold
      split at htold
      · obtain rfl := Option.some.inj htold
        exact htells receiver sent heffect
      · cases htold
  | _ => cases htold

theorem told_report (env : Environment) (caller : Caller) (event : String) (param : Int) :
    service.told listener (.service (.call env caller (.sendScreenLockEvent event param))) =
      [] := by
  have htells : ScreenLockSystemAbility.Tells (fun _ => False) (service.step
      (.service (.call env caller (.sendScreenLockEvent event param)))).ability.sent := by
    change ScreenLockSystemAbility.Tells _ (service.ability.readied.handle env caller
      (.sendScreenLockEvent event param)).2.sent
    rw [ScreenLockSystemAbility.handle_eq]
    split
    · exact ScreenLockSystemAbility.tells_screenLockEvent ScreenLockSystemAbility.tells_nil env
        caller event param
    · exact ScreenLockSystemAbility.tells_nil
  exact List.eq_nil_iff_forall_not_mem.mpr fun _ hmem => property_of_mem_eventsTo htells hmem

/-- An entry from outside that calls the application back tells it this one event. -/
theorem eventsTo_sent_systemEventCallBack
    (hlistener : service.ability.systemEventListener = some listener) (event : SystemEvent) :
    eventsTo listener (service.systemEventCallBack event).ability.sent = [event] :=
  eventsTo_systemEventCallBack hlistener event

theorem told_displayPower (hlistener : service.ability.systemEventListener = some listener)
    (event : DisplayPowerEvent) (status : EventStatus) :
    service.told listener (.displayPower event status) = (displayed event status).toList := by
  cases event with
  | other value => rfl
  | desktopReady => exact eventsTo_sent_systemEventCallBack hlistener _
  | wakeUp | sleep | displayOn | displayOff =>
      cases status <;> exact eventsTo_systemEventCallBack hlistener _

theorem told_userIamReady (hlistener : service.ability.systemEventListener = some listener)
    (key value : String) :
    service.told listener (.userIamReady key value) =
      (service.telling (.userIamReady key value)).toList := by
  by_cases hkey : key = iamEventKey
  · rw [told, step, userIamReadyCallback, if_neg (not_not.mpr hkey), telling, if_pos hkey]
    exact eventsTo_sent_systemEventCallBack hlistener _
  · rw [told, step, userIamReadyCallback, if_pos hkey, telling, if_neg hkey]
    rfl

theorem told_runTask (hlistener : service.ability.systemEventListener = some listener)
    (finds : Bool) :
    service.told listener (.runTask finds) = (service.telling (.runTask finds)).toList := by
  rw [told, step, runTask, telling]
  split
  next rest hqueue =>
    simp only [hqueue, Option.getD_some, List.head?_cons, and_true]
    cases finds with
    | true => exact eventsTo_systemEventCallBack hlistener _
    | false => rfl
  next display rest hqueue => simp [hqueue, eventsTo, ScreenLockSystemAbility.readied]
  next hready hdisplay =>
    have hhead : (service.ability.queue.getD []).head? ≠ some .onSystemReady := by
      intro hhead
      cases hqueue : service.ability.queue with
      | none => simp [hqueue] at hhead
      | some tasks =>
          rw [hqueue, Option.getD_some] at hhead
          obtain ⟨rest, rfl⟩ := List.head?_eq_some_iff.mp hhead
          exact hready rest hqueue
    rw [if_neg fun hboth => hhead hboth.2]
    rfl

/-- A reading of the events to which what informs means nothing finds what the entry tells. -/
theorem filterMap_told {κ : Type*} {reading : SystemEvent → Option κ}
    (hlistener : service.ability.systemEventListener = some listener)
    (hreading : ∀ event, event.Informs → reading event = none) (event : PoweredEvent) :
    (service.told listener event).filterMap reading =
      (service.telling event).toList.filterMap reading := by
  cases event with
  | service event =>
      cases hasked : service.ability.askedBy event with
      -- an entry that asks sends nothing else
      | some asked =>
          have hsent := service.ability.step_sent_of_asked hasked
          rw [told, step, hsent, eventsTo_systemEventCallBack hlistener, telling, hasked]
          rfl
      | none =>
          rw [telling, hasked]
          refine List.filterMap_eq_nil_iff.mpr fun told hmem => hreading told ?_
          exact property_of_mem_eventsTo (service.ability.informs_step hasked) hmem
  | displayPower event status => rw [told_displayPower hlistener, telling]
  | userIamReady key value => rw [told_userIamReady hlistener]
  | runTask finds => rw [told_runTask hlistener]

/-- An accepted call puts something else in the place of the listener. -/
def Replaces (listener : SystemEventListener) : PoweredEvent → Prop
  | .service (.call _ caller (.onSystemEvent installed)) =>
      ScreenLockSystemAbility.mayControl caller = true ∧ installed ≠ some listener
  | _ => False

/-- The listener stands until it is replaced. -/
theorem listener_step (hlistener : service.ability.systemEventListener = some listener)
    {event : PoweredEvent} (hkept : ¬ Replaces listener event) :
    (service.step event).ability.systemEventListener = some listener := by
  cases event with
  | service event =>
      rw [step, service.ability.step_systemEventListener event]
      split
      next caller installed =>
        split
        next hcontrol =>
          by_contra hother
          exact hkept ⟨hcontrol, hother⟩
        next => exact hlistener
      next => exact hlistener
  | displayPower event status => cases event <;> cases status <;> exact hlistener
  | userIamReady key value =>
      rw [step, userIamReadyCallback]
      split <;> exact hlistener
  | runTask finds =>
      rw [step, runTask]
      split
      · split <;> exact hlistener
      · exact hlistener
      · exact hlistener

/-- Over a run, too, such a reading finds what the entries tell. -/
theorem filterMap_outputs_told {κ : Type*} {reading : SystemEvent → Option κ}
    (hlistener : service.ability.systemEventListener = some listener)
    (hreading : ∀ event, event.Informs → reading event = none) {events : List PoweredEvent}
    (hkept : ∀ event ∈ events, ¬ Replaces listener event) :
    (machine.outputs (fun service => service.told listener) service events).filterMap reading =
      machine.outputs (fun service event => (service.telling event).toList.filterMap reading)
        service events := by
  rw [machine.outputs_filterMap]
  induction events generalizing service with
  | nil => rfl
  | cons event rest ih =>
      obtain ⟨hfirst, hrest⟩ := List.forall_mem_cons.mp hkept
      have hlater := ih (listener_step hlistener hfirst) hrest
      rw [Machine.outputs, Machine.outputs, filterMap_told hlistener hreading]
      exact congrArg _ hlater

end Telling

section Readings

/-- The event is one that asks. -/
def asking (eventType : String) : Bool :=
  eventType = SystemEvent.unlockscreen || eventType = SystemEvent.lockscreen

/-- The state of the screen that an event tells. -/
def screenStateTold (eventType : String) : Option Int :=
  if eventType = SystemEvent.beginScreenOff then some ScreenState.beginOff
  else if eventType = SystemEvent.endScreenOff then some ScreenState.endOff
  else if eventType = SystemEvent.beginScreenOn then some ScreenState.beginOn
  else if eventType = SystemEvent.endScreenOn then some ScreenState.endOn
  else none

/-- The interactive state that an event tells. -/
def interactiveStateTold (eventType : String) : Option Int :=
  if eventType = SystemEvent.beginWakeup then some InteractiveState.beginWakeup
  else if eventType = SystemEvent.endWakeup then some InteractiveState.endWakeup
  else if eventType = SystemEvent.beginSleep then some InteractiveState.beginSleep
  else if eventType = SystemEvent.endSleep then some InteractiveState.endSleep
  else none

theorem informs_reads_nothing {event : SystemEvent} (hinforms : event.Informs) :
    asking event.eventType = false ∧ screenStateTold event.eventType = none ∧
      interactiveStateTold event.eventType = none := by
  unfold SystemEvent.Informs at hinforms
  generalize event.eventType = eventType at hinforms
  revert eventType
  decide

/-- What an accepted request asks of the application. -/
def askings (service : PoweredService) : PoweredEvent → List SystemEvent
  | .service event => (service.ability.askedBy event).toList
  | _ => []

variable (service : PoweredService) (event : PoweredEvent)

theorem asked_eventType {event : ServiceEvent} {ability : ScreenLockSystemAbility}
    {asked : SystemEvent} (hasked : ability.askedBy event = some asked) :
    asked.eventType = SystemEvent.unlockscreen ∨ asked.eventType = SystemEvent.lockscreen := by
  cases event with
  | call env caller request =>
      rw [ScreenLockSystemAbility.askedBy] at hasked
      split at hasked
      · cases request with
        | unlockScreen | unlock =>
            obtain rfl := Option.some.inj hasked
            exact Or.inl rfl
        | lock | lockUser =>
            obtain rfl := Option.some.inj hasked
            exact Or.inr rfl
        | _ => cases hasked
      · cases hasked
  | _ => cases hasked

/-- What asks is what requests have asked for. -/
theorem filter_telling :
    (service.telling event).toList.filter (fun told => asking told.eventType) =
      service.askings event := by
  cases event with
  | service event =>
      rw [telling, askings]
      cases hasked : service.ability.askedBy event with
      | none => rfl
      | some asked => rcases asked_eventType hasked with htype | htype <;> simp [asking, htype]
  | displayPower event status => cases event <;> cases status <;> rfl
  | userIamReady key value => rw [telling]; split <;> rfl
  | runTask finds => rw [telling]; split <;> rfl

/-- The service keeps the states it tells. -/
theorem states_step :
    (service.step event).screenState =
        ((service.telling event).toList.filterMap
          fun told => screenStateTold told.eventType).getLast?.getD service.screenState ∧
      (service.step event).interactiveState =
        ((service.telling event).toList.filterMap
          fun told => interactiveStateTold told.eventType).getLast?.getD
            service.interactiveState := by
  cases event with
  | service event =>
      rw [telling]
      cases hasked : service.ability.askedBy event with
      | none => exact ⟨rfl, rfl⟩
      | some asked =>
          obtain ⟨eventType, params, userId⟩ := asked
          rcases asked_eventType hasked with htype | htype <;>
            (obtain rfl : eventType = _ := htype; exact ⟨rfl, rfl⟩)
  | displayPower event status => cases event <;> cases status <;> exact ⟨rfl, rfl⟩
  | userIamReady key value =>
      rw [telling, step, userIamReadyCallback]
      by_cases hkey : key = iamEventKey
      · rw [if_pos hkey, if_neg (not_not.mpr hkey)]
        exact ⟨rfl, rfl⟩
      · rw [if_neg hkey, if_pos hkey]
        exact ⟨rfl, rfl⟩
  | runTask finds =>
      have hsame : (service.step (.runTask finds)).screenState = service.screenState ∧
          (service.step (.runTask finds)).interactiveState = service.interactiveState := by
        rw [step, runTask]
        split
        · split <;> exact ⟨rfl, rfl⟩
        · exact ⟨rfl, rfl⟩
        · exact ⟨rfl, rfl⟩
      rw [hsame.1, hsame.2, telling]
      split <;> exact ⟨rfl, rfl⟩

end Readings

end PoweredService

end Screenlock
