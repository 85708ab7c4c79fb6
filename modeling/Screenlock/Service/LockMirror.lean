import Screenlock.InnerListener.Channel
import Screenlock.InnerListener.Delivery
import Screenlock.Service.DeviceLock
import Screenlock.Service.InnerListeners
import Screenlock.Service.ListenerAccess

/-! # What a listener makes of the changes

A listener of one application stands in one set of the service, for one account
and one type. Each state change of that kind is sent to it once, and the calls its
process makes are those changes in their order. A device-lock listener that asked
once whether the device was locked and then kept the last value it was told holds
the answer the service would give, as soon as nothing is under way to it.
-/

namespace Screenlock

open Foundation InnerListenerIf

/-- The event is about the remote object itself. -/
def ServiceEvent.Touches (remote : RemoteObject) : ServiceEvent → Prop
  | .call _ _ (.registerInnerListener _ _ _ listener)
  | .call _ _ (.unRegisterInnerListener _ _ listener) =>
      listener.bind InnerListener.asObject = some remote
  | .notify _ (.remoteDied died) => died = some remote
  | _ => False

namespace InnerListenerManager

/-- The remote object stands in one set only. -/
def OnlyIn (manager : InnerListenerManager) (remote : RemoteObject) (listenType : ListenType)
    (userId : UserId) : Prop :=
  ∀ kind user, manager.Registered remote kind user ↔ kind = listenType ∧ user = userId

/-- The first registration of a remote object puts it in one set. -/
theorem onlyIn_of_registers {manager : InnerListenerManager} {listener : InnerListener}
    {remote : RemoteObject} (hlive : listener.asObject = some remote)
    (hnew : ∀ kind user, ¬ manager.Registered remote kind user) (callingUser userId : UserId)
    (listenType : ListenType) :
    (manager.registerInnerListener callingUser true userId listenType (some listener)).2.OnlyIn
      remote listenType (listenedAccount callingUser userId) := by
  intro kind user
  rw [registered_registerInnerListener]
  constructor
  · rintro (hold | ⟨_, hplace⟩)
    · exact absurd hold (hnew kind user)
    · exact hplace
  · exact fun hplace => Or.inr ⟨⟨hlive, Or.inr rfl⟩, hplace⟩

section Others

variable {manager : InnerListenerManager} {remote : RemoteObject}

theorem registered_register_other {listener : Option InnerListener}
    (hother : listener.bind InnerListener.asObject ≠ some remote) (callingUser : UserId)
    (attaches : Bool) (account : UserId) (listenType kind : ListenType) (userId : UserId) :
    (manager.registerInnerListener callingUser attaches account listenType listener).2.Registered
        remote kind userId ↔ manager.Registered remote kind userId := by
  cases listener with
  | none => exact Iff.rfl
  | some listener =>
      rw [registered_registerInnerListener]
      exact or_iff_left fun haccepts => hother haccepts.1.1

theorem registered_unRegister_other (hformed : manager.WellFormed)
    {listener : Option InnerListener} (hother : listener.bind InnerListener.asObject ≠ some remote)
    (listenType kind : ListenType) (userId : UserId) :
    (manager.unRegisterInnerListener listenType listener).2.Registered remote kind userId ↔
      manager.Registered remote kind userId := by
  cases listener with
  | none => exact Iff.rfl
  | some listener =>
      cases hlive : listener.asObject with
      | none => rw [manager.unRegisterInnerListener_dead listenType listener hlive]
      | some gone =>
          rw [registered_unRegisterInnerListener hformed listenType listener hlive]
          refine and_iff_left fun hall => hother ?_
          rw [hall.1]
          exact hlive

theorem registered_died_other (hformed : manager.WellFormed) {died : Option RemoteObject}
    (hother : died ≠ some remote) (kind : ListenType) (userId : UserId) :
    (manager.onRemoteDied died).Registered remote kind userId ↔
      manager.Registered remote kind userId := by
  cases died with
  | none => exact Iff.rfl
  | some gone =>
      rw [onRemoteDied_eq hformed]
      split
      · exact Iff.rfl
      next entry hfound =>
        refine registered_unRegister_other hformed ?_ entry.listenType kind userId
        obtain ⟨_, hlive⟩ := find_recipient_eq_some hfound
        exact fun heq => hother (hlive.symm.trans heq)

end Others

end InnerListenerManager

namespace ScreenLockSystemAbility

open InnerListenerManager

section Tables

/-- What an event does to the listener tables, if it reaches them. -/
def innerListenerEntry : ServiceEvent → Option InnerListenerEvent
  | .call env caller (.registerInnerListener attaches userId listenType listener) =>
      if Permitted caller listenType then
        some (.register (env.userIdFromCallingUid caller) attaches userId listenType listener)
      else none
  | .call _ caller (.unRegisterInnerListener _ listenType listener) =>
      if Permitted caller listenType then some (.unRegister listenType listener) else none
  | .notify _ (.remoteDied remote) => some (.remoteDied remote)
  | _ => none

theorem accepts_iff_permitted (caller : Caller) (listenType : ListenType) :
    (!caller.checkSystemPermission &&
        (listenType ≠ ListenType.strongAuth || caller.checkPermission accessScreenLock)) = true ↔
      Permitted caller listenType := by
  unfold Permitted
  by_cases hstrong : listenType = ListenType.strongAuth <;> simp [hstrong]

theorem step_innerListeners (ability : ScreenLockSystemAbility) (event : ServiceEvent) :
    (ability.step event).innerListeners =
      match innerListenerEntry event with
      | none => ability.innerListeners
      | some entry => ability.innerListeners.step entry := by
  cases event with
  | call env caller request =>
      obtain ⟨queue, store, effects, heq⟩ := ability.readied.perform_touches env caller request
      change (ability.readied.handle env caller request).2.innerListeners = _
      rw [handle_eq, heq]
      cases request with
      | registerInnerListener attaches userId listenType listener =>
          have haccepts : accepts env caller ability.readied
              (.registerInnerListener attaches userId listenType listener) = true ↔
                Permitted caller listenType := accepts_iff_permitted caller listenType
          by_cases hpermitted : Permitted caller listenType
          · rw [if_pos (haccepts.mpr hpermitted)]
            simp only [innerListenerEntry, if_pos hpermitted]
            rfl
          · rw [if_neg (mt haccepts.mp hpermitted)]
            simp only [innerListenerEntry, if_neg hpermitted]
            rfl
      | unRegisterInnerListener userId listenType listener =>
          have haccepts : accepts env caller ability.readied
              (.unRegisterInnerListener userId listenType listener) = true ↔
                Permitted caller listenType := accepts_iff_permitted caller listenType
          by_cases hpermitted : Permitted caller listenType
          · rw [if_pos (haccepts.mpr hpermitted)]
            simp only [innerListenerEntry, if_pos hpermitted]
            rfl
          · rw [if_neg (mt haccepts.mp hpermitted)]
            simp only [innerListenerEntry, if_neg hpermitted]
            rfl
      | _ => split <;> rfl
  | notify env notification =>
      obtain ⟨store, heq⟩ := ability.readied.onNotification_touches env notification
      change (ability.readied.onNotification env notification).innerListeners = _
      rw [heq]
      cases notification with
      | credChange callingUid user authType eventType isSilentCredChange =>
          simp only [notice, innerListenerEntry]
          split <;> rfl
      | _ => rfl
  | _ => rfl

variable {ability : ScreenLockSystemAbility} {remote : RemoteObject} {event : ServiceEvent}

theorem wellFormed_step (hformed : ability.innerListeners.WellFormed) (event : ServiceEvent) :
    (ability.step event).innerListeners.WellFormed := by
  rw [step_innerListeners]
  split
  · exact hformed
  · exact step_wellFormed hformed _

theorem wellFormed_run (disk : Std.TreeMap String PreferencesValue)
    (events : List ServiceEvent) :
    (machine.run (started disk) events).innerListeners.WellFormed :=
  @Machine.steps_invariant _ _ machine (fun _ _ => True)
    (fun ability => ability.innerListeners.WellFormed)
    (fun _ event _ hformed => wellFormed_step hformed event) _ _
    ((machine.steps_iff_forall_mem _ _ _).mpr fun _ _ => trivial) empty_wellFormed

/-- An event about other listeners leaves the place of this one. -/
theorem registered_step_other (hformed : ability.innerListeners.WellFormed)
    (hother : ¬ event.Touches remote) (kind : ListenType) (userId : UserId) :
    (ability.step event).innerListeners.Registered remote kind userId ↔
      ability.innerListeners.Registered remote kind userId := by
  rw [step_innerListeners]
  split
  · exact Iff.rfl
  next entry hentry =>
    cases event with
    | call env caller request =>
        cases request with
        | registerInnerListener attaches account listenType listener =>
            simp only [innerListenerEntry] at hentry
            split at hentry
            · cases hentry
              exact registered_register_other hother _ _ _ _ _ _
            · cases hentry
        | unRegisterInnerListener account listenType listener =>
            simp only [innerListenerEntry] at hentry
            split at hentry
            · cases hentry
              exact registered_unRegister_other hformed hother _ _ _
            · cases hentry
        | _ => cases hentry
    | notify env notification =>
        cases notification with
        | remoteDied died =>
            cases hentry
            exact registered_died_other hformed hother _ _
        | _ => cases hentry
    | _ => cases hentry

end Tables

section Messages

variable {remote : RemoteObject} {userId : UserId} {listenType : ListenType}

/-- The requests made to the remote object, one for each listener that stands for it. -/
def requestsTo (remote : RemoteObject) (effects : List Effect) : List Message :=
  effects.flatMap fun effect => match effect with
    | .stateChanged user state _ receivers => receivers.filterMap fun listener =>
        if listener.asObject = some remote then
          some (onListenerStateChanged, ScreenLockInnerListenerProxy.written user state)
        else none
    | _ => []

/-- The states of the account announced to listeners of the type. -/
def announcedTo (listenType : ListenType) (userId : UserId) (effects : List Effect) : List Int :=
  effects.filterMap fun effect => match effect with
    | .stateChanged user state kind _ =>
        if user = userId ∧ kind = listenType then some state else none
    | _ => none

theorem received_requests (receivers : List InnerListener) (user : UserId) (state : Int) :
    (receivers.filterMap fun listener =>
        if listener.asObject = some remote then
          some (onListenerStateChanged, ScreenLockInnerListenerProxy.written user state)
        else none).flatMap ScreenLockInnerListenerStub.received =
      receivers.filterMap fun listener =>
        if listener.asObject = some remote then some (user, state) else none := by
  induction receivers with
  | nil => rfl
  | cons listener rest ih =>
      by_cases hremote : listener.asObject = some remote
      · simp [hremote, received_written, ih]
      · simp [hremote, ih]

/-- A remote object in one set is asked once for each change of that kind, and never
for another one. -/
theorem received_requestsTo {innerListeners : InnerListenerManager} {effects : List Effect}
    (haddressed : Addressed innerListeners effects) (hformed : innerListeners.WellFormed)
    (honly : innerListeners.OnlyIn remote listenType userId)
    (huser : userId ≠ SpecialUserId.userAll) :
    (requestsTo remote effects).flatMap ScreenLockInnerListenerStub.received =
      (announcedTo listenType userId effects).map fun state => (userId, state) := by
  induction effects with
  | nil => rfl
  | cons effect rest ih =>
      have hrest := ih fun user state kind receivers hmem =>
        haddressed user state kind receivers (List.mem_cons_of_mem _ hmem)
      unfold requestsTo announcedTo at hrest ⊢
      rw [List.flatMap_cons, List.flatMap_append, hrest, List.filterMap_cons]
      cases effect with
      | stateChanged user state kind receivers =>
          have hreceivers := haddressed user state kind receivers List.mem_cons_self
          have hdelivered := delivered_eq hformed user state kind remote
          have hall : ¬ innerListeners.Registered remote kind SpecialUserId.userAll :=
            fun hall => huser ((honly _ _).mp hall).2.symm
          rw [delivered, ← hreceivers, if_neg hall, List.append_nil] at hdelivered
          dsimp only
          rw [received_requests, hdelivered]
          by_cases hown : user = userId ∧ kind = listenType
          · obtain ⟨rfl, rfl⟩ := hown
            rw [if_pos ((honly _ _).mpr ⟨rfl, rfl⟩), if_pos ⟨rfl, rfl⟩]
            rfl
          · rw [if_neg fun hplace => hown ((honly _ _).mp hplace).symm, if_neg hown]
            rfl
      | systemEvent listener event => rfl
      | commonEvent event user => rfl

/-- What an entry sends to the remote object. -/
def requests (remote : RemoteObject) (ability : ScreenLockSystemAbility) (event : ServiceEvent) :
    List Message :=
  requestsTo remote (ability.step event).sent

/-- What an entry announces to the listeners of the type for the account. -/
def announcements (listenType : ListenType) (userId : UserId) (ability : ScreenLockSystemAbility)
    (event : ServiceEvent) : List Int :=
  announcedTo listenType userId (ability.step event).sent

/-- The remote object keeps its place while nothing is about it. -/
theorem onlyIn_step {ability : ScreenLockSystemAbility} {event : ServiceEvent}
    (hother : ¬ event.Touches remote) (hformed : ability.innerListeners.WellFormed)
    (honly : ability.innerListeners.OnlyIn remote listenType userId) :
    (ability.step event).innerListeners.OnlyIn remote listenType userId := fun kind user =>
  (registered_step_other hformed hother kind user).trans (honly kind user)

theorem received_outputs {ability : ScreenLockSystemAbility} {events : List ServiceEvent}
    (hothers : ∀ event ∈ events, ¬ event.Touches remote)
    (hformed : ability.innerListeners.WellFormed)
    (honly : ability.innerListeners.OnlyIn remote listenType userId)
    (huser : userId ≠ SpecialUserId.userAll) :
    (machine.outputs (requests remote) ability events).flatMap
        ScreenLockInnerListenerStub.received =
      (machine.outputs (announcements listenType userId) ability events).map
        fun state => (userId, state) := by
  induction events generalizing ability with
  | nil => rfl
  | cons event rest ih =>
      obtain ⟨hother, hrest⟩ := List.forall_mem_cons.mp hothers
      have hlater := ih hrest (wellFormed_step hformed event) (onlyIn_step hother hformed honly)
      rw [Machine.outputs, Machine.outputs, List.flatMap_append, List.map_append]
      have hsent := received_requestsTo (addressed_step event) hformed honly huser
      exact congrArg₂ _ hsent hlater

end Messages

section Arrival

variable {disk : Std.TreeMap String PreferencesValue} {past : List ServiceEvent}
  {remote : RemoteObject} {userId : UserId} {listenType : ListenType}

/-- The service, with the process behind the remote object. -/
def listened (remote : RemoteObject) :
    Machine (Relayed ScreenLockSystemAbility Message (UserId × Int)) (RelayEvent ServiceEvent) :=
  machine.relayed (requests remote) ScreenLockInnerListenerStub.received

/-- The service after `past`, when nothing is under way to the process. -/
def listening (disk : Std.TreeMap String PreferencesValue) (past : List ServiceEvent) :
    Relayed ScreenLockSystemAbility Message (UserId × Int) :=
  ⟨machine.run (started disk) past, Relay.idle⟩

/-- Whatever the threads of the process do, once nothing is under way its listener has
been called once for each change announced to it, and in their order if no call has
overtaken a posted one. -/
theorem state_changes_arrive
    (honly : (machine.run (started disk) past).innerListeners.OnlyIn remote listenType userId)
    (huser : userId ≠ SpecialUserId.userAll) {events : List (RelayEvent ServiceEvent)}
    (hothers : ∀ event ∈ events.filterMap RelayEvent.source?, ¬ event.Touches remote)
    (hsettled : ((listened remote).run (listening disk past) events).relay.Settled) :
    let changes := (machine.outputs (announcements listenType userId)
      (machine.run (started disk) past) (events.filterMap RelayEvent.source?)).map
        fun state => (userId, state)
    ((listened remote).run (listening disk past) events).relay.handled.Perm changes ∧
      ((listened remote).Steps (Machine.Relays fun _ _ => True) (listening disk past) events →
        ((listened remote).run (listening disk past) events).relay.handled = changes) := by
  have hreceived := received_outputs hothers (wellFormed_run disk past) honly huser
  refine ⟨?_, fun hsteps => ?_⟩
  · have hperm := @Machine.relayed_perm _ _ _ _ machine (requests remote)
      ScreenLockInnerListenerStub.received (listening disk past) events
    rw [← hreceived]
    unfold listened at hsettled ⊢
    rw [Relay.trace_of_settled hsettled] at hperm
    exact hperm
  · have htrace := Machine.relayed_trace hsteps
    rw [← hreceived]
    unfold listened at hsettled ⊢
    rw [Relay.trace_of_settled hsettled] at htrace
    exact htrace

/-- A service that knows account 100 and has one device-lock listener of it. -/
def withListener : List ServiceEvent :=
  [.notify (.single 100) (.activeUser 100),
    .call (.single 100) (.privileged 100)
      (.registerInnerListener true 100 ListenType.deviceLock (some ⟨1, some 7⟩))]

theorem withListener_onlyIn :
    (machine.run (started ∅) withListener).innerListeners.OnlyIn 7 ListenType.deviceLock 100 :=
  @onlyIn_of_registers InnerListenerManager.empty ⟨1, some 7⟩ 7 rfl
    (by simp [Registered, getListenerSet, InnerListenerManager.empty]) 100 100
    ListenType.deviceLock

/-- An authentication and the lock of the device after it, the second one called at once. -/
def unlockAndLock : List (RelayEvent ServiceEvent) :=
  [.source (.call (.single 100) (.privileged 100)
      (.setScreenLockAuthState AuthState.authedByCredential 100)),
    .move (.take true),
    .source (.call (.single 100) (.privileged 100)
      (.setScreenLockAuthState AuthState.unauth 100)),
    .move .runPosted,
    .move (.take false)]

theorem unlockAndLock_arrive :
    ((listened 7).run (listening ∅ withListener) unlockAndLock).relay.handled.Perm
      ((machine.outputs (announcements ListenType.deviceLock 100)
        (machine.run (started ∅) withListener)
        (unlockAndLock.filterMap RelayEvent.source?)).map fun state => (100, state)) := by
  refine (state_changes_arrive withListener_onlyIn (by decide) ?_ ⟨rfl, rfl⟩).1
  intro event hevent
  rcases List.mem_cons.mp hevent with rfl | hevent
  · exact id
  · rw [List.mem_singleton.mp hevent]
    exact id

end Arrival

section Mirror

variable {disk : Std.TreeMap String PreferencesValue} {past : List ServiceEvent}
  {remote : RemoteObject} {userId : UserId}

/-- The new value, where an entry changes whether the device is locked for the account. -/
def lockChanges (userId : UserId) (ability : ScreenLockSystemAbility) (event : ServiceEvent) :
    List Bool :=
  if ability.deviceLocked userId = (ability.step event).deviceLocked userId then []
  else [(ability.step event).deviceLocked userId]

/-- The last value told, or the one asked for at first. -/
def held (first : Bool) (calls : List (UserId × Int)) : Bool :=
  ((calls.map DeviceLockedListener.onStateChanged).getLast?.map Prod.snd).getD first

theorem announcements_deviceLock {ability : ScreenLockSystemAbility} {event : ServiceEvent}
    (hannounced : ¬ ability.Unannounced userId event) :
    (announcements ListenType.deviceLock userId ability event).map
        (fun state => DeviceLockedListener.onStateChanged (userId, state)) =
      (lockChanges userId ability event).map fun isLocked => (userId, isLocked) := by
  have hannounces : announcements ListenType.deviceLock userId ability event = _ :=
    (ability.announces_step_iff userId event).mpr hannounced
  rw [hannounces, lockChanges]
  split
  · rfl
  · cases (ability.step event).deviceLocked userId <;> rfl

/-- The last change tells what the service would answer. -/
theorem last_lockChange (ability : ScreenLockSystemAbility) (events : List ServiceEvent) :
    (machine.run ability events).deviceLocked userId =
      (machine.outputs (lockChanges userId) ability events).getLast?.getD
        (ability.deviceLocked userId) := by
  refine @Machine.last_outputs _ _ machine _ (lockChanges userId)
    (fun ability => ability.deviceLocked userId) (fun ability event => ?_) ability events
  unfold lockChanges
  split
  next hsame => exact hsame.symm
  next => rfl

/-- The listener is told the changes of the lock state in their order, and holds the
answer of the service when nothing is under way. -/
theorem lock_mirrored
    (honly : (machine.run (started disk) past).innerListeners.OnlyIn remote
      ListenType.deviceLock userId)
    (huser : userId ≠ SpecialUserId.userAll) {events : List (RelayEvent ServiceEvent)}
    (hsteps : (listened remote).Steps
      (Machine.Relays fun ability event =>
        ¬ event.Touches remote ∧ ¬ ability.Unannounced userId event)
      (listening disk past) events) :
    let final := (listened remote).run (listening disk past) events
    let first := (machine.run (started disk) past).deviceLocked userId
    final.relay.handled.map DeviceLockedListener.onStateChanged <+:
        (machine.outputs (lockChanges userId) (machine.run (started disk) past)
          (events.filterMap RelayEvent.source?)).map (fun isLocked => (userId, isLocked)) ∧
      (final.relay.Settled → ∀ caller, caller.checkSystemPermission = false →
        (isDeviceLocked caller userId final.source).2 = some (held first final.relay.handled)) := by
  intro final first
  have hguards : machine.Steps
      (fun ability event => ¬ event.Touches remote ∧ ¬ ability.Unannounced userId event)
      (machine.run (started disk) past) (events.filterMap RelayEvent.source?) :=
    Machine.relayed_guard hsteps
  have hothers : ∀ event ∈ events.filterMap RelayEvent.source?, ¬ event.Touches remote :=
    (machine.steps_iff_forall_mem (fun event => ¬ event.Touches remote) _ _).mp
      (machine.steps_mono (fun _ _ hboth => hboth.1) hguards)
  have hreceived := received_outputs hothers (wellFormed_run disk past) honly huser
  have htrace := Machine.relayed_trace hsteps
  have hchanges : (final.relay.trace ScreenLockInnerListenerStub.received).map
        DeviceLockedListener.onStateChanged =
      (machine.outputs (lockChanges userId) (machine.run (started disk) past)
        (events.filterMap RelayEvent.source?)).map fun isLocked => (userId, isLocked) := by
    have hannounced := machine.outputs_congr
      (fun _ _ hboth => announcements_deviceLock hboth.2) hguards
    rw [← machine.outputs_map, ← machine.outputs_map] at hannounced
    have hcalls := congrArg (List.map DeviceLockedListener.onStateChanged) hreceived
    rw [List.map_map] at hcalls
    rw [← hannounced]
    exact (congrArg _ htrace).trans hcalls
  refine ⟨?_, fun hsettled caller hallowed => ?_⟩
  · rw [← hchanges]
    exact Relay.handled_prefix.map _
  · have hall : final.relay.trace ScreenLockInnerListenerStub.received = final.relay.handled :=
      Relay.trace_of_settled hsettled
    rw [isDeviceLocked_answer _ caller hallowed userId, held, ← hall, hchanges,
      List.getLast?_map, Option.map_map]
    have hlast : (machine.run (machine.run (started disk) past)
          (events.filterMap RelayEvent.source?)).deviceLocked userId =
        (machine.outputs (lockChanges userId) (machine.run (started disk) past)
          (events.filterMap RelayEvent.source?)).getLast?.getD first :=
      last_lockChange _ _
    have hsource : final.source = _ := Machine.relayed_source (listening disk past) events
    rw [hsource]
    refine congrArg some (hlast.trans ?_)
    simp [Function.comp_def, first]

theorem unlockAndLock_mirrored :
    (isDeviceLocked (.privileged 100) 100
        ((listened 7).run (listening ∅ withListener) unlockAndLock).source).2 =
      some (held true
        ((listened 7).run (listening ∅ withListener) unlockAndLock).relay.handled) := by
  have hsteps : (listened 7).Steps
      (Machine.Relays fun ability event =>
        ¬ event.Touches 7 ∧ ¬ ability.Unannounced 100 event)
      (listening ∅ withListener) unlockAndLock := by
    refine ⟨⟨id, ?_⟩, Or.inl rfl, ⟨id, ?_⟩, trivial, Or.inr rfl, trivial⟩
    · rintro ⟨_, _, _, hnone, _⟩
      revert hnone
      decide
    · rintro ⟨_, _, _, hnone, _⟩
      revert hnone
      decide
  exact (lock_mirrored withListener_onlyIn (by decide) hsteps).2 ⟨rfl, rfl⟩ (.privileged 100) rfl

end Mirror

end ScreenLockSystemAbility

end Screenlock
