import Screenlock.Foundation.History
import Screenlock.Service.Mediation

/-! # Whom the service tells

A state change goes to the listeners in the sets of its type, and a listener
enters a set only with a granted request that names this very type. The type is
any integer, but the permission is asked for the one under which strong
authentication is told.
-/

namespace Screenlock

open Foundation

namespace InnerListenerManager

variable {manager : InnerListenerManager} {listener : InnerListener} {userId : UserId}
  {listenType : ListenType}

/-- Who stands in a set after a registration stood there before or was registered. -/
theorem mem_registerInnerListener {callingUser account : UserId} {attaches : Bool}
    {kind : ListenType} {entrant : Option InnerListener}
    (hmem : listener ∈ (manager.registerInnerListener callingUser attaches account kind
      entrant).2.getListenerSet userId listenType) :
    listener ∈ manager.getListenerSet userId listenType ∨
      entrant = some listener ∧ kind = listenType ∧ listener.asObject.isSome = true ∧
        (manager.registerInnerListener callingUser attaches account kind entrant).1 = .ok := by
  cases entrant with
  | none => exact Or.inl hmem
  | some entrant =>
      have hsame := manager.addDeathRecipient_innerListenMap attaches kind entrant
      have hresult := manager.addDeathRecipient_result attaches kind entrant
      unfold registerInnerListener at hmem ⊢
      dsimp only at hmem ⊢
      split at hmem
      next hrefused => exact Or.inl (by rwa [getListenerSet_congr hsame] at hmem)
      next haccepted =>
        obtain ⟨remote, hlive, _⟩ := hresult.mp (not_not.mp haccepted)
        rw [if_neg haccepted]
        rw [getListenerSet_addInnerListener, getListenerSet_congr hsame,
          getListenerSet_congr hsame] at hmem
        split at hmem
        next hplace =>
          obtain ⟨rfl, rfl⟩ := hplace
          rcases KeyedList.mem_insertAbsent hmem with hold | rfl
          · exact Or.inl hold
          · exact Or.inr ⟨rfl, rfl, by rw [hlive]; rfl, rfl⟩
        next => exact Or.inl hmem

theorem mem_unRegisterInnerListener {kind : ListenType} {leaver : Option InnerListener}
    (hmem : listener ∈
      (manager.unRegisterInnerListener kind leaver).2.getListenerSet userId listenType) :
    listener ∈ manager.getListenerSet userId listenType := by
  cases leaver with
  | none => exact hmem
  | some leaver =>
      have hsame := manager.removeDeathRecipient_innerListenMap leaver
      unfold unRegisterInnerListener at hmem
      dsimp only at hmem
      split at hmem
      next => rwa [getListenerSet_congr hsame] at hmem
      next =>
        rw [getListenerSet_removeInnerListener, getListenerSet_congr hsame,
          getListenerSet_congr hsame] at hmem
        split at hmem
        next hplace =>
          rw [hplace.1]
          exact List.mem_of_mem_eraseP hmem
        next => exact hmem

theorem mem_onRemoteDied {remote : Option RemoteObject}
    (hmem : listener ∈ (manager.onRemoteDied remote).getListenerSet userId listenType) :
    listener ∈ manager.getListenerSet userId listenType := by
  cases remote with
  | none => exact hmem
  | some obj =>
      have hwalk : ∀ (entries : List DeathRecord) (current : InnerListenerManager),
          listener ∈ (entries.foldl (fun current entry =>
            if entry.listener.asObject = some obj then
              (current.unRegisterInnerListener entry.listenType (some entry.listener)).2
            else current) current).getListenerSet userId listenType →
          listener ∈ current.getListenerSet userId listenType := by
        intro entries
        induction entries with
        | nil => exact fun _ hmem => hmem
        | cons entry rest ih =>
            intro current hmem
            rw [List.foldl_cons] at hmem
            have hnext := ih _ hmem
            split at hnext
            · exact mem_unRegisterInnerListener hnext
            · exact hnext
      exact hwalk manager.deathRecipientMap manager hmem

end InnerListenerManager

namespace ScreenLockSystemAbility

/-- A call that registers the remote object under the type and reports success,
from a caller that may hear of the type. -/
def Registers (remote : RemoteObject) (listenType : ListenType)
    (ability : ScreenLockSystemAbility) : ServiceEvent → Prop
  | .call env caller (.registerInnerListener attaches userId kind listener) =>
      kind = listenType ∧ listener.bind InnerListener.asObject = some remote ∧ caller.Trusted ∧
        (listenType = ListenType.strongAuth → accessScreenLock ∈ caller.permissions) ∧
        (ability.handle env caller
          (.registerInnerListener attaches userId kind listener)).1 = .error .ok
  | _ => False

/-- The remote object was registered under the type by a caller that may hear of it. -/
def RegisteredBy (disk : Std.TreeMap String PreferencesValue) (past : List ServiceEvent)
    (listenType : ListenType) (remote : RemoteObject) : Prop :=
  machine.Happened (Registers remote listenType) (started disk) past

/-- Every state change among the effects goes to the listeners in the sets of its type. -/
def Addressed (innerListeners : InnerListenerManager) (effects : List Effect) : Prop :=
  ∀ userId state listenType receivers,
    Effect.stateChanged userId state listenType receivers ∈ effects →
      receivers = innerListeners.onStateChanged userId listenType

section Effects

variable {ability : ScreenLockSystemAbility} {env : Environment} {caller : Caller}
  {innerListeners : InnerListenerManager} {effects : List Effect}

theorem Addressed.append {more : List Effect} (hfirst : Addressed innerListeners effects)
    (hsecond : Addressed innerListeners more) : Addressed innerListeners (effects ++ more) := by
  intro userId state listenType receivers hmem
  rcases List.mem_append.mp hmem with hmem | hmem
  · exact hfirst userId state listenType receivers hmem
  · exact hsecond userId state listenType receivers hmem

theorem Quiet.addressed (hquiet : Quiet effects) : Addressed innerListeners effects :=
  fun userId state listenType receivers hmem =>
    absurd hmem (hquiet userId state listenType receivers)

theorem addressed_onStateChanged (userId : UserId) (state : Int) (listenType : ListenType) :
    Addressed ability.innerListeners (ability.onStateChanged userId state listenType) := by
  intro user value kind receivers hmem
  cases List.mem_singleton.mp hmem
  rfl

theorem addressed_enterStrongAuth (event : StrongAuthEvent)
    (hsent : Addressed ability.innerListeners ability.sent) :
    Addressed ability.innerListeners (ability.enterStrongAuth env event).sent := by
  apply Addressed.append hsent
  intro userId state listenType receivers hmem
  obtain ⟨⟨user, reasonFlag⟩, _, hmem⟩ := List.mem_flatMap.mp hmem
  have hevent : Quiet (ability.strongAuthChanged user reasonFlag) := by
    unfold strongAuthChanged
    split
    · exact quiet_nil
    · exact ability.quiet_systemEventCallBack _
  exact hevent.addressed.append (addressed_onStateChanged user reasonFlag ListenType.strongAuth)
    userId state listenType receivers hmem

theorem addressed_storeAuthState (authState : Int) (userId : UserId)
    (hsent : Addressed ability.innerListeners ability.sent) :
    Addressed ability.innerListeners (ability.storeAuthState authState userId).sent := by
  apply Addressed.append hsent
  apply Addressed.append
  · split
    · dsimp only
      split
      · exact addressed_onStateChanged userId _ ListenType.deviceLock
      · exact quiet_nil.addressed
    · exact quiet_nil.addressed
  · exact (ability.quiet_preAuthStateNotify userId authState).addressed

theorem addressed_perform (request : Request)
    (hsent : Addressed ability.innerListeners ability.sent) :
    Addressed ability.innerListeners (ability.perform env caller request).sent := by
  have hevent (event : SystemEvent) :
      Addressed ability.innerListeners (ability.sent ++ ability.systemEventCallBack event) :=
    hsent.append (ability.quiet_systemEventCallBack event).addressed
  cases request with
  | unlockScreen listener | unlock listener | lock listener | lockUser userId => exact hevent _
  | sendScreenLockEvent event param =>
      obtain ⟨queue, effects, hquiet, heq⟩ := ability.screenLockEvent_touches env caller event param
      rw [perform, heq]
      exact hsent.append hquiet.addressed
  | setScreenLockDisabled disable userId =>
      obtain ⟨store, heq⟩ := ability.freshDisabledState_touches env disable userId
      rw [perform, heq]
      exact hsent
  | setScreenLockAuthState authState userId => exact addressed_storeAuthState authState userId hsent
  | requestStrongAuth reasonFlag userId => exact addressed_enterStrongAuth _ hsent
  | setUnlockPolicy userId policy =>
      obtain ⟨store, effects, hquiet, heq⟩ := ability.storeUnlockPolicy_touches env userId policy
      rw [perform, heq]
      exact hsent.append hquiet.addressed
  | _ => exact hsent

theorem addressed_onNotification (notification : Notification)
    (hsent : Addressed ability.innerListeners ability.sent) :
    Addressed ability.innerListeners (ability.onNotification env notification).sent := by
  obtain ⟨store, heq⟩ := ability.onNotification_touches env notification
  rw [heq]
  cases notification with
  | activeUser | accountUnlocked | authSuccess | credentialInfo | timerFired
  | destroyAllStrongAuthTimer => exact addressed_enterStrongAuth _ hsent
  | credChange callingUid userId authType eventType isSilentCredChange =>
      simp only [notice]
      split
      · exact addressed_enterStrongAuth _ hsent
      · exact hsent
  | _ => exact hsent

/-- What an entry sends is addressed by the sets it found. -/
theorem addressed_step (event : ServiceEvent) :
    Addressed ability.innerListeners (ability.step event).sent := by
  have hsent : Addressed ability.readied.innerListeners ability.readied.sent :=
    quiet_nil.addressed
  cases event with
  | call env caller request =>
      change Addressed ability.readied.innerListeners
        (ability.readied.handle env caller request).2.sent
      rw [handle_eq]
      split
      · exact addressed_perform request hsent
      · exact hsent
  | notify env notification => exact addressed_onNotification notification hsent
  | runLockTask reportedAt => exact hsent
  | runUnlockTask reportedAt => exact hsent

end Effects

section Sets

variable {ability : ScreenLockSystemAbility} {listener : InnerListener} {userId : UserId}
  {listenType : ListenType}

/-- A listener enters a set only with a granted request under its type. -/
theorem mem_getListenerSet_step {event : ServiceEvent}
    (hmem : listener ∈ (ability.step event).innerListeners.getListenerSet userId listenType) :
    listener ∈ ability.innerListeners.getListenerSet userId listenType ∨
      ∃ remote, listener.asObject = some remote ∧ Registers remote listenType ability event := by
  cases event with
  | call env caller request =>
      change listener ∈ (ability.readied.handle env caller request).2.innerListeners.getListenerSet
        userId listenType at hmem
      rw [handle_eq] at hmem
      split at hmem
      next haccepts =>
        obtain ⟨queue, store, effects, heq⟩ := ability.readied.perform_touches env caller request
        rw [heq] at hmem
        cases request with
        | registerInnerListener attaches account kind entrant =>
            rcases InnerListenerManager.mem_registerInnerListener hmem with
              hold | ⟨rfl, rfl, hlive, hresult⟩
            · exact Or.inl hold
            · obtain ⟨remote, hremote⟩ := Option.isSome_iff_exists.mp hlive
              obtain ⟨htrusted, hpermission⟩ := hasPrivilege_of_accepts env caller _ haccepts
              refine Or.inr ⟨remote, hremote, rfl, hremote, htrusted, hpermission, ?_⟩
              exact (handle_ok_iff env caller ability _).mpr ⟨haccepts, hresult⟩
        | unRegisterInnerListener account kind leaver =>
            exact Or.inl (InnerListenerManager.mem_unRegisterInnerListener hmem)
        | _ => exact Or.inl hmem
      next => exact Or.inl hmem
  | notify env notification =>
      obtain ⟨store, heq⟩ := ability.readied.onNotification_touches env notification
      change listener ∈ (ability.readied.onNotification env
        notification).innerListeners.getListenerSet userId listenType at hmem
      rw [heq] at hmem
      cases notification with
      | remoteDied remote => exact Or.inl (InnerListenerManager.mem_onRemoteDied hmem)
      | credChange callingUid user authType eventType isSilentCredChange =>
          simp only [notice] at hmem
          split at hmem
          · exact Or.inl hmem
          · exact Or.inl hmem
      | _ => exact Or.inl hmem
  | runLockTask reportedAt => exact Or.inl hmem
  | runUnlockTask reportedAt => exact Or.inl hmem

variable {disk : Std.TreeMap String PreferencesValue} {past : List ServiceEvent}

theorem registeredBy_of_mem
    (hmem : listener ∈
      (machine.run (started disk) past).innerListeners.getListenerSet userId listenType) :
    ∃ remote, listener.asObject = some remote ∧ RegisteredBy disk past listenType remote := by
  have hhappened := @Machine.happened_of_run _ _ machine
    (fun ability event =>
      ∃ remote, listener.asObject = some remote ∧ Registers remote listenType ability event)
    (started disk) past
    (fun ability => listener ∈ ability.innerListeners.getListenerSet userId listenType)
    List.not_mem_nil (fun _ _ hmem => mem_getListenerSet_step hmem) hmem
  obtain ⟨before, event, after, hsplit, remote, hremote, hregisters⟩ := hhappened
  exact ⟨remote, hremote, before, event, after, hsplit, hregisters⟩

end Sets

/-- Information flows to authorised listeners only. In every run a set holds, and
a state change reaches, remote objects alone that an earlier granted call has
registered under the very same type. -/
theorem state_changes_authorised (disk : Std.TreeMap String PreferencesValue)
    (past : List ServiceEvent) :
    (∀ remote listenType userId,
      (machine.run (started disk) past).innerListeners.Registered remote listenType userId →
        RegisteredBy disk past listenType remote) ∧
      ∀ event userId state listenType receivers,
        Effect.stateChanged userId state listenType receivers ∈
            ((machine.run (started disk) past).step event).sent →
          ∀ listener ∈ receivers, ∃ remote, listener.asObject = some remote ∧
            RegisteredBy disk past listenType remote := by
  constructor
  · intro remote listenType userId hregistered
    obtain ⟨listener, hmem, hobject⟩ := List.mem_map.mp hregistered
    obtain ⟨other, hother, hby⟩ := registeredBy_of_mem hmem
    obtain rfl := Option.some.inj (hobject.symm.trans hother)
    exact hby
  · intro event userId state listenType receivers hsent listener hlistener
    rw [addressed_step event userId state listenType receivers hsent] at hlistener
    rcases List.mem_append.mp hlistener with hown | hall
    · exact registeredBy_of_mem hown
    · exact registeredBy_of_mem hall

end ScreenLockSystemAbility

end Screenlock
