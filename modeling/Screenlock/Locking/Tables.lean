import Screenlock.Ipc.Serving
import Screenlock.Locking.Threads
import Screenlock.Service.Steps
import Screenlock.StrongAuth.TimerView

/-! # The locks and the state of the ability

Each event of the ability is one of the threads. What it changes, and what a call is
answered from, are members that the code of its thread uses under their locks.
-/

namespace Screenlock.Locking

open Foundation LockCode

/-- The member is the same in both states. Members that the state of the ability does not
have are not compared. -/
def Same (first second : ScreenLockSystemAbility) : ServiceTable → Prop
  | .queue => first.queue = second.queue
  | .systemEventListener => first.systemEventListener = second.systemEventListener
  | .unlockVecListeners =>
      first.waiting.unlockVecListeners = second.waiting.unlockVecListeners ∧
        first.waiting.unlockVecUserIds = second.waiting.unlockVecUserIds
  | .lockVecListeners => first.waiting.lockVecListeners = second.waiting.lockVecListeners
  | .authStateInfo => first.authStateInfo = second.authStateInfo
  | .isScreenlockedMap => first.isScreenlockedMap = second.isScreenlockedMap
  | .strongAuthStateInfo =>
      first.strongAuth.strongAuthStateInfo = second.strongAuth.strongAuthStateInfo
  | .strongAuthTimerInfo =>
      first.strongAuth.strongAuthTimerInfo = second.strongAuth.strongAuthTimerInfo
  | .innerListenMap => first.innerListeners.innerListenMap = second.innerListeners.innerListenMap
  | .deathRecipientMap =>
      first.innerListeners.deathRecipientMap = second.innerListeners.deathRecipientMap
  | .state | .accountSubscribers | .credChangeListener | .authSuccessListener
  | .subscriber => True

theorem Same.refl (ability : ScreenLockSystemAbility) (table : ServiceTable) :
    Same ability ability table := by
  cases table <;> simp [Same]

theorem Same.trans {first second third : ScreenLockSystemAbility} {table : ServiceTable}
    (hfirst : Same first second table) (hsecond : Same second third table) :
    Same first third table := by
  cases table with
  | unlockVecListeners => exact ⟨hfirst.1.trans hsecond.1, hfirst.2.trans hsecond.2⟩
  | state | accountSubscribers | credChangeListener | authSuccessListener
  | subscriber => exact trivial
  | _ => exact Eq.trans hfirst hsecond

section Threads

/-- The call that a request came with. -/
def requestCall : Request → ManagerCall Unit .status
  | .unlockScreen _ => .unlockScreen ()
  | .unlock _ => .unlock ()
  | .lock _ => .lock ()
  | .lockUser userId => .lockUser userId
  | .onSystemEvent _ => .onSystemEvent ()
  | .sendScreenLockEvent event param => .sendScreenLockEvent event param
  | .setScreenLockDisabled disable userId => .setScreenLockDisabled disable userId
  | .setScreenLockAuthState authState userId => .setScreenLockAuthState authState userId ""
  | .requestStrongAuth reasonFlag userId => .requestStrongAuth reasonFlag userId
  | .setUnlockPolicy userId policy => .setUnlockPolicy userId policy
  | .registerInnerListener _ userId listenType _ => .registerInnerListener userId listenType ()
  | .unRegisterInnerListener userId listenType _ => .unRegisterInnerListener userId listenType ()

def notificationEntry : Notification → ServiceEntry
  | .activeUser _ => .accountActive
  | .removeUser _ => .accountRemove
  | .accountUnlocked _ => .accountUnlocked
  | .initUserId => .onAddSystemAbility
  | .credChange _ _ _ _ _ => .onNotifyCredChangeEvent
  | .credentialUpdated _ _ _ => .onReceiveEvent
  | .authSuccess _ _ _ => .onNotifyAuthSuccessEvent
  | .credentialInfo _ _ _ => .onCredentialInfo
  | .timerFired _ => .strongAuthTimerCallback
  | .destroyAllStrongAuthTimer => .onStop
  | .remoteDied _ => .onRemoteDied

/-- The thread that an event of the ability is the run of. -/
def eventEntry : ServiceEvent → ServiceEntry
  | .call _ _ request => .onRemoteRequest (requestCall request)
  | .notify _ notification => notificationEntry notification
  | .runLockTask _ => .lockTask
  | .runUnlockTask _ => .unlockTask

def eventTables (event : ServiceEvent) : List Table :=
  ((eventEntry event).code false).tables

end Threads

section Changes

variable (env : Environment) (caller : Caller) (ability : ScreenLockSystemAbility)

theorem same_send (effects : List Effect) (table : ServiceTable) :
    Same (ability.send effects) ability table := by
  cases table <;> simp [Same, ScreenLockSystemAbility.send]

theorem same_preferences (store : Preferences) (table : ServiceTable) :
    Same { ability with preferences := store } ability table := by
  cases table <;> simp [Same]

/-- The entries into the strong-authentication manager that leave the timer records alone. -/
theorem enter_timerInfo_of_quiet (manager : StrongAuthManger) (event : StrongAuthEvent)
    (hquiet : match event with
      | .setStrongAuthStat _ _ | .accountUnlocked _ | .getCredInfo _ | .timerFired _ => True
      | _ => False) :
    (manager.enter env event).strongAuthTimerInfo = manager.strongAuthTimerInfo := by
  cases event with
  | setStrongAuthStat userId reasonFlag => exact manager.setStrongAuthStat_timerInfo env userId _
  | accountUnlocked userId => exact manager.notifyStrongAuthChange_timerInfo env userId _
  | timerFired userId => exact manager.setStrongAuthStat_timerInfo env userId _
  | getCredInfo userId =>
      simp only [StrongAuthManger.enter, StrongAuthManger.getCredInfo]
      split
      · rfl
      · split <;> rfl
  | _ => exact absurd hquiet id

theorem perform_same (request : Request) {table : ServiceTable}
    (hout : .service table ∉ eventTables (.call env caller request)) :
    Same (ability.perform env caller request) ability table := by
  cases request with
  | sendScreenLockEvent event param =>
      obtain ⟨queue, effects, -, heq⟩ := ability.screenLockEvent_touches env caller event param
      rw [ScreenLockSystemAbility.perform, heq]
      cases table <;>
        first | exact rfl | exact trivial | exact absurd (List.mem_of_elem_eq_true rfl) hout
  | setScreenLockDisabled disable userId =>
      obtain ⟨store, heq⟩ := ability.freshDisabledState_touches env disable userId
      rw [ScreenLockSystemAbility.perform, heq]
      exact same_preferences ability store table
  | setUnlockPolicy userId policy =>
      obtain ⟨store, effects, -, heq⟩ := ability.storeUnlockPolicy_touches env userId policy
      rw [ScreenLockSystemAbility.perform, heq]
      exact (same_send { ability with preferences := store } effects table).trans
        (same_preferences ability store table)
  | requestStrongAuth reasonFlag userId =>
      cases table with
      | strongAuthTimerInfo =>
          exact enter_timerInfo_of_quiet env ability.strongAuth (.setStrongAuthStat ..) trivial
      | strongAuthStateInfo => exact absurd (List.mem_of_elem_eq_true rfl) hout
      | unlockVecListeners => exact ⟨rfl, rfl⟩
      | state | accountSubscribers | credChangeListener | authSuccessListener
      | subscriber => exact trivial
      | _ => exact rfl
  | _ =>
      cases table <;>
        first
        | exact rfl
        | exact ⟨rfl, rfl⟩
        | exact trivial
        | exact absurd (List.mem_of_elem_eq_true rfl) hout

/-- An entry into the strong-authentication manager changes the members of the manager. -/
theorem enterStrongAuth_same (event : StrongAuthEvent) {table : ServiceTable}
    (hstate : table = .strongAuthStateInfo →
      (ability.strongAuth.enter env event).strongAuthStateInfo =
        ability.strongAuth.strongAuthStateInfo)
    (htimers : table = .strongAuthTimerInfo →
      (ability.strongAuth.enter env event).strongAuthTimerInfo =
        ability.strongAuth.strongAuthTimerInfo) :
    Same (ability.enterStrongAuth env event) ability table := by
  cases table with
  | strongAuthStateInfo => exact hstate rfl
  | strongAuthTimerInfo => exact htimers rfl
  | unlockVecListeners => exact ⟨rfl, rfl⟩
  | state | accountSubscribers | credChangeListener | authSuccessListener
  | subscriber => exact trivial
  | _ => exact rfl

theorem notice_same (notification : Notification) {table : ServiceTable}
    (hout : .service table ∉ eventTables (.notify env notification)) :
    Same (ability.notice env notification) ability table := by
  have hstate : .service .strongAuthStateInfo ∈ eventTables (.notify env notification) →
      table = .strongAuthStateInfo → False := fun hmem heq => hout (heq ▸ hmem)
  have htimers : .service .strongAuthTimerInfo ∈ eventTables (.notify env notification) →
      table = .strongAuthTimerInfo → False := fun hmem heq => hout (heq ▸ hmem)
  have hboth : ∀ event, .service .strongAuthStateInfo ∈ eventTables (.notify env notification) →
      .service .strongAuthTimerInfo ∈ eventTables (.notify env notification) →
      Same (ability.enterStrongAuth env event) ability table := fun event hfirst hsecond =>
    enterStrongAuth_same env ability event (fun heq => (hstate hfirst heq).elim)
      fun heq => (htimers hsecond heq).elim
  have hsame := Same.refl ability table
  cases notification with
  | activeUser targetUser =>
      have hentered := enterStrongAuth_same env ability (.getCredInfo targetUser)
        (fun heq => (hstate (List.mem_of_elem_eq_true rfl) heq).elim)
        fun _ => enter_timerInfo_of_quiet env ability.strongAuth (.getCredInfo targetUser) trivial
      cases table with
      | authStateInfo | isScreenlockedMap =>
          exact absurd (List.mem_of_elem_eq_true rfl) hout
      | _ => exact hentered
  | removeUser userId =>
      cases table with
      | authStateInfo | isScreenlockedMap =>
          exact absurd (List.mem_of_elem_eq_true rfl) hout
      | _ => exact hsame
  | accountUnlocked targetUser =>
      exact enterStrongAuth_same env ability (.accountUnlocked targetUser)
        (fun _ => ability.strongAuth.accountUnlocked_stateInfo env targetUser)
        fun _ => enter_timerInfo_of_quiet env ability.strongAuth (.accountUnlocked _) trivial
  | initUserId | credentialUpdated userId authType credentialCount => exact hsame
  | credChange callingUid userId authType eventType isSilentCredChange =>
      simp only [ScreenLockSystemAbility.notice]
      split
      · exact hboth _ (List.mem_of_elem_eq_true rfl) (List.mem_of_elem_eq_true rfl)
      · exact hsame
  | authSuccess | credentialInfo | timerFired =>
      exact hboth _ (List.mem_of_elem_eq_true rfl) (List.mem_of_elem_eq_true rfl)
  | destroyAllStrongAuthTimer =>
      exact enterStrongAuth_same env ability .destroyAllStrongAuthTimer
        (fun _ => ability.strongAuth.destroyAllStrongAuthTimer_stateInfo)
        fun heq => (htimers (List.mem_of_elem_eq_true rfl) heq).elim
  | remoteDied remote =>
      cases table with
      | innerListenMap | deathRecipientMap => exact absurd (List.mem_of_elem_eq_true rfl) hout
      | _ => exact hsame

theorem runLockTask_unlockVectors (now reportedAt : Nat) (waiting : WaitingListeners) :
    (waiting.runLockTask now reportedAt).unlockVecListeners = waiting.unlockVecListeners ∧
      (waiting.runLockTask now reportedAt).unlockVecUserIds = waiting.unlockVecUserIds := by
  unfold WaitingListeners.runLockTask
  split <;> exact ⟨rfl, rfl⟩

theorem runUnlockTask_lockVector (now reportedAt : Nat) (waiting : WaitingListeners)
    (isScreenlockedMap : Std.TreeMap UserId Bool) :
    (waiting.runUnlockTask now isScreenlockedMap reportedAt).lockVecListeners =
      waiting.lockVecListeners := by
  unfold WaitingListeners.runUnlockTask
  split <;> rfl

/-- What an event changes is used by its thread. -/
theorem step_same (event : ServiceEvent) {table : ServiceTable}
    (hout : .service table ∉ eventTables event) : Same (ability.step event) ability table := by
  have hsame := Same.refl ability.readied table
  have henter : Same (ability.readied.enter event) ability.readied table := by
    cases event with
    | call env caller request =>
        rw [ScreenLockSystemAbility.enter, ScreenLockSystemAbility.handle_eq]
        split
        · exact perform_same env caller ability.readied request hout
        · exact hsame
    | notify env notification =>
        obtain ⟨store, heq⟩ := ability.readied.onNotification_touches env notification
        rw [ScreenLockSystemAbility.enter, heq]
        exact (same_preferences _ store table).trans
          (notice_same env ability.readied notification hout)
    | runLockTask reportedAt =>
        cases table with
        | lockVecListeners => exact absurd (List.mem_of_elem_eq_true rfl) hout
        | unlockVecListeners => exact runLockTask_unlockVectors _ _ _
        | _ => exact hsame
    | runUnlockTask reportedAt =>
        cases table with
        | unlockVecListeners => exact absurd (List.mem_of_elem_eq_true rfl) hout
        | lockVecListeners => exact runUnlockTask_lockVector _ _ _ _
        | _ => exact hsame
  cases table <;> exact henter

theorem run_same {events : List ServiceEvent} {table : ServiceTable}
    (hout : ∀ event ∈ events, .service table ∉ eventTables event) :
    Same (ScreenLockSystemAbility.machine.run ability events) ability table := by
  induction events generalizing ability with
  | nil => exact Same.refl ability table
  | cons event rest ih =>
      have hrest := ih (ability.step event) fun later hmem => hout later (List.mem_cons_of_mem _ hmem)
      exact hrest.trans (step_same ability event (hout event List.mem_cons_self))

end Changes

section Answers

variable {first second : ScreenLockSystemAbility} (env : Environment) (caller : Caller)

/-- The code that a registration returns is found from the death recipients. -/
theorem registerInnerListener_answer {first second : InnerListenerManager}
    (hsame : first.deathRecipientMap = second.deathRecipientMap) (callingUser : UserId)
    (attaches : Bool) (userId : UserId) (listenType : ListenType)
    (listener : Option InnerListener) :
    (first.registerInnerListener callingUser attaches userId listenType listener).1 =
      (second.registerInnerListener callingUser attaches userId listenType listener).1 := by
  cases listener with
  | none => rfl
  | some listener =>
      have hadded : (first.addDeathRecipient attaches listenType listener).1 =
          (second.addDeathRecipient attaches listenType listener).1 := by
        unfold InnerListenerManager.addDeathRecipient
        rw [hsame]
        split
        · rfl
        · split
          · rfl
          · split <;> rfl
      simp only [InnerListenerManager.registerInnerListener, hadded]
      split <;> rfl

theorem unRegisterInnerListener_answer {first second : InnerListenerManager}
    (hsame : first.deathRecipientMap = second.deathRecipientMap) (listenType : ListenType)
    (listener : Option InnerListener) :
    (first.unRegisterInnerListener listenType listener).1 =
      (second.unRegisterInnerListener listenType listener).1 := by
  cases listener with
  | none => rfl
  | some listener =>
      have hremoved : (first.removeDeathRecipient listener).1 =
          (second.removeDeathRecipient listener).1 := by
        unfold InnerListenerManager.removeDeathRecipient
        rw [hsame]
        split
        · rfl
        · split <;> rfl
      simp only [InnerListenerManager.unRegisterInnerListener, hremoved]
      split <;> rfl

theorem freshDisabledState_answer (ability : ScreenLockSystemAbility) (env : Environment)
    (disable : Bool) (userId : UserId) :
    (ability.freshDisabledState env disable userId).1 =
      if env.preferencesUtil = false then .nullptr else .ok := by
  unfold ScreenLockSystemAbility.freshDisabledState
  split
  · rfl
  · split <;> rfl

theorem handle_answer {request : Request}
    (hsame : ∀ table, .service table ∈ eventTables (.call env caller request) →
      Same first second table) :
    (first.handle env caller request).1 = (second.handle env caller request).1 := by
  cases request with
  | setUnlockPolicy userId policy =>
      have hknown : first.authStateInfo = second.authStateInfo :=
        hsame .authStateInfo (List.mem_of_elem_eq_true rfl)
      simp only [ScreenLockSystemAbility.handle, ScreenLockSystemAbility.setUnlockPolicy, hknown]
      repeat' split
      all_goals rfl
  | registerInnerListener attaches userId listenType listener =>
      have hfound := registerInnerListener_answer
        (hsame .deathRecipientMap (List.mem_of_elem_eq_true rfl))
        (env.userIdFromCallingUid caller) attaches userId listenType listener
      simp only [ScreenLockSystemAbility.handle, ScreenLockSystemAbility.registerInnerListener]
      repeat' split
      all_goals first | rfl | exact congrArg ReturnCode.error hfound
  | unRegisterInnerListener userId listenType listener =>
      have hfound := unRegisterInnerListener_answer
        (hsame .deathRecipientMap (List.mem_of_elem_eq_true rfl)) listenType listener
      simp only [ScreenLockSystemAbility.handle, ScreenLockSystemAbility.unRegisterInnerListener]
      repeat' split
      all_goals first | rfl | exact congrArg ReturnCode.error hfound
  | setScreenLockDisabled disable userId =>
      have hanswer := (freshDisabledState_answer first env disable userId).trans
        (freshDisabledState_answer second env disable userId).symm
      simp only [ScreenLockSystemAbility.handle, ScreenLockSystemAbility.setScreenLockDisabled]
      repeat' split
      all_goals first | rfl | exact congrArg ReturnCode.error hanswer
  | unlockScreen listener =>
      simp only [ScreenLockSystemAbility.handle, ScreenLockSystemAbility.unlockScreen]
      split <;> rfl
  | unlock listener =>
      simp only [ScreenLockSystemAbility.handle, ScreenLockSystemAbility.unlock,
        ScreenLockSystemAbility.unlockScreen]
      repeat' split
      all_goals rfl
  | lock | lockUser | onSystemEvent | sendScreenLockEvent | setScreenLockAuthState
  | requestStrongAuth =>
      simp only [ScreenLockSystemAbility.handle, ScreenLockSystemAbility.lock,
        ScreenLockSystemAbility.lockUser, ScreenLockSystemAbility.onSystemEvent,
        ScreenLockSystemAbility.sendScreenLockEvent,
        ScreenLockSystemAbility.setScreenLockAuthState, ScreenLockSystemAbility.requestStrongAuth]
      repeat' split
      all_goals rfl

variable (offset : ErrOffset) (serving : Serving) {kind : ReplyKind}

/-- A call is served by the thread of its request. -/
theorem tables_request (call : ManagerCall RemoteObject .status) :
    eventTables (.call serving.env serving.caller (serving.request call)) =
      (onRemoteRequest false call).tables := by
  cases call with
  | setScreenLockDisabled disable userId => cases disable <;> rfl
  | _ => rfl

/-- A call is answered from what its thread uses, the current user and the settings. -/
theorem invoke_answer (call : ManagerCall RemoteObject kind)
    (hsame : ∀ table, .service table ∈ (onRemoteRequest false call).tables →
      Same first second table)
    (huser : first.currentUser = second.currentUser)
    (hpreferences : first.preferences = second.preferences) :
    (serving.invoke offset first call).1 = (serving.invoke offset second call).1 := by
  have hlocked : .service .isScreenlockedMap ∈ (onRemoteRequest false call).tables →
      first.isScreenLocked serving.env serving.caller =
        second.isScreenLocked serving.env serving.caller := by
    intro hmem
    have hmap : first.isScreenlockedMap = second.isScreenlockedMap := hsame _ hmem
    rw [ScreenLockSystemAbility.isScreenLocked, ScreenLockSystemAbility.isScreenLocked, huser, hmap]
  have hauth : .service .authStateInfo ∈ (onRemoteRequest false call).tables →
      first.authStateInfo = second.authStateInfo := hsame .authStateInfo
  cases kind with
  | status =>
      rw [← tables_request serving call] at hsame
      exact congrArg (ReturnCode.toInt offset) (handle_answer serving.env serving.caller hsame)
  | flag =>
      cases call with
      | isScreenLocked => exact hlocked (List.mem_of_elem_eq_true rfl)
      | getSecure => rfl
  | statusAndFlag =>
      cases call with
      | isLocked =>
          simp only [Serving.invoke, ScreenLockSystemAbility.isLocked,
            hlocked (List.mem_of_elem_eq_true rfl)]
      | isScreenLockDisabled userId =>
          simp only [Serving.invoke, ScreenLockSystemAbility.isScreenLockDisabled, hpreferences]
      | isDeviceLocked userId =>
          simp only [Serving.invoke, ScreenLockSystemAbility.isDeviceLocked,
            hauth (List.mem_of_elem_eq_true rfl)]
      | isLockedWithUserId userId =>
          have hmap : first.isScreenlockedMap = second.isScreenlockedMap :=
            hsame .isScreenlockedMap (List.mem_of_elem_eq_true rfl)
          simp only [Serving.invoke, ScreenLockSystemAbility.isLockedWithUserId, hmap]
  | statusAndNumber =>
      cases call with
      | getScreenLockAuthState userId =>
          simp only [Serving.invoke, ScreenLockSystemAbility.getScreenLockAuthState,
            hauth (List.mem_of_elem_eq_true rfl)]
      | getStrongAuth userId =>
          have hflags : first.strongAuth.strongAuthStateInfo =
              second.strongAuth.strongAuthStateInfo :=
            hsame .strongAuthStateInfo (List.mem_of_elem_eq_true rfl)
          simp only [Serving.invoke, ScreenLockSystemAbility.getStrongAuth,
            StrongAuthManger.getStrongAuthStat, hflags]
      | getUnlockPolicy userId =>
          simp only [Serving.invoke, ScreenLockSystemAbility.getUnlockPolicy,
            hauth (List.mem_of_elem_eq_true rfl), hpreferences]

/-- Threads that share no table with a call, and leave the current user and the settings as
they are, make no difference to its answer. -/
theorem answer_unaffected (call : ManagerCall RemoteObject kind)
    (ability : ScreenLockSystemAbility) {events : List ServiceEvent}
    (hapart : ∀ event ∈ events, ∀ table ∈ eventTables event,
      table ∉ (onRemoteRequest false call).tables)
    (huser : (ScreenLockSystemAbility.machine.run ability events).currentUser =
      ability.currentUser)
    (hpreferences : (ScreenLockSystemAbility.machine.run ability events).preferences =
      ability.preferences) :
    (serving.invoke offset (ScreenLockSystemAbility.machine.run ability events) call).1 =
      (serving.invoke offset ability call).1 := by
  refine invoke_answer offset serving call (fun table hmem => ?_) huser hpreferences
  exact run_same ability fun event hevent huses => hapart event hevent _ huses hmem

theorem lock_leaves_getStrongAuth :
    let serving : Serving := ⟨.single 100, .privileged 100, true, id⟩
    let locked := ScreenLockSystemAbility.machine.run (.started ∅)
      [.call (.single 100) (.privileged 100) (.lock 7)]
    (serving.invoke (.ofSubsystem 0) locked (.getStrongAuth 100)).1 =
      (serving.invoke (.ofSubsystem 0) (.started ∅) (.getStrongAuth 100)).1 := by
  refine answer_unaffected _ _ _ _ (fun event hmem => ?_) rfl rfl
  rw [List.mem_singleton.mp hmem]
  decide

end Answers

end Screenlock.Locking
