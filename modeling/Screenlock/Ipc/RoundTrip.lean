import Screenlock.Client.Manager
import Screenlock.Ipc.Serving
import Screenlock.Ipc.Stub

/-! # Calling through the proxy and the stub

A request the proxy writes reaches the handler of its method, and the handler
reads back what was written. The reply comes back whole, except that some
methods pass an out-parameter on only after a success.
-/

namespace Screenlock

open Foundation ScreenLockManagerStub

variable {σ : Type} {kind : ReplyKind}

/-- The call as the service receives it. The parameter of an unknown event is not sent on. -/
def ManagerCall.received {Listener : Type} : ManagerCall Listener kind → ManagerCall Listener kind
  | .sendScreenLockEvent event param =>
      .sendScreenLockEvent event (if carriesParam event then param else 0)
  | call => call

/-- What the proxy makes of the answer of the service: an out-parameter the
service left alone arrives with the value the handler gave it. -/
def ManagerCall.relay {Listener : Type} (offset : ErrOffset) :
    ManagerCall Listener kind → kind.Answer → kind.Answer
  | .isLocked, (ret, value) | .isScreenLockDisabled _, (ret, value) =>
      if ret = ScreenLockError.ok.toInt offset then (ret, some (value.getD false)) else (ret, none)
  | .isDeviceLocked _, (ret, value) | .isLockedWithUserId _, (ret, value) =>
      (ret, some (value.getD true))
  | .getScreenLockAuthState _, (ret, value) | .getStrongAuth _, (ret, value) =>
      (ret, some (value.getD (-1)))
  | .getUnlockPolicy _, (ret, value) => (ret, some (value.getD 0))
  | .isScreenLocked, answer | .getSecure, answer => answer
  | .unlock _, answer | .unlockScreen _, answer | .lock _, answer | .lockUser _, answer
  | .onSystemEvent _, answer | .sendScreenLockEvent _ _, answer
  | .setScreenLockDisabled _ _, answer | .setScreenLockAuthState _ _ _, answer
  | .requestStrongAuth _ _, answer | .registerInnerListener _ _ _, answer
  | .unRegisterInnerListener _ _ _, answer | .setUnlockPolicy _ _, answer => answer

namespace ScreenLockManagerProxy

section Exchanges

variable (offset : ErrOffset) (casts : RemoteObject → Bool) (service : ManagerService σ)
variable (code : ScreenLockServerIpcInterfaceCode) {handler : Handler σ}
variable (fields : Parcel RemoteObject) (state : σ)

theorem transact_of_handler {α : Type} {failed : α} {readReply : Parcel RemoteObject → α}
    (hhandler : findHandler offset casts service code.value = some handler) :
    transact (onRemoteRequest offset casts service) code fields failed readReply state =
      (readReply (handler fields state).1, (handler fields state).2) := by
  rw [transact, onRemoteRequest_of_handler offset casts service code hhandler]

theorem transactStatus_of_handler {answer : Int × σ}
    (hhandler : findHandler offset casts service code.value = some handler)
    (hreply : handler fields state = replyStatus answer) :
    transactStatus offset (onRemoteRequest offset casts service) code fields state = answer := by
  rw [transactStatus, transact_of_handler offset casts service code fields state hhandler, hreply]
  rfl

/-- A listener that is not cast leaves an empty reply, which is read as 0. -/
theorem transactListener_of_handler {object : RemoteObject}
    (call : RemoteObject → ManagerCall RemoteObject .status)
    (hhandler : findHandler offset casts service code.value = some handler)
    (hreply : handler (fields ++ [.remoteObject object]) state =
      withListener casts service call [.remoteObject object] state) :
    transactListener offset (onRemoteRequest offset casts service) code fields (.of object) state =
      if casts object then service.invoke (call object) state else (0, state) := by
  refine (transact_of_handler offset casts service code _ state hhandler).trans ?_
  rw [hreply]
  unfold withListener
  simp only [Parcel.readRemoteObject_cons]
  split <;> rfl

theorem transact_readOnSuccess {failed : Int × Option Bool} {initial : Bool}
    {answer : (Int × Option Bool) × σ}
    (hhandler : findHandler offset casts service code.value = some handler)
    (hreply : handler fields state = replyOnSuccess offset initial answer) :
    transact (onRemoteRequest offset casts service) code fields failed (readOnSuccess offset)
        state =
      (if answer.1.1 = ScreenLockError.ok.toInt offset then
        (answer.1.1, some (answer.1.2.getD initial))
      else (answer.1.1, none), answer.2) := by
  rw [transact_of_handler offset casts service code fields state hhandler, hreply]
  unfold replyOnSuccess readOnSuccess
  by_cases hok : answer.1.1 = ScreenLockError.ok.toInt offset <;> simp [hok]

end Exchanges

variable {offset : ErrOffset} {casts : RemoteObject → Bool} {service : ManagerService σ}

theorem sendScreenLockEvent_onRemoteRequest (event : String) (param : Int) (state : σ) :
    sendScreenLockEvent offset (onRemoteRequest offset casts service) event param state =
      service.invoke (ManagerCall.sendScreenLockEvent event param).received state := by
  refine transactStatus_of_handler offset casts service .sendScreenLockEvent _ state rfl ?_
  unfold onSendScreenLockEvent ManagerCall.received
  cases hknown : carriesParam event <;> simp [hknown]

theorem invoke_listener (call : ManagerCall RemoteObject .status) {object : RemoteObject}
    (hlistener : call.listener? = some object) (state : σ) :
    invoke offset (onRemoteRequest offset casts service) (call.map ListenerPointer.of) state =
      if casts object then service.invoke call state else (0, state) := by
  have hcall := @transactListener_of_handler _ offset casts service
  cases call with
  | unlock listener =>
      obtain rfl := Option.some.inj hlistener
      exact hcall .unlock [] state .unlock rfl rfl
  | unlockScreen listener =>
      obtain rfl := Option.some.inj hlistener
      exact hcall .unlockScreen [] state .unlockScreen rfl rfl
  | lock listener =>
      obtain rfl := Option.some.inj hlistener
      exact hcall .lock [] state .lock rfl rfl
  | onSystemEvent listener =>
      obtain rfl := Option.some.inj hlistener
      exact hcall .onSystemEvent [] state .onSystemEvent rfl rfl
  | registerInnerListener userId listenType listener =>
      obtain rfl := Option.some.inj hlistener
      exact hcall .registerInnerListener [.int32 userId, .int32 listenType] state
        (.registerInnerListener userId listenType) rfl rfl
  | unRegisterInnerListener userId listenType listener =>
      obtain rfl := Option.some.inj hlistener
      exact hcall .unregisterInnerListener [.int32 userId, .int32 listenType] state
        (.unRegisterInnerListener userId listenType) rfl rfl
  | _ => cases hlistener

theorem invoke_onRemoteRequest (call : ManagerCall RemoteObject kind)
    (hcasts : ∀ object ∈ call.listener?, casts object = true) (state : σ) :
    invoke offset (onRemoteRequest offset casts service) (call.map ListenerPointer.of) state =
      (call.relay offset (service.invoke call.received state).1,
        (service.invoke call.received state).2) := by
  have hcast {call : ManagerCall RemoteObject .status} {object : RemoteObject}
      (hlistener : call.listener? = some object) (hcasts : casts object = true) :=
    (@invoke_listener _ offset casts service call object hlistener state).trans (if_pos hcasts)
  have hstatus := @transactStatus_of_handler _ offset casts service
  have hsuccess := @transact_readOnSuccess _ offset casts service
  cases call with
  | isLocked =>
      rw [ManagerCall.map, invoke, isLocked, hsuccess .isLocked [] state rfl rfl]
      rfl
  | isScreenLocked =>
      rw [ManagerCall.map, invoke, isScreenLocked,
        transact_of_handler offset casts service .isScreenLocked [] state rfl]
      rfl
  | getSecure =>
      rw [ManagerCall.map, invoke, getSecure,
        transact_of_handler offset casts service .isSecureMode [] state rfl]
      rfl
  | unlock listener | unlockScreen listener | lock listener | onSystemEvent listener =>
      exact hcast rfl (hcasts listener rfl)
  | lockUser userId => exact hstatus .lockScreen [.int32 userId] state rfl rfl
  | sendScreenLockEvent event param => exact sendScreenLockEvent_onRemoteRequest event param state
  | isScreenLockDisabled userId =>
      rw [ManagerCall.map, invoke, isScreenLockDisabled,
        hsuccess .isScreenLockDisabled [.int32 userId] state rfl rfl]
      rfl
  | setScreenLockDisabled disable userId =>
      exact hstatus .setScreenLockDisabled [.bool disable, .int32 userId] state rfl rfl
  | setScreenLockAuthState authState userId authToken =>
      exact hstatus .setScreenLockAuthState [.int32 authState, .int32 userId, .string authToken]
        state rfl rfl
  | getScreenLockAuthState userId =>
      rw [ManagerCall.map, invoke, getScreenLockAuthState,
        transact_of_handler offset casts service .getScreenLockAuthState [.int32 userId] state rfl]
      rfl
  | requestStrongAuth reasonFlag userId =>
      exact hstatus .requestStrongAuthState [.int32 reasonFlag, .int32 userId] state rfl rfl
  | getStrongAuth userId =>
      rw [ManagerCall.map, invoke, getStrongAuth,
        transact_of_handler offset casts service .getStrongAuthState [.int32 userId] state rfl]
      rfl
  | isDeviceLocked userId =>
      rw [ManagerCall.map, invoke, isDeviceLocked,
        transact_of_handler offset casts service .isDeviceLocked [.int32 userId] state rfl]
      rfl
  | isLockedWithUserId userId =>
      rw [ManagerCall.map, invoke, isLockedWithUserId,
        transact_of_handler offset casts service .isUserScreenLocked [.int32 userId] state rfl]
      rfl
  | registerInnerListener userId listenType listener
  | unRegisterInnerListener userId listenType listener => exact hcast rfl (hcasts listener rfl)
  | setUnlockPolicy userId policy =>
      rw [ManagerCall.map, invoke, setUnlockPolicy, transact_of_handler offset casts service
        .setUnlockPolicy [.int32 userId, .int32 policy] state rfl]
      rfl
  | getUnlockPolicy userId =>
      rw [ManagerCall.map, invoke, getUnlockPolicy,
        transact_of_handler offset casts service .getUnlockPolicy [.int32 userId] state rfl]
      rfl

/-- The account of a call with a listener that the clients are modelled with:
here the parcel always arrives, and only the cast can fail. -/
theorem invoke_eq_sendRequest {call : ManagerCall RemoteObject .status} {object : RemoteObject}
    (hlistener : call.listener? = some object) {method : σ → ScreenLockError × σ}
    (hmethod : ∀ state, service.invoke call state =
      ((method state).1.toInt offset, (method state).2)) (state : σ) :
    invoke offset (onRemoteRequest offset casts service) (call.map ListenerPointer.of) state =
      { Passage.clear with castsInterface := casts object }.sendRequest offset method state := by
  rw [invoke_listener call hlistener, hmethod, Passage.sendRequest_of_arrives ⟨rfl, rfl, rfl⟩]
  cases casts object <;> rfl

end ScreenLockManagerProxy

/-- The code is the same, and so is an out-parameter that was set beside
`E_SCREENLOCK_OK` or `E_SCREENLOCK_USER_ID_INVALID`. -/
def OutAgrees {α : Type} (offset : ErrOffset) (direct proxied : Int × Option α) : Prop :=
  proxied.1 = direct.1 ∧
    (direct.1 = ScreenLockError.ok.toInt offset ∨
        direct.1 = ScreenLockError.userIdInvalid.toInt offset →
      ∀ value, direct.2 = some value → proxied.2 = some value)

/-- The answer of the service, and what the proxy hands on of it. -/
def ReplyKind.Agree (offset : ErrOffset) :
    (kind : ReplyKind) → (direct proxied : kind.Answer) → Prop
  | .status, direct, proxied | .flag, direct, proxied => proxied = direct
  | .statusAndFlag, direct, proxied | .statusAndNumber, direct, proxied =>
      OutAgrees offset direct proxied

section Answers

variable {α : Type} {offset : ErrOffset}

theorem outAgrees_getD (direct : Int × Option α) (initial : α) :
    OutAgrees offset direct (direct.1, some (direct.2.getD initial)) := by
  refine ⟨rfl, fun _ value hvalue => ?_⟩
  simp [hvalue]

theorem outAgrees_onSuccess {direct : Int × Option α} (initial : α)
    (hknown : direct.1 ≠ ScreenLockError.userIdInvalid.toInt offset) :
    OutAgrees offset direct
      (if direct.1 = ScreenLockError.ok.toInt offset then
        (direct.1, some (direct.2.getD initial))
      else (direct.1, none)) := by
  split
  · exact outAgrees_getD direct initial
  · next hfailed => exact ⟨rfl, fun hcode => absurd hcode (not_or.mpr ⟨hfailed, hknown⟩)⟩

end Answers

namespace Serving

variable {offset : ErrOffset} (serving : Serving) (ability : ScreenLockSystemAbility)

theorem answer_code_ne {α : Type} {result : Except ScreenLockError α} {code : ScreenLockError}
    (hcode : code ≠ .ok) (hresult : ∀ error, result = .error error → error ≠ code) :
    (answer offset result).1 ≠ code.toInt offset := by
  cases result with
  | error error => exact (ScreenLockError.toInt_injective offset).ne (hresult error rfl)
  | ok value => exact (ScreenLockError.toInt_injective offset).ne hcode.symm

theorem isLocked_error {error : ScreenLockError}
    (herror : ability.isLocked serving.env serving.caller = .error error) :
    error ≠ .userIdInvalid := by
  unfold ScreenLockSystemAbility.isLocked at herror
  split at herror <;> cases herror
  exact ScreenLockError.noConfusion

theorem isScreenLockDisabled_error {userId : UserId} {error : ScreenLockError}
    (herror : ability.isScreenLockDisabled serving.env serving.caller userId = .error error) :
    error ≠ .userIdInvalid := by
  unfold ScreenLockSystemAbility.isScreenLockDisabled at herror
  split at herror
  · cases herror
    exact ScreenLockError.noConfusion
  · split at herror <;> cases herror
    exact ScreenLockError.noConfusion

/-- Neither method with a conditional out-parameter answers that an account is
unknown, so nothing that counts is held back. -/
theorem relay_agrees (call : ManagerCall RemoteObject kind) :
    kind.Agree offset (serving.invoke offset ability call.received).1
      (call.relay offset (serving.invoke offset ability call.received).1) := by
  cases call with
  | isLocked =>
      exact outAgrees_onSuccess false
        (answer_code_ne ScreenLockError.noConfusion fun _ => serving.isLocked_error ability)
  | isScreenLockDisabled userId =>
      exact outAgrees_onSuccess false (answer_code_ne ScreenLockError.noConfusion
        fun _ => serving.isScreenLockDisabled_error ability)
  | isDeviceLocked userId => exact outAgrees_getD _ true
  | isLockedWithUserId userId => exact outAgrees_getD _ true
  | getScreenLockAuthState userId => exact outAgrees_getD _ (-1)
  | getStrongAuth userId => exact outAgrees_getD _ (-1)
  | getUnlockPolicy userId => exact outAgrees_getD _ 0
  | _ => rfl

/-- The call over IPC, with a list of the calls the service is given. -/
def callOverIpc (offset : ErrOffset) (casts : RemoteObject → Bool)
    (call : ManagerCall RemoteObject kind) (state : List AnyManagerCall × ScreenLockSystemAbility) :
    kind.Answer × List AnyManagerCall × ScreenLockSystemAbility :=
  ScreenLockManagerProxy.invoke offset
    (onRemoteRequest offset casts (serving.service offset).recorded) (call.map ListenerPointer.of)
    state

/-- A call through the proxy and the stub is one call of the same method, and it
comes back with its answer. -/
theorem callOverIpc_eq_invoke (offset : ErrOffset) (casts : RemoteObject → Bool)
    (call : ManagerCall RemoteObject kind)
    (hcasts : ∀ object ∈ call.listener?, casts object = true) (calls : List AnyManagerCall) :
    let direct := serving.invoke offset ability call.received
    let proxied := serving.callOverIpc offset casts call (calls, ability)
    proxied.2 = (calls ++ [⟨kind, call.received⟩], direct.2) ∧
      kind.Agree offset direct.1 proxied.1 := by
  have hproxied := @ScreenLockManagerProxy.invoke_onRemoteRequest _ _ offset casts
    (serving.service offset).recorded call hcasts (calls, ability)
  refine ⟨congrArg Prod.snd hproxied, ?_⟩
  rw [callOverIpc, hproxied]
  exact serving.relay_agrees ability call

theorem lock_calls_once :
    (callOverIpc ⟨.single 100, .privileged 100, true, id⟩ (.ofSubsystem 41) (fun _ => true)
      (.lock 7) ([], .started ∅)).2.1 = [⟨.status, .lock 7⟩] :=
  congrArg Prod.fst (callOverIpc_eq_invoke ⟨.single 100, .privileged 100, true, id⟩
    (.started ∅) (.ofSubsystem 41) (fun _ => true) (.lock 7) (fun _ _ => rfl) []).1

end Serving

section Clients

open ClientManager

variable {offset : ErrOffset} {casts : RemoteObject → Bool} {call : ClientCall}
  {wrapper : RemoteObject}

/-- What the service meets in a call of the client. -/
def ClientCall.serving (call : ClientCall) : Serving :=
  ⟨call.env, call.caller, call.attaches, fun _ => call.address⟩

/-- The inner-listener calls of the client are calls through the proxy. -/
theorem registerWithService_eq_invoke
    (hpassage : call.passage = { Passage.clear with castsInterface := casts wrapper })
    (listener : ClientListener) (service : ScreenLockSystemAbility) :
    registerWithService offset call listener wrapper service =
      ScreenLockManagerProxy.registerInnerListener offset
        (onRemoteRequest offset casts (call.serving.service offset)) listener.userId
        listener.listenType (.of wrapper) service := by
  rw [registerWithService, hpassage]
  exact (ScreenLockManagerProxy.invoke_eq_sendRequest (@rfl _ (ManagerCall.listener?
    (.registerInnerListener listener.userId listener.listenType wrapper))) (fun _ => rfl) _).symm

theorem unRegisterWithService_eq_invoke
    (hpassage : call.passage = { Passage.clear with castsInterface := casts wrapper })
    (listener : ClientListener) (service : ScreenLockSystemAbility) :
    unRegisterWithService offset call listener wrapper service =
      ScreenLockManagerProxy.unRegisterInnerListener offset
        (onRemoteRequest offset casts (call.serving.service offset)) listener.userId
        listener.listenType (.of wrapper) service := by
  rw [unRegisterWithService, hpassage]
  exact (ScreenLockManagerProxy.invoke_eq_sendRequest (@rfl _ (ManagerCall.listener?
    (.unRegisterInnerListener listener.userId listener.listenType wrapper)))
    (fun _ => rfl) _).symm

end Clients

end Screenlock
