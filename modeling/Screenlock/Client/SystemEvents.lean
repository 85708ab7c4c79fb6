import Screenlock.Client.Answers

/-! # The listener of system events

`OnSystemEvent` keeps its listener before it asks the service, and keeps it
whatever the answer is. When the service dies the listener kept is told of the
restart. It is the one the service took last exactly while no call that was not
answered with success came with another listener.
-/

namespace Screenlock

open Foundation

/-- `SERVICE_RESTART`. -/
def SystemEvent.serviceRestart : String := "serviceRestart"

/-- `OnSystemEvent` of the proxy makes the checks of `Lock`. -/
def Exchange.onSystemEvent {σ : Type*} (exchange : Exchange) (offset : ErrOffset)
    (method : σ → ScreenLockError × σ) (service : σ) : Int × σ :=
  exchange.lock offset method service

/-- One call of the application, the way to the service and what is met there. -/
structure SystemEventCall where
  /-- `none` for a null pointer. -/
  listener : Option SystemEventListener
  exchange : Exchange
  env : Environment
  caller : Caller

/-- The method of the service that the stub calls. -/
def SystemEventCall.serve (call : SystemEventCall) (listener : SystemEventListener)
    (ability : ScreenLockSystemAbility) : ScreenLockError × ScreenLockSystemAbility :=
  let (code, after) := ability.readied.onSystemEvent call.env call.caller (some listener)
  (code, { after with clock := ability.clock + 1 })

/-- A client and the service. -/
structure SystemEventClient where
  /-- Whether `screenlockManagerProxy_` is not null. -/
  screenlockManagerProxy : Bool
  systemEventListener : Option SystemEventListener
  ability : ScreenLockSystemAbility

namespace SystemEventClient

variable (offset : ErrOffset) (call : SystemEventCall) (client : SystemEventClient)

/-- `GetProxy` yields one. -/
def Finds : Prop :=
  (client.screenlockManagerProxy || call.exchange.findsProxy) = true

instance : Decidable (client.Finds call) := inferInstanceAs (Decidable (_ = _))

def onSystemEvent : Int × SystemEventClient :=
  if client.Finds call then
    let found := { client with screenlockManagerProxy := true }
    match call.listener with
    | none => (ScreenLockError.nullptr.toInt offset, found)
    | some listener =>
        -- kept before the service is asked, and not taken back
        let stored := { found with systemEventListener := some listener }
        let (status, ability) :=
          call.exchange.onSystemEvent offset (call.serve listener) stored.ability
        (status, { stored with ability := ability })
  else (ScreenLockError.nullptr.toInt offset, client)

/-- What `OnRemoteSaDied` tells the listener. -/
def restartNotices : List (SystemEventListener × SystemEvent) :=
  match client.systemEventListener with
  | none => []
  | some listener => [(listener, { eventType := SystemEvent.serviceRestart })]

/-- `OnRemoteSaDied`; the service starts anew from what is on its disk. -/
def onRemoteSaDied (findsProxy : Bool) (disk : Std.TreeMap String PreferencesValue) :
    List (SystemEventListener × SystemEvent) × SystemEventClient :=
  (client.restartNotices,
    { client with
      screenlockManagerProxy := findsProxy
      ability := ScreenLockSystemAbility.started disk })

end SystemEventClient

inductive ListenerEvent where
  | onSystemEvent (call : SystemEventCall)
  /-- Anything else the service does. -/
  | service (event : ServiceEvent)
  | remoteSaDied (findsProxy : Bool) (disk : Std.TreeMap String PreferencesValue)

/-- A client, and the listener of its last call that returned `E_SCREENLOCK_OK`. -/
structure ListeningClient where
  client : SystemEventClient
  accepted : Option SystemEventListener

namespace ListeningClient

variable (offset : ErrOffset)

def machine : Machine ListeningClient ListenerEvent where
  enabled _ _ := True
  step listening event := match event with
    | .onSystemEvent call =>
        let (status, after) := listening.client.onSystemEvent offset call
        ⟨after, if status = ScreenLockError.ok.toInt offset then call.listener
          else listening.accepted⟩
    | .service event =>
        { listening with
          client := { listening.client with ability := listening.client.ability.step event } }
    | .remoteSaDied findsProxy disk =>
        { listening with client := (listening.client.onRemoteSaDied findsProxy disk).2 }

/-- Nothing is kept of a call that fails, and of a restart only the listener of
the last call that succeeded is told. -/
def LeavesNoTrace (listening : ListeningClient) : ListenerEvent → Prop
  | .onSystemEvent call =>
      (listening.client.onSystemEvent offset call).1 ≠ ScreenLockError.ok.toInt offset →
        (listening.client.onSystemEvent offset call).2.systemEventListener =
          listening.client.systemEventListener
  | .service _ => True
  | .remoteSaDied findsProxy disk =>
      ∀ notice ∈ (listening.client.onRemoteSaDied findsProxy disk).1,
        listening.accepted = some notice.1

/-- The call is carried there and back, and its caller may control the lock screen. -/
def Granted (call : SystemEventCall) : Prop :=
  call.exchange.Arrives ∧ call.exchange.Delivers ∧
    ScreenLockSystemAbility.mayControl call.caller = true

/-- A call that comes as far as its listener is granted, or comes with the
listener that is kept already. -/
def GrantedOrKept (listening : ListeningClient) : ListenerEvent → Prop
  | .onSystemEvent call =>
      ∀ listener, call.listener = some listener → listening.client.Finds call →
        Granted call ∨ listening.client.systemEventListener = some listener
  | _ => True

end ListeningClient

section Calls

variable {offset : ErrOffset} {call : SystemEventCall} {client : SystemEventClient}
  {listener : SystemEventListener}

theorem Exchange.lock_ok_iff {σ : Type*} {exchange : Exchange} {method : σ → ScreenLockError × σ}
    {service : σ} :
    (exchange.lock offset method service).1 = ScreenLockError.ok.toInt offset ↔
      exchange.Arrives ∧ exchange.Delivers ∧ (method service).1 = .ok := by
  by_cases harrives : exchange.Arrives
  · rw [Exchange.lock_of_arrives harrives, Exchange.unlock_of_arrives harrives]
    by_cases hdelivers : exchange.Delivers
    · rw [if_pos hdelivers, ScreenLockError.toInt_eq_ok_iff]
      simp [harrives, hdelivers]
    · rw [if_neg hdelivers]
      refine iff_of_false (fun heq => ?_) fun hall => hdelivers hall.2.1
      exact (ScreenLockError.toInt_pos offset .ok).ne heq
  · obtain ⟨code, hcode, heq⟩ :=
      @Exchange.lock_of_not_arrives _ exchange offset method service harrives
    rw [heq, ScreenLockError.toInt_eq_ok_iff]
    refine iff_of_false (fun hok => ?_) fun hall => harrives hall.1
    subst hok
    revert hcode
    decide

theorem SystemEventCall.serve_ok_iff (ability : ScreenLockSystemAbility) :
    (call.serve listener ability).1 = .ok ↔
      ScreenLockSystemAbility.mayControl call.caller = true := by
  unfold serve ScreenLockSystemAbility.onSystemEvent ScreenLockSystemAbility.mayControl
  cases call.caller.systemApp <;> cases call.caller.checkPermission accessScreenLockInner <;> simp

namespace SystemEventClient

theorem onSystemEvent_ok_iff (hfinds : client.Finds call)
    (hlistener : call.listener = some listener) :
    (client.onSystemEvent offset call).1 = ScreenLockError.ok.toInt offset ↔
      ListeningClient.Granted call := by
  unfold onSystemEvent
  rw [if_pos hfinds, hlistener]
  exact Exchange.lock_ok_iff.trans (and_congr_right fun _ =>
    and_congr_right fun _ => call.serve_ok_iff client.ability)

/-- A call that finds the service keeps its listener. -/
theorem onSystemEvent_stores (hfinds : client.Finds call)
    (hlistener : call.listener = some listener) :
    (client.onSystemEvent offset call).2.systemEventListener = some listener := by
  unfold onSystemEvent
  rw [if_pos hfinds, hlistener]

/-- A call that does not come as far as its listener fails and keeps nothing. -/
theorem onSystemEvent_fails (hnone : ¬ (client.Finds call ∧ call.listener.isSome = true)) :
    (client.onSystemEvent offset call).1 ≠ ScreenLockError.ok.toInt offset ∧
      (client.onSystemEvent offset call).2.systemEventListener = client.systemEventListener := by
  have hnullptr : ScreenLockError.nullptr.toInt offset ≠ ScreenLockError.ok.toInt offset :=
    fun heq => by cases (ScreenLockError.toInt_eq_ok_iff offset _).mp heq
  unfold onSystemEvent
  split
  next hfinds =>
    cases hlistener : call.listener with
    | none => exact ⟨hnullptr, rfl⟩
    | some listener => exact absurd ⟨hfinds, by rw [hlistener]; rfl⟩ hnone
  next => exact ⟨hnullptr, rfl⟩

end SystemEventClient

end Calls

namespace ListeningClient

variable {offset : ErrOffset} {listening : ListeningClient}

/-- Where the listener kept is the one accepted last, a step leaves no trace
exactly if it is granted, or keeps what is kept. -/
theorem leavesNoTrace_step_iff
    (hkept : listening.client.systemEventListener = listening.accepted) (event : ListenerEvent) :
    listening.LeavesNoTrace offset event ↔ listening.GrantedOrKept event := by
  cases event with
  | onSystemEvent call =>
      by_cases hreaches : listening.client.Finds call ∧ call.listener.isSome = true
      · obtain ⟨hfinds, hsome⟩ := hreaches
        obtain ⟨listener, hlistener⟩ := Option.isSome_iff_exists.mp hsome
        rw [LeavesNoTrace, ne_eq, SystemEventClient.onSystemEvent_ok_iff hfinds hlistener,
          SystemEventClient.onSystemEvent_stores hfinds hlistener]
        constructor
        · intro hlawful other hother _
          obtain rfl := Option.some.inj (hlistener.symm.trans hother)
          by_cases hgranted : Granted call
          · exact Or.inl hgranted
          · exact Or.inr (hlawful hgranted).symm
        · intro hguard hrefused
          exact ((hguard listener hlistener hfinds).resolve_left hrefused).symm
      · refine iff_of_true (fun _ => (SystemEventClient.onSystemEvent_fails hreaches).2) ?_
        intro listener hlistener hfinds
        exact absurd ⟨hfinds, by rw [hlistener]; rfl⟩ hreaches
  | service event => exact Iff.rfl
  | remoteSaDied findsProxy disk =>
      refine iff_of_true (fun notice hnotice => ?_) trivial
      rw [← hkept]
      unfold SystemEventClient.onRemoteSaDied SystemEventClient.restartNotices at hnotice
      cases hlistener : listening.client.systemEventListener with
      | none => simp [hlistener] at hnotice
      | some listener =>
          simp only [hlistener, List.mem_singleton] at hnotice
          rw [hnotice]

/-- A step under the guard leaves the listener kept and the one accepted last the same. -/
theorem kept_step (hkept : listening.client.systemEventListener = listening.accepted)
    {event : ListenerEvent} (hguard : listening.GrantedOrKept event) :
    ((machine offset).step listening event).client.systemEventListener =
      ((machine offset).step listening event).accepted := by
  cases event with
  | onSystemEvent call =>
      change (listening.client.onSystemEvent offset call).2.systemEventListener =
        if (listening.client.onSystemEvent offset call).1 = ScreenLockError.ok.toInt offset then
          call.listener else listening.accepted
      by_cases hreaches : listening.client.Finds call ∧ call.listener.isSome = true
      · obtain ⟨hfinds, hsome⟩ := hreaches
        obtain ⟨listener, hlistener⟩ := Option.isSome_iff_exists.mp hsome
        rw [SystemEventClient.onSystemEvent_stores hfinds hlistener]
        split
        next => exact hlistener.symm
        next hrefused =>
          rw [SystemEventClient.onSystemEvent_ok_iff hfinds hlistener] at hrefused
          rw [← hkept]
          exact ((hguard listener hlistener hfinds).resolve_left hrefused).symm
      · obtain ⟨hfails, hsame⟩ := @SystemEventClient.onSystemEvent_fails offset _ _ hreaches
        rw [if_neg hfails, hsame, hkept]
  | _ => exact hkept

/-- A client that has not called yet, beside the service. -/
def idle (ability : ScreenLockSystemAbility) : ListeningClient := ⟨⟨false, none, ability⟩, none⟩

/-- No step of a run leaves a trace of a refused listener exactly if every call
that comes as far as its listener is granted, or comes with the one kept already. -/
theorem leavesNoTrace_steps_iff (offset : ErrOffset) (ability : ScreenLockSystemAbility)
    (events : List ListenerEvent) :
    (machine offset).Steps (LeavesNoTrace offset) (idle ability) events ↔
      (machine offset).Steps GrantedOrKept (idle ability) events :=
  (machine offset).steps_congr
    (fun listening => listening.client.systemEventListener = listening.accepted)
    (fun _ _ hkept hguard => kept_step hkept hguard)
    (fun _ event hkept => leavesNoTrace_step_iff hkept event) rfl events

/-- An application without the permission passes its listener on a way without a
failure, and is told of the restart that follows. -/
theorem refused_listener_told :
    ¬ (machine (.ofSubsystem 41)).Steps (LeavesNoTrace (.ofSubsystem 41))
      (idle (ScreenLockSystemAbility.started ∅))
      [.onSystemEvent ⟨some 7, ⟨.clear, true⟩, .single 100, ⟨1, 20000000, .hap, true, []⟩⟩,
        .remoteSaDied true ∅] := by
  intro hsteps
  have htold := hsteps.2.1 (7, { eventType := SystemEvent.serviceRestart }) (by decide)
  revert htold
  decide

end ListeningClient

end Screenlock
