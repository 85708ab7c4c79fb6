import Screenlock.Foundation.Parcel
import Screenlock.Service.Ability

/-! # The way of a system event

`ScreenLockSystemAbilityProxy` writes an event into a parcel, and
`ScreenLockSystemAbilityStub` reads one back and hands it to the listener of the
application. The account of the event is not written, and the two strings are
read as arguments of one call, in an order the language leaves open.
-/

namespace Screenlock

open Foundation

/-- The order in which the arguments of a call are evaluated. -/
inductive EvaluationOrder where
  | leftToRight
  | rightToLeft
  deriving DecidableEq, Repr

/-- What `OnRemoteRequest` returns. -/
inductive RequestStatus where
  | noError
  | transactError
  | unknownTransaction
  deriving DecidableEq, Repr

namespace ScreenLockSystemAbilityInterface

def descriptor : String := "OHOS.ScreenLock.ScreenLockSystemAbilityInterface"

def onCallback : Nat := 0

end ScreenLockSystemAbilityInterface

section Channel

open ScreenLockSystemAbilityInterface

variable {ρ σ : Type}

namespace ScreenLockSystemAbilityProxy

/-- The parcel of an event. -/
def written (event : SystemEvent) : Parcel ρ :=
  [.interfaceToken descriptor, .string event.eventType, .string event.params]

/-- `OnCallBack`. The status of the request is only logged. -/
def onCallBack (remote : Option (Nat → Parcel ρ → σ → RequestStatus × σ)) (event : SystemEvent)
    (state : σ) : σ :=
  match remote with
  | none => state
  | some sendRequest => (sendRequest onCallback (written event) state).2

end ScreenLockSystemAbilityProxy

namespace ScreenLockSystemAbilityStub

/-- `SystemEvent(data.ReadString(), data.ReadString())`. -/
def readEvent (order : EvaluationOrder) (data : Parcel ρ) : SystemEvent :=
  let (first, rest) := data.readString
  let (second, _) := rest.readString
  match order with
  | .leftToRight => { eventType := first, params := second }
  | .rightToLeft => { eventType := second, params := first }

/-- `OnRemoteRequest`, over the `OnCallBack` of the application. -/
def onRemoteRequest (order : EvaluationOrder) (onCallBack : SystemEvent → σ → σ) (code : Nat)
    (data : Parcel ρ) (state : σ) : RequestStatus × σ :=
  let (descriptorToken, rest) := data.readInterfaceToken
  if descriptorToken ≠ descriptor then (.transactError, state)
  else if code = onCallback then (.noError, onCallBack (readEvent order rest) state)
  else (.unknownTransaction, state)

end ScreenLockSystemAbilityStub

/-- An event as it comes out at the other end. -/
def SystemEvent.received (order : EvaluationOrder) (event : SystemEvent) : SystemEvent :=
  match order with
  | .leftToRight => { eventType := event.eventType, params := event.params }
  | .rightToLeft => { eventType := event.params, params := event.eventType }

/-- The application is called back once for each event, with what is left of it. -/
theorem onCallBack_onRemoteRequest (order : EvaluationOrder) (client : SystemEvent → σ → σ)
    (event : SystemEvent) (state : σ) :
    ScreenLockSystemAbilityProxy.onCallBack (ρ := ρ)
        (some (ScreenLockSystemAbilityStub.onRemoteRequest order client)) event state =
      client (event.received order) state := by
  cases order <;> rfl

end Channel

namespace SystemEvent

/-- The calls an application sees when `event` is sent to it. -/
def delivered (order : EvaluationOrder) (event : SystemEvent) : List SystemEvent :=
  ScreenLockSystemAbilityProxy.onCallBack
    (some (ScreenLockSystemAbilityStub.onRemoteRequest (ρ := Empty) order
      fun received calls => calls ++ [received])) event []

variable (order : EvaluationOrder) (event : SystemEvent)

theorem delivered_eq : event.delivered order = [event.received order] :=
  onCallBack_onRemoteRequest order _ event []

theorem received_eq_self_iff :
    event.received order = event ↔
      event.userId = -1 ∧ (order = .leftToRight ∨ event.eventType = event.params) := by
  obtain ⟨eventType, params, userId⟩ := event
  cases order with
  | leftToRight => simp [received, eq_comm]
  | rightToLeft =>
      simp only [received, mk.injEq, reduceCtorEq, false_or]
      constructor
      · rintro ⟨-, hstrings, huser⟩
        exact ⟨huser.symm, hstrings⟩
      · rintro ⟨huser, hstrings⟩
        exact ⟨hstrings.symm, hstrings, huser.symm⟩

/-- An event arrives as it was sent where it has no account and its two strings
are read in their order. -/
theorem delivered_asSent_iff :
    event.delivered order = [event] ↔
      event.userId = -1 ∧ (order = .leftToRight ∨ event.eventType = event.params) := by
  rw [delivered_eq, List.singleton_inj]
  exact received_eq_self_iff order event

/-- A change of the authentication asked for, sent while 100 is the current user, is not
told with its account. With the reads the other way round even a plain event is not. -/
theorem strongAuthChanged_arrives_without_account :
    let ability := { ScreenLockSystemAbility.started ∅ with
      systemEventListener := some 1, currentUser := 100 }
    let change : SystemEvent :=
      { eventType := strongAuthChanged, params := toString StrongAuthReasonFlags.afterTimeout
        userId := 100 }
    ability.strongAuthChanged 100 StrongAuthReasonFlags.afterTimeout = [.systemEvent 1 change] ∧
      change.delivered .leftToRight = [{ change with userId := -1 }] ∧
      change.delivered .leftToRight ≠ [change] ∧
      delivered .rightToLeft { eventType := lockscreen } ≠ [{ eventType := lockscreen }] := by
  decide

end SystemEvent

/-- Whatever the order of the reads, the account of a change is lost. -/
theorem ScreenLockSystemAbility.strongAuthChanged_not_asSent {ability : ScreenLockSystemAbility}
    {userId : UserId} {reasonFlag : Int} {listener : SystemEventListener} {event : SystemEvent}
    (hsent : .systemEvent listener event ∈ ability.strongAuthChanged userId reasonFlag)
    (haccount : userId ≠ -1) (order : EvaluationOrder) : event.delivered order ≠ [event] := by
  have huser : event.userId = userId := by
    unfold strongAuthChanged systemEventCallBack at hsent
    split at hsent
    · cases hsent
    · split at hsent
      next => cases hsent
      next =>
        obtain ⟨rfl, rfl⟩ := Effect.systemEvent.inj (List.mem_singleton.mp hsent)
        rfl
  intro harrived
  obtain ⟨hnone, -⟩ := (event.delivered_asSent_iff order).mp harrived
  exact haccount (huser.symm.trans hnone)

end Screenlock
