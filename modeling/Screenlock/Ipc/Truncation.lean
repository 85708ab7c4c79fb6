import Screenlock.Ipc.Serving
import Screenlock.Ipc.Stub
import Screenlock.Service.Untouched

/-! # Requests cut short

A request can end before its last argument. Two handlers check what they read,
and those of a listener refuse a null object. The others go on with defaults,
and 0 is an account, a policy and a reason.
-/

namespace Screenlock

open Foundation ScreenLockManagerStub

variable {kind : ReplyKind}

namespace ManagerCall

/-- What the service is given for a request that ends after `reached` of its
fields; none where the handler refuses to go on. -/
def givenAfterCut (reached : Nat) :
    ManagerCall ListenerPointer kind → Option (ManagerCall RemoteObject kind)
  | lockUser _ => some (lockUser 0)
  | sendScreenLockEvent event _ =>
      if reached = 0 then some (sendScreenLockEvent "" 0)
      else if carriesParam event then none
      else some (sendScreenLockEvent event 0)
  | isScreenLockDisabled _ => some (isScreenLockDisabled 0)
  | setScreenLockDisabled disable _ =>
      some (setScreenLockDisabled (if reached = 0 then false else disable) 0)
  | getScreenLockAuthState _ => some (getScreenLockAuthState 0)
  | requestStrongAuth reasonFlag _ =>
      some (requestStrongAuth (if reached = 0 then 0 else reasonFlag) 0)
  | getStrongAuth _ => some (getStrongAuth 0)
  | isDeviceLocked _ => some (isDeviceLocked 0)
  | isLockedWithUserId _ => some (isLockedWithUserId 0)
  | setUnlockPolicy userId _ => some (setUnlockPolicy (if reached = 0 then 0 else userId) 0)
  | getUnlockPolicy _ => some (getUnlockPolicy 0)
  | _ => none

end ManagerCall

section Cut

variable {σ : Type} {offset : ErrOffset} {casts : RemoteObject → Bool} {service : ManagerService σ}

theorem onRemoteRequest_cut {call : ManagerCall ListenerPointer kind} {code : Nat}
    {fields : Parcel RemoteObject} {reached : Nat}
    (hwritten : ScreenLockManagerProxy.written offset call =
      some (code, .interfaceToken getDescriptor :: fields))
    (hcut : reached < fields.length) (state : σ) :
    (onRemoteRequest offset casts service code
        (.interfaceToken getDescriptor :: fields.take reached) state).2 =
      match call.givenAfterCut reached with
      | none => state
      | some given => (service.invoke given state).2 := by
  have hserved {code : ScreenLockServerIpcInterfaceCode} {handler : Handler σ}
      (rest : Parcel RemoteObject)
      (hhandler : findHandler offset casts service code.value = some handler) :
      (onRemoteRequest offset casts service code.value (.interfaceToken getDescriptor :: rest)
        state).2 = (handler rest state).2 :=
    congrArg Prod.snd (onRemoteRequest_of_handler offset casts service code hhandler rest state)
  cases call with
  | isLocked | isScreenLocked | getSecure =>
      cases hwritten
      exact absurd hcut (Nat.not_lt_zero reached)
  | unlock listener | unlockScreen listener | lock listener | onSystemEvent listener =>
      rcases listener with _ | ⟨_ | object⟩ <;> cases hwritten
      obtain rfl : reached = 0 := Nat.lt_one_iff.mp hcut
      exact (hserved [] (by rfl)).trans rfl
  | isScreenLockDisabled userId =>
      cases hwritten
      obtain rfl : reached = 0 := Nat.lt_one_iff.mp hcut
      exact (hserved [] (by rfl)).trans (replyOnSuccess_state offset false _)
  | lockUser userId | getScreenLockAuthState userId | getStrongAuth userId
  | isDeviceLocked userId | isLockedWithUserId userId | getUnlockPolicy userId =>
      cases hwritten
      obtain rfl : reached = 0 := Nat.lt_one_iff.mp hcut
      exact (hserved [] (by rfl)).trans rfl
  | sendScreenLockEvent event param =>
      cases hwritten
      rcases reached with _ | _ | _
      · exact (hserved [] (by rfl)).trans rfl
      · refine (hserved [.string event] (by rfl)).trans ?_
        cases hknown : carriesParam event <;>
          simp [onSendScreenLockEvent, hknown, ManagerCall.givenAfterCut, replyStatus,
            replyReadParcelError]
      · exact absurd hcut (Nat.le_add_left 2 _).not_gt
  | setScreenLockDisabled first second | requestStrongAuth first second
  | setUnlockPolicy first second =>
      cases hwritten
      rcases reached with _ | _ | _
      · exact (hserved [] (by rfl)).trans rfl
      · exact (hserved [_] (by rfl)).trans rfl
      · exact absurd hcut (Nat.le_add_left 2 _).not_gt
  | setScreenLockAuthState authState userId authToken =>
      cases hwritten
      rcases reached with _ | _ | _ | _
      · exact (hserved [] (by rfl)).trans rfl
      · exact (hserved [_] (by rfl)).trans rfl
      · exact (hserved [_, _] (by rfl)).trans rfl
      · exact absurd hcut (Nat.le_add_left 3 _).not_gt
  | registerInnerListener userId listenType listener
  | unRegisterInnerListener userId listenType listener =>
      rcases listener with _ | ⟨_ | object⟩ <;> cases hwritten
      -- the listener comes last, so a cut request has none
      rcases reached with _ | _ | _ | _
      · exact (hserved [] (by rfl)).trans rfl
      · exact (hserved [_] (by rfl)).trans rfl
      · exact (hserved [_, _] (by rfl)).trans rfl
      · exact absurd hcut (Nat.le_add_left 3 _).not_gt

end Cut

theorem screenLockEvent_unknown (env : Environment) (caller : Caller) {event : String}
    (hunknown : carriesParam event = false) (param : Int) (ability : ScreenLockSystemAbility) :
    (ability.handle env caller (.sendScreenLockEvent event param)).2 = ability := by
  simp only [carriesParam, Bool.or_eq_false_iff, decide_eq_false_iff_not] at hunknown
  obtain ⟨⟨hunlock, hlock⟩, hdrawn⟩ := hunknown
  rw [ScreenLockSystemAbility.handle_eq, ScreenLockSystemAbility.perform,
    ScreenLockSystemAbility.screenLockEvent, if_neg hunlock, if_neg hdrawn, if_neg hlock]
  exact ite_self ability

namespace Serving

open ScreenLockSystemAbility

variable (serving : Serving) (ability : ScreenLockSystemAbility)

/-- When a request that ends after `reached` of its fields does no harm. A
handler with unchecked reads is refused its call, or finds the defaults in place. -/
def HarmlessCut (reached : Nat) : ManagerCall ListenerPointer kind → Prop
  | .lockUser _ =>
      accepts serving.env serving.caller ability (.lockUser 0) = false ∨
        ability.systemEventListener = none
  | .setScreenLockDisabled disable _ =>
      let disable := if reached = 0 then false else disable
      accepts serving.env serving.caller ability (.setScreenLockDisabled disable 0) = false ∨
        (ability.freshAction serving.env disable 0).Idle ability.preferences
  | .requestStrongAuth reasonFlag _ =>
      let reasonFlag := if reached = 0 then 0 else reasonFlag
      accepts serving.env serving.caller ability (.requestStrongAuth reasonFlag 0) = false ∨
        ability.HoldsFlag serving.env 0 reasonFlag
  | .setUnlockPolicy userId _ =>
      let userId := if reached = 0 then 0 else userId
      accepts serving.env serving.caller ability (.setUnlockPolicy userId 0) = false ∨
        ability.preferences.obtainInt (serving.env.preferences 0) (unlockPolicyKey userId) 0 = 0 ∨
        (ability.policyAction serving.env userId 0).Idle ability.preferences ∧
          ability.systemEventListener = none
  | _ => True

/-- A request cut at a field boundary leaves the service untouched exactly if
the values its handler puts in place of the missing ones do no harm. -/
theorem cut_untouched_iff (offset : ErrOffset) (casts : RemoteObject → Bool)
    {call : ManagerCall ListenerPointer kind} {code : Nat} {fields : Parcel RemoteObject}
    {reached : Nat}
    (hwritten : ScreenLockManagerProxy.written offset call =
      some (code, .interfaceToken getDescriptor :: fields))
    (hcut : reached < fields.length) :
    ability.settled.Untouched
        (onRemoteRequest offset casts (serving.service offset) code
          (.interfaceToken getDescriptor :: fields.take reached) ability.settled).2 ↔
      serving.HarmlessCut ability reached call := by
  rw [onRemoteRequest_cut hwritten hcut]
  cases call with
  | lockUser userId => exact ability.lockUser_untouched_iff serving.env serving.caller 0
  | setScreenLockDisabled disable userId =>
      exact ability.setScreenLockDisabled_untouched_iff serving.env serving.caller _ 0
  | requestStrongAuth reasonFlag userId =>
      exact ability.requestStrongAuth_untouched_iff serving.env serving.caller _ 0
  | setUnlockPolicy userId policy =>
      exact ability.setUnlockPolicy_untouched_iff serving.env serving.caller _ 0
  | sendScreenLockEvent event param =>
      refine iff_of_true ?_ trivial
      have hignored (event : String) (hunknown : carriesParam event = false) :
          ability.settled.Untouched
            (serving.invoke offset ability.settled (.sendScreenLockEvent event 0)).2 := by
        have hsame := screenLockEvent_unknown serving.env serving.caller hunknown 0 ability.settled
        exact hsame.symm ▸ ability.settled_untouched
      unfold ManagerCall.givenAfterCut
      by_cases hempty : reached = 0
      · simp only [hempty, if_true]
        exact hignored "" rfl
      · simp only [hempty, if_false]
        cases hknown : carriesParam event with
        | true => exact ability.settled_untouched
        | false => exact hignored event hknown
  | _ => exact iff_of_true ability.settled_untouched trivial

/-- Without a lock-screen application nobody hears of a request to lock. -/
theorem cut_lock_untouched :
    (started ∅).settled.Untouched
      (onRemoteRequest (.ofSubsystem 41) (fun _ => true)
        (service (.ofSubsystem 41) ⟨.single 100, .privileged 100, true, id⟩) 8
        (.interfaceToken getDescriptor :: ([.int32 100] : Parcel RemoteObject).take 0)
        (started ∅).settled).2 :=
  (cut_untouched_iff ⟨.single 100, .privileged 100, true, id⟩ (started ∅) (.ofSubsystem 41)
    (fun _ => true) (@rfl _ (ScreenLockManagerProxy.written (.ofSubsystem 41) (.lockUser 100)))
    Nat.zero_lt_one).mpr (Or.inr rfl)

/-- A native process that may set policies. -/
def policySetter : Caller := ⟨1, 1000, .native, false, [accessScreenLock]⟩

/-- The account 100 with a policy of 2 on record. -/
def withPolicy : ScreenLockSystemAbility :=
  { started (Std.TreeMap.insert ∅ (unlockPolicyKey 100) (.int 2)) with
    authStateInfo := Std.TreeMap.insert ∅ 100 AuthState.unauth }

/-- A request to set a policy that ends after the account sets the policy 0. -/
theorem cut_policy_acts :
    ScreenLockManagerProxy.written (.ofSubsystem 41) (.setUnlockPolicy 100 2) =
        some (19, [.interfaceToken getDescriptor, .int32 100, .int32 2]) ∧
      ¬ withPolicy.settled.Untouched
        (onRemoteRequest (.ofSubsystem 41) (fun _ => true)
          (service (.ofSubsystem 41) ⟨.single 100, policySetter, true, id⟩) 19
          [.interfaceToken getDescriptor, .int32 100] withPolicy.settled).2 := by
  refine ⟨rfl, fun huntouched => ?_⟩
  have hheld : withPolicy.preferences.memory[unlockPolicyKey 100]? = some (.int 2) :=
    Std.TreeMap.getElem?_insert_self
  have hobtained : withPolicy.preferences.obtainInt ((Environment.single 100).preferences 0)
      (unlockPolicyKey 100) 0 = 2 := by
    simp [Preferences.obtainInt, Preferences.obtain, hheld, Environment.single,
      PreferencesAccess.works, PreferencesValue.int?]
  rcases (withPolicy.setUnlockPolicy_untouched_iff (.single 100) policySetter 100 0).mp
    huntouched with hrefused | hsame | hidle
  · revert hrefused
    decide
  · rw [hobtained] at hsame
    cases hsame
  · have hwritten := hidle.1.written (unlockPolicyKey 100) (some (.int 0)) (by
      rw [policyAction, if_neg (by rw [hobtained]; decide)]
      rfl)
    rw [hheld] at hwritten
    cases hwritten

end Serving

end Screenlock
