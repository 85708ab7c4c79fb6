import Screenlock.Client.AsyncCall
import Screenlock.Ipc.RoundTrip
import Screenlock.Service.PolicySurvival

/-! # Reading an unlock policy back

The service stores any policy it is given. The JavaScript binding passes on what
it reads where that is one of the three policies it knows; the ArkTS binding
gives up on a success, since it asks for the enum item only after it has found
one.
-/

namespace Screenlock

open Foundation ScreenLockManagerStub

/-- `ScreenLockManager::GetUnlockPolicy`, over the call of the proxy. Without an
answer the policy stays as the binding set it. -/
def ScreenLockManager.getUnlockPolicy {σ : Type} (offset : ErrOffset) (findsProxy : Bool)
    (proxyCall : σ → (Int × Option Int) × σ) (policy : Int) (state : σ) : Int × Int :=
  if findsProxy then
    let ((status, read), _) := proxyCall state
    (status, read.getD policy)
  else (ScreenLockError.nullptr.toInt offset, policy)

section Bindings

variable (offset : ErrOffset)

/-- The manager as a binding calls it: the status and the out-parameter, from the
account and the value the out-parameter has before. -/
abbrev PolicyReader := UserId → Int → Int × Int

/-- The error a binding throws for a status. -/
def statusError (status : Int) : ErrorInfo :=
  getErrorInfo offset status { errorCode_ := (status % 2 ^ 32).toNat }

def parameterError : ErrorInfo :=
  ⟨JsErrorCode.invalidParams, getErrorMessage JsErrorCode.invalidParams⟩

/-- `UNLOCPOLICY_DEFAULT`. -/
def unlocpolicyDefault : Int := 0

/-- `UNLOCPOLICY_EXTENDED_AUTH_AND_SYSTEM`. -/
def unlocpolicyExtendedAuthAndSystem : Int := 2

/-- The arguments of a JavaScript call, as far as the binding looks at them. -/
structure NapiArguments where
  argc : Nat
  /-- Whether the first one is a `napi_number`. -/
  isNumber : Bool
  /-- What `napi_get_value_int32` makes of it. -/
  int32 : Option Int

inductive NapiResult where
  | returned (value : Int)
  | thrown (error : ErrorInfo)
  deriving DecidableEq, Repr

/-- `NAPI_GetUnlockPolicy`. -/
def napiGetUnlockPolicy (reader : PolicyReader) (arguments : NapiArguments) : NapiResult :=
  if arguments.argc < 1 then .thrown parameterError
  else if arguments.isNumber = false then .thrown parameterError
  else
    match arguments.int32 with
    | none => .thrown parameterError
    | some userId =>
        let (status, policy) := reader userId 0
        if status ≠ ScreenLockError.ok.toInt offset then .thrown (statusError offset status)
        else if policy < unlocpolicyDefault ∨ policy > unlocpolicyExtendedAuthAndSystem then
          .thrown parameterError
        else .returned policy

/-- The enum item an ArkTS call returns, and the error it leaves behind. -/
structure AniResult (Item : Type) where
  item : Option Item
  thrown : Option ErrorInfo
  deriving DecidableEq, Repr

/-- `ANI_GetUnlockPolicy`. `findsEnum` says whether `FindEnum` succeeds, and
`enumItemByIndex` is `Enum_GetEnumItemByIndex`. -/
def aniGetUnlockPolicy {Item : Type} (findsEnum : Bool) (enumItemByIndex : Nat → Option Item)
    (reader : PolicyReader) (userId : UserId) : AniResult Item :=
  let result : Option Item := none
  if findsEnum = false then ⟨none, none⟩
  else
    let (status, policy) := reader userId 0
    if status ≠ ScreenLockError.ok.toInt offset then ⟨result, some (statusError offset status)⟩
    -- nothing has been assigned to it yet
    else if result.isNone then ⟨none, none⟩
    else ⟨(enumItemByIndex (policy % 2 ^ 64).toNat).or result, none⟩

/-- A success is answered with no item, whatever the policy is. -/
theorem aniGetUnlockPolicy_item {Item : Type} (findsEnum : Bool)
    (enumItemByIndex : Nat → Option Item) (reader : PolicyReader) (userId : UserId) :
    (aniGetUnlockPolicy offset findsEnum enumItemByIndex reader userId).item = none := by
  unfold aniGetUnlockPolicy
  dsimp only
  split
  · rfl
  · split <;> rfl

/-- A number that is an account is read with the account, and what is found is passed on
where it is one of the policies. -/
theorem napiGetUnlockPolicy_returned_iff {reader : PolicyReader} {userId policy : Int}
    (hread : reader userId 0 = (ScreenLockError.ok.toInt offset, policy)) :
    napiGetUnlockPolicy offset reader ⟨1, true, some userId⟩ = .returned policy ↔
      unlocpolicyDefault ≤ policy ∧ policy ≤ unlocpolicyExtendedAuthAndSystem := by
  simp only [napiGetUnlockPolicy, hread, Nat.lt_irrefl, Bool.true_eq_false, if_false, ne_eq,
    not_true_eq_false]
  split
  next houtside => exact iff_of_false NapiResult.noConfusion (by omega)
  next hinside => exact iff_of_true rfl (by omega)

end Bindings

section Service

variable {env : Environment} {caller : Caller} {userId : UserId} {policy : Int}
  {ability : ScreenLockSystemAbility}

/-- With the store working, an accepted policy is the one on record. -/
theorem ScreenLockSystemAbility.policyOf_setUnlockPolicy (hworking : env.Working)
    (hset : (ability.setUnlockPolicy env caller userId policy).1 = .ok) :
    (ability.setUnlockPolicy env caller userId policy).2.policyOf userId = policy ∧
      (ability.setUnlockPolicy env caller userId policy).2.authStateInfo[userId]?.isSome := by
  obtain ⟨hknown, hstored⟩ := setUnlockPolicy_of_ok hset
  rw [hstored]
  unfold storeUnlockPolicy
  rw [hworking.works, hworking.works, hworking.works]
  split
  next hsame => exact ⟨hsame, hknown⟩
  next =>
    refine ⟨?_, by simpa [send] using hknown⟩
    simp [policyOf, Preferences.obtainInt, Preferences.obtain, Preferences.saveInt,
      Preferences.save_memory, send, PreferencesAccess.works, PreferencesValue.int?]

variable (offset : ErrOffset) (casts : RemoteObject → Bool)

/-- What a binding reads of a service: through the proxy and the stub. -/
def Serving.policyReader (serving : Serving) (ability : ScreenLockSystemAbility) : PolicyReader :=
  fun userId policy =>
    ScreenLockManager.getUnlockPolicy offset true
      (ScreenLockManagerProxy.getUnlockPolicy offset
        (onRemoteRequest offset casts (serving.service offset)) userId) policy ability

/-- An authorised read finds the policy on record. -/
theorem Serving.policyReader_eq {serving : Serving} (hworking : serving.env.Working)
    (hsystem : serving.caller.checkSystemPermission = false)
    (hpermitted : serving.caller.checkPermission accessScreenLock = true)
    (hknown : ability.authStateInfo[userId]?.isSome) :
    serving.policyReader offset casts ability userId 0 =
      (ScreenLockError.ok.toInt offset, ability.policyOf userId) := by
  have hreach : ScreenLockSystemAbility.PolicyWithinReach userId (ability.policyOf userId)
      ability := (ScreenLockSystemAbility.policyWithinReach_iff rfl).mpr hknown
  have hanswer := (hreach serving.env serving.caller hworking hpermitted).1 hsystem
  have hproxied := @ScreenLockManagerProxy.invoke_onRemoteRequest _ _ offset casts
    (serving.service offset) (.getUnlockPolicy userId) (fun _ hlistener => by cases hlistener)
    ability
  have hserved : (serving.service offset).invoke
      (.getUnlockPolicy userId : ManagerCall RemoteObject .statusAndNumber).received ability =
        ((ScreenLockError.ok.toInt offset, some (ability.policyOf userId)), ability) := by
    change ((ability.getUnlockPolicy serving.env serving.caller userId).map _ _, ability) = _
    rw [hanswer]
    rfl
  rw [hserved] at hproxied
  change ScreenLockManagerProxy.getUnlockPolicy offset _ userId ability = _ at hproxied
  unfold policyReader ScreenLockManager.getUnlockPolicy
  rw [hproxied]
  rfl

/-- Both bindings hand the policy on: the number, and the enum item of that value. -/
structure PolicyReadBack {Item : Type} (enumItemByIndex : Nat → Option Item)
    (valueOf : Item → Int) (reader : PolicyReader) (userId : UserId) (policy : Int) : Prop where
  napi : napiGetUnlockPolicy offset reader ⟨1, true, some userId⟩ = .returned policy
  ani : ∃ item, aniGetUnlockPolicy offset true enumItemByIndex reader userId = ⟨some item, none⟩ ∧
    valueOf item = policy

/-- Of an accepted policy the JavaScript binding hands on those from 0 to 2, and
the ArkTS binding none. -/
theorem accepted_policy_not_readBack {reading : Serving} (hworking : env.Working)
    (hset : (ability.setUnlockPolicy env caller userId policy).1 = .ok)
    (hreading : reading.env.Working) (hsystem : reading.caller.checkSystemPermission = false)
    (hpermitted : reading.caller.checkPermission accessScreenLock = true) {Item : Type}
    (enumItemByIndex : Nat → Option Item) (valueOf : Item → Int) :
    let reader := reading.policyReader offset casts
      (ability.setUnlockPolicy env caller userId policy).2
    (napiGetUnlockPolicy offset reader ⟨1, true, some userId⟩ = .returned policy ↔
        unlocpolicyDefault ≤ policy ∧ policy ≤ unlocpolicyExtendedAuthAndSystem) ∧
      ¬ PolicyReadBack offset enumItemByIndex valueOf reader userId policy := by
  intro reader
  obtain ⟨hpolicy, hknown⟩ := ability.policyOf_setUnlockPolicy hworking hset
  have hread : reader userId 0 = (ScreenLockError.ok.toInt offset, policy) := by
    rw [← hpolicy]
    exact Serving.policyReader_eq offset casts hreading hsystem hpermitted hknown
  refine ⟨napiGetUnlockPolicy_returned_iff offset hread, fun hback => ?_⟩
  obtain ⟨item, hitem, -⟩ := hback.ani
  have hnone := aniGetUnlockPolicy_item offset true enumItemByIndex reader userId
  rw [hitem] at hnone
  cases hnone

end Service

section Application

open ScreenLockSystemAbility

/-- The enum of the application, each item standing for its value. -/
def unlockPolicyItem (index : Nat) : Option Nat := if index ≤ 2 then some index else none

/-- A service that knows the account 100, after `policy` was set for it. -/
def withUnlockPolicy (policy : Int) : ScreenLockError × ScreenLockSystemAbility :=
  { started ∅ with authStateInfo := Std.TreeMap.insert ∅ 100 AuthState.unauth }.setUnlockPolicy
    (.single 100) ⟨1, 1000, .native, true, [accessScreenLock]⟩ 100 policy

def lockScreenApplication : Serving := ⟨.single 100, .privileged 100, true, id⟩

theorem policy_one_not_readBack :
    let reader := lockScreenApplication.policyReader (.ofSubsystem 41) (fun _ => true)
      (withUnlockPolicy 1).2
    (napiGetUnlockPolicy (.ofSubsystem 41) reader ⟨1, true, some 100⟩ = .returned 1 ↔
        unlocpolicyDefault ≤ 1 ∧ 1 ≤ unlocpolicyExtendedAuthAndSystem) ∧
      ¬ PolicyReadBack (.ofSubsystem 41) unlockPolicyItem Int.ofNat reader 100 1 :=
  accepted_policy_not_readBack (.ofSubsystem 41) (fun _ => true) (.single 100) (by decide)
    (.single 100) (by decide) (by decide) unlockPolicyItem Int.ofNat

/-- The policy 1 comes back as no enum item, and the policy 3 as an error. -/
theorem accepted_policies_lost :
    let reader policy := lockScreenApplication.policyReader (.ofSubsystem 41) (fun _ => true)
      (withUnlockPolicy policy).2
    (withUnlockPolicy 1).1 = .ok ∧
      aniGetUnlockPolicy (.ofSubsystem 41) true unlockPolicyItem (reader 1) 100 = ⟨none, none⟩ ∧
      ¬ PolicyReadBack (.ofSubsystem 41) unlockPolicyItem Int.ofNat (reader 1) 100 1 ∧
      (withUnlockPolicy 3).1 = .ok ∧
      napiGetUnlockPolicy (.ofSubsystem 41) (reader 3) ⟨1, true, some 100⟩ =
        .thrown ⟨401, "Parameter verification failed."⟩ := by
  refine ⟨by decide, by decide, fun hback => ?_, by decide, by decide⟩
  obtain ⟨item, hitem, -⟩ := hback.ani
  have hnone := congrArg AniResult.item hitem
  rw [aniGetUnlockPolicy_item] at hnone
  cases hnone

end Application

end Screenlock
