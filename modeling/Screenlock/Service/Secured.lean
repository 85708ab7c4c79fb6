import Screenlock.Service.Calls
import Screenlock.StrongAuth.Flags

/-! # Whether an account is secured

Three functions classify the answer to a query for the PIN credentials of an
account. Two of them take an unexpected result for a secured account; `GetSecure`
takes it for one without a PIN, and with it the guard of `SetScreenLockDisabled`.
-/

namespace Screenlock

/-- `ScreenLockGetInfoCallback`. -/
structure ScreenLockGetInfoCallback where
  isSecure : Bool := false
  deriving DecidableEq, Repr

def ScreenLockGetInfoCallback.onCredentialInfo (result : ResultCode)
    (infoList : List CredentialInfo) (callback : ScreenLockGetInfoCallback) :
    ScreenLockGetInfoCallback :=
  if infoList.length > 0 ∨ (result ≠ .success ∧ result ≠ .notEnrolled) then
    { callback with isSecure := true }
  else callback

namespace ScreenLockSystemAbility

/-- A fresh callback is secure after the answer. -/
def CalledBackSecure (result : ResultCode) (infoList : List CredentialInfo) : Prop :=
  (({} : ScreenLockGetInfoCallback).onCredentialInfo result infoList).isSecure = true

/-- The answer gives the account the flag `AFTER_BOOT`. -/
def InitialisesAfterBoot (env : Environment) (manager : StrongAuthManger) (userId : UserId)
    (result : ResultCode) (infoList : List CredentialInfo) : Prop :=
  (manager.onCredentialInfo env userId result infoList).strongAuthStateInfo[userId]? =
    some StrongAuthReasonFlags.afterBoot

/-- `GetSecure` finds the answer for the account of its caller, the two others are
called back with it. They agree, and a query that fails is taken for a PIN. -/
structure AgreeOnSecured (env later : Environment) (caller : Caller) (manager : StrongAuthManger)
    (result : ResultCode) (infoList : List CredentialInfo) : Prop where
  callback : getSecure env caller = true ↔ CalledBackSecure result infoList
  strongAuth : CalledBackSecure result infoList ↔
    InitialisesAfterBoot later manager (env.userIdFromCallingUid caller) result infoList
  failure : result ≠ .success → result ≠ .notEnrolled → getSecure env caller = true
  refusal : result ≠ .success → result ≠ .notEnrolled → ∀ ability : ScreenLockSystemAbility,
    (ability.setScreenLockDisabled env caller true (env.userIdFromCallingUid caller)).1 ≠
      .error .ok

variable {env later : Environment} {caller : Caller} {manager : StrongAuthManger}
  {result : ResultCode} {infoList : List CredentialInfo}

theorem getSecure_iff
    (hanswer : env.credentialInfoSync (env.userIdFromCallingUid caller) = (result, infoList)) :
    getSecure env caller = true ↔ result = .success ∧ infoList ≠ [] := by
  simp [getSecure, hanswer, List.length_pos_iff]

theorem calledBackSecure_iff :
    CalledBackSecure result infoList ↔
      infoList ≠ [] ∨ (result ≠ .success ∧ result ≠ .notEnrolled) := by
  unfold CalledBackSecure ScreenLockGetInfoCallback.onCredentialInfo
  rw [← List.length_pos_iff]
  split
  next hsecure => exact iff_of_true rfl hsecure
  next hopen => exact iff_of_false Bool.false_ne_true hopen

theorem initialisesAfterBoot_iff {userId : UserId}
    (hunknown : manager.isUserExitInStrongAuthInfo userId = false) :
    InitialisesAfterBoot later manager userId result infoList ↔
      infoList ≠ [] ∨ (result ≠ .success ∧ result ≠ .notEnrolled) := by
  have hnone : manager.strongAuthStateInfo[userId]? = none :=
    Option.not_isSome_iff_eq_none.mp (Bool.eq_false_iff.mp hunknown)
  rw [InitialisesAfterBoot, StrongAuthManger.onCredentialInfo_get, if_pos rfl, hnone,
    ← List.length_pos_iff]
  split
  next hsecure => exact iff_of_true rfl hsecure
  next hopen => exact iff_of_false (by decide) hopen

/-- A secured account is not disabled. -/
theorem setScreenLockDisabled_refused (ability : ScreenLockSystemAbility) {userId : UserId}
    (hsecure : getSecure env caller = true) :
    (ability.setScreenLockDisabled env caller true userId).1 ≠ .error .ok := by
  unfold setScreenLockDisabled
  split
  · exact ReturnCode.noConfusion
  · rw [if_pos ⟨rfl, hsecure⟩]
    exact ReturnCode.noConfusion

/-- The three paths agree on an answer exactly if the query succeeds, or finds
the account not enrolled with an empty list. -/
theorem agreeOnSecured_iff
    (hanswer : env.credentialInfoSync (env.userIdFromCallingUid caller) = (result, infoList))
    (hunknown : manager.isUserExitInStrongAuthInfo (env.userIdFromCallingUid caller) = false) :
    AgreeOnSecured env later caller manager result infoList ↔
      result = .success ∨ (result = .notEnrolled ∧ infoList = []) := by
  have hsync := getSecure_iff hanswer
  constructor
  · intro hagree
    have hsame := hsync.symm.trans (hagree.callback.trans calledBackSecure_iff)
    cases result with
    | success => exact Or.inl rfl
    | notEnrolled =>
        refine Or.inr ⟨rfl, ?_⟩
        by_contra hlisted
        exact ResultCode.noConfusion (hsame.mpr (Or.inl hlisted)).1
    | other code =>
        exact ResultCode.noConfusion
          (hsame.mpr (Or.inr ⟨ResultCode.noConfusion, ResultCode.noConfusion⟩)).1
  · intro hexpected
    have hnofailure : result ≠ .success → result ≠ .notEnrolled → False := by
      rintro hfailed hother
      rcases hexpected with hsuccess | ⟨hnone, _⟩
      · exact hfailed hsuccess
      · exact hother hnone
    refine ⟨hsync.trans (Iff.trans ?_ calledBackSecure_iff.symm),
      calledBackSecure_iff.trans (initialisesAfterBoot_iff hunknown).symm,
      fun hfailed hother => (hnofailure hfailed hother).elim,
      fun hfailed hother => (hnofailure hfailed hother).elim⟩
    rcases hexpected with rfl | ⟨rfl, rfl⟩ <;> simp

theorem agreeOnSecured_iff_for_enrolled :
    AgreeOnSecured { Environment.single 100 with credentialInfoSync := fun _ => (.success, [⟨1⟩]) }
        (.single 100) (.privileged 100) .empty .success [⟨1⟩] ↔
      ResultCode.success = .success ∨
        (ResultCode.success = .notEnrolled ∧ [(⟨1⟩ : CredentialInfo)] = []) :=
  agreeOnSecured_iff rfl rfl

/-- A platform whose credential queries fail. -/
def queryFails : Environment :=
  { Environment.single 100 with credentialInfoSync := fun _ => (.other 2, []) }

/-- A query that fails lets an account be disabled that the other paths take for
a secured one. -/
theorem failed_query_not_secured :
    ((started ∅).setScreenLockDisabled queryFails (.privileged 100) true 100).1 = .error .ok ∧
      ¬ AgreeOnSecured queryFails queryFails (.privileged 100) .empty (.other 2) [] := by
  refine ⟨by decide, fun hagree => ?_⟩
  have hsecure := hagree.failure ResultCode.noConfusion ResultCode.noConfusion
  revert hsecure
  decide

end ScreenLockSystemAbility

end Screenlock
