import Screenlock.StrongAuth.Flags
import Screenlock.Foundation.Machine

/-! # How long a strong-authentication requirement lasts

A requirement is a stored reason other than `NONE`. What ends one is listed
once; every other entry into the manager keeps it, whichever account it is for.
-/

namespace Screenlock.StrongAuthManger

/-- A strong authentication of the account is required. -/
def Required (manager : StrongAuthManger) (userId : UserId) : Prop :=
  ∃ reasonFlag, manager.strongAuthStateInfo[userId]? = some reasonFlag ∧
    reasonFlag ≠ StrongAuthReasonFlags.none

/-- The entries that end a requirement of the account. -/
def Ends (env : Environment) (userId : UserId) : StrongAuthEvent → Prop
  | .setStrongAuthStat user reasonFlag =>
      user = userId ∧ reasonFlag = StrongAuthReasonFlags.none
  | .authSuccess user authType isWidgetAuth =>
      user = userId ∧ authType = .pin ∧ isWidgetAuth = false
  | .credChange user authType eventType _ =>
      user = userId ∧ authType = .pin ∧ env.deviceType ≠ "2in1" ∧
        (eventType = .delUser ∨ eventType = .enforceDelUser)
  | _ => False

variable {manager : StrongAuthManger} {userId : UserId}

theorem required_congr {other : StrongAuthManger}
    (hsame : other.strongAuthStateInfo[userId]? = manager.strongAuthStateInfo[userId]?) :
    other.Required userId ↔ manager.Required userId := by
  unfold Required
  rw [hsame]

theorem requested_ne_none (before : Option Int) (reasonFlag : Int) :
    requested before reasonFlag ≠ StrongAuthReasonFlags.none ↔
      reasonFlag ≠ StrongAuthReasonFlags.none := by
  unfold requested
  split
  · next hguard => simp [hguard.2]
  · rfl

theorem timeoutReason_ne_none (triggerPeriod : Int) :
    timeoutReason triggerPeriod ≠ StrongAuthReasonFlags.none := by
  unfold timeoutReason
  split <;> decide

theorem required_setStrongAuthStat (env : Environment) (hrequired : manager.Required userId)
    (user : UserId) (reasonFlag : Int) :
    (manager.setStrongAuthStat env user reasonFlag).Required userId ↔
      ¬ (user = userId ∧ reasonFlag = StrongAuthReasonFlags.none) := by
  unfold Required
  rw [setStrongAuthStat_get]
  by_cases huser : user = userId
  · subst huser
    simp [requested_ne_none]
  · simpa [huser, Required] using hrequired

theorem required_enter (env : Environment) (hrequired : manager.Required userId)
    (event : StrongAuthEvent) :
    (manager.enter env event).Required userId ↔ ¬ Ends env userId event := by
  cases event with
  | setStrongAuthStat user reasonFlag =>
      exact required_setStrongAuthStat env hrequired user reasonFlag
  | accountUnlocked user =>
      refine iff_of_true ((required_congr ?_).mpr hrequired) id
      rw [enter, accountUnlocked_stateInfo]
  | getCredInfo user =>
      refine iff_of_true ((required_congr ?_).mpr hrequired) id
      rw [enter, getCredInfo_stateInfo]
  | credentialInfo user result infoList =>
      -- an answer only sets a flag where none is on record
      refine iff_of_true ((required_congr ?_).mpr hrequired) id
      obtain ⟨reasonFlag, hstored, _⟩ := hrequired
      rw [enter, onCredentialInfo_get]
      split
      next heq => simp [heq, hstored]
      next => rfl
  | authSuccess user authType isWidgetAuth =>
      unfold Required Ends
      rw [enter, onNotifyAuthSuccessEvent_get]
      by_cases hall : authType = .pin ∧ isWidgetAuth = false ∧ user = userId
      · simp [hall]
      · rw [if_neg hall]
        exact iff_of_true hrequired fun hends => hall ⟨hends.2.1, hends.2.2, hends.1⟩
  | credChange user authType eventType isSilentCredChange =>
      have hknown : user = userId → manager.isUserExitInStrongAuthInfo user = true := by
        rintro rfl
        obtain ⟨reasonFlag, hstored, _⟩ := hrequired
        simp [isUserExitInStrongAuthInfo, hstored]
      unfold Required Ends
      rw [enter, onNotifyCredChangeEvent_get]
      by_cases huser : user = userId
      · subst huser
        by_cases hacts : authType = .pin ∧ env.deviceType ≠ "2in1"
        · rw [if_pos ⟨hacts.2, hacts.1, hknown rfl, rfl⟩]
          obtain ⟨reasonFlag, hstored, hne⟩ := hrequired
          -- the deletion of the PIN ends the requirement, every other change keeps it
          cases eventType <;> simp [hacts, hstored, hne]
        · rw [if_neg fun hall => hacts ⟨hall.2.1, hall.1⟩]
          exact iff_of_true hrequired fun hends => hacts ⟨hends.2.1, hends.2.2.1⟩
      · rw [if_neg fun hall => huser hall.2.2.2]
        exact iff_of_true hrequired fun hends => huser hends.1
  | timerFired user =>
      refine (required_setStrongAuthStat env hrequired user _).trans (iff_of_true ?_ id)
      exact fun hends => timeoutReason_ne_none _ hends.2
  | destroyAllStrongAuthTimer =>
      refine iff_of_true ((required_congr ?_).mpr hrequired) id
      rw [enter, destroyAllStrongAuthTimer_stateInfo]

end Screenlock.StrongAuthManger
