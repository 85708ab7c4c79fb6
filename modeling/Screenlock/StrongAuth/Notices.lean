import Screenlock.StrongAuth.Flags
import Screenlock.StrongAuth.Runs

/-! # Whether announced changes are true

Three handlers announce the flag they have just stored. `AccountUnlocked`
announces that nothing is required, whatever is stored.
-/

namespace Screenlock.StrongAuthManger

open Foundation

/-- What the handler announces of a verified account is what a query answers
right after the handler. -/
def Truthful (manager : StrongAuthManger) (entry : Environment × StrongAuthEvent) : Prop :=
  ∀ userId reasonFlag, (userId, reasonFlag) ∈ (manager.enter entry.1 entry.2).changes →
    entry.1.isOsAccountUnlocked userId = true →
      (manager.enter entry.1 entry.2).getStrongAuthStat entry.1 userId = reasonFlag

/-- An account is unlocked and verified only while nothing is required of it. -/
def UnlocksUnrequired (manager : StrongAuthManger) (entry : Environment × StrongAuthEvent) :
    Prop :=
  match entry.2 with
  | .accountUnlocked userId =>
      entry.1.isOsAccountUnlocked userId = true →
        manager.strongAuthStateInfo[userId]? = some StrongAuthReasonFlags.none
  | _ => True

section Reports

variable {manager : StrongAuthManger} {env : Environment}

theorem mem_changes_notifyStrongAuthChange (userId : UserId) (reasonFlag : Int)
    (change : UserId × Int) :
    change ∈ (manager.notifyStrongAuthChange env userId reasonFlag).changes ↔
      change ∈ manager.changes ∨ (change = (userId, reasonFlag) ∧
        (reasonFlag = StrongAuthReasonFlags.none → env.isOsAccountUnlocked userId = true)) := by
  unfold notifyStrongAuthChange
  split
  · next hnone =>
      split
      · next hunlocked => simp [hunlocked]
      · next hlocked => simp [hnone, hlocked]
  · next hsome => simp [hsome]

/-- Each change announced on the way is the flag then on record. -/
def Reports (before after : StrongAuthManger) : Prop :=
  ∀ change ∈ after.changes, change ∈ before.changes ∨
    after.strongAuthStateInfo[change.1]? = some change.2

theorem Reports.keeps {before middle after : StrongAuthManger} (hreports : Reports before middle)
    (hkeeps : KeepsFlags middle after) : Reports before after := by
  intro change hchange
  rw [hkeeps.changes] at hchange
  rw [hkeeps.stateInfo]
  exact hreports change hchange

theorem reports_of_keeps {before after : StrongAuthManger} (hkeeps : KeepsFlags before after) :
    Reports before after := by
  have hsame : Reports before before := fun _ hchange => Or.inl hchange
  exact hsame.keeps hkeeps

/-- The write that `SetStrongAuthStat` and `InitStrongAuthStat` share. -/
theorem storeFlag_reports (manager : StrongAuthManger) (userId : UserId) (reasonFlag : Int) :
    Reports manager
      ((manager.storeFlag userId reasonFlag).notifyStrongAuthChange env userId reasonFlag) := by
  intro change hchange
  rcases (mem_changes_notifyStrongAuthChange userId reasonFlag change).mp hchange with
    hold | ⟨rfl, _⟩
  · exact Or.inl hold
  · right
    rw [notifyStrongAuthChange_stateInfo, storeFlag_get, if_pos rfl]

theorem setStrongAuthStat_reports (manager : StrongAuthManger) (userId : UserId)
    (reasonFlag : Int) : Reports manager (manager.setStrongAuthStat env userId reasonFlag) := by
  unfold setStrongAuthStat
  split
  · exact storeFlag_reports manager userId reasonFlag
  · split
    · exact reports_of_keeps (KeepsFlags.refl manager)
    · exact storeFlag_reports manager userId reasonFlag

theorem initStrongAuthStat_reports (manager : StrongAuthManger) (userId : UserId)
    (reasonFlag : Int) : Reports manager (manager.initStrongAuthStat env userId reasonFlag) := by
  unfold initStrongAuthStat
  split
  · exact storeFlag_reports manager userId reasonFlag
  · exact reports_of_keeps (KeepsFlags.refl manager)

theorem onCredentialInfo_reports (manager : StrongAuthManger) (userId : UserId)
    (result : ResultCode) (infoList : List CredentialInfo) :
    Reports manager (manager.onCredentialInfo env userId result infoList) := by
  unfold onCredentialInfo
  split
  · exact (initStrongAuthStat_reports manager userId _).keeps (startStrongAuthTimer_keeps _ _ _ _ _)
  · exact initStrongAuthStat_reports manager userId _

theorem onNotifyAuthSuccessEvent_reports (manager : StrongAuthManger) (userId : UserId)
    (authType : AuthType) (isWidgetAuth : Bool) :
    Reports manager (manager.onNotifyAuthSuccessEvent env userId authType isWidgetAuth) := by
  unfold onNotifyAuthSuccessEvent
  split
  · exact (setStrongAuthStat_reports manager userId _).keeps
      ((getStrongAuthTriggerPeriod_keeps _ _ _).trans (resetStrongAuthTimer_keeps _ _ _ _ _ _))
  · exact reports_of_keeps (KeepsFlags.refl manager)

theorem onNotifyCredChangeEvent_reports (manager : StrongAuthManger) (userId : UserId)
    (authType : AuthType) (eventType : CredChangeEventType) (isSilentCredChange : Bool) :
    Reports manager
      (manager.onNotifyCredChangeEvent env userId authType eventType isSilentCredChange) := by
  unfold onNotifyCredChangeEvent
  split
  · exact reports_of_keeps (KeepsFlags.refl manager)
  split
  swap
  · exact reports_of_keeps (KeepsFlags.refl manager)
  split
  · exact reports_of_keeps (resetStrongAuthTimer_keeps _ _ _ _ _ _)
  split
  · exact (setStrongAuthStat_reports manager userId _).keeps (destroyStrongAuthTimer_keeps _ _)
  split
  · have hforgotten : Reports manager (manager.destroyStrongAuthStateInfo userId) :=
      fun _ hchange => Or.inl hchange
    exact hforgotten.keeps (destroyStrongAuthTimer_keeps _ _)
  · exact reports_of_keeps (KeepsFlags.refl manager)

theorem enter_reports (manager : StrongAuthManger) (event : StrongAuthEvent)
    (hother : ∀ userId, event ≠ .accountUnlocked userId) :
    Reports manager (manager.enter env event) := by
  cases event with
  | setStrongAuthStat userId reasonFlag => exact setStrongAuthStat_reports manager userId reasonFlag
  | accountUnlocked userId => exact absurd rfl (hother userId)
  | getCredInfo userId =>
      intro change hchange
      refine Or.inl ?_
      have hsame : (manager.getCredInfo env userId).2.changes = manager.changes := by
        unfold getCredInfo
        split
        · rfl
        · split <;> rfl
      rwa [enter, hsame] at hchange
  | credentialInfo userId result infoList =>
      exact onCredentialInfo_reports { manager with queries := manager.queries.erase userId } userId
        result infoList
  | authSuccess userId authType isWidgetAuth =>
      exact onNotifyAuthSuccessEvent_reports manager userId authType isWidgetAuth
  | credChange userId authType eventType isSilentCredChange =>
      exact onNotifyCredChangeEvent_reports manager userId authType eventType isSilentCredChange
  | timerFired userId => exact setStrongAuthStat_reports manager userId _
  | destroyAllStrongAuthTimer => exact reports_of_keeps (destroyAllStrongAuthTimer_keeps manager)

end Reports

section Runs

variable {manager : StrongAuthManger}

theorem getStrongAuthStat_of_unlocked {env : Environment} {userId : UserId}
    (hunlocked : env.isOsAccountUnlocked userId = true) :
    manager.getStrongAuthStat env userId =
      (manager.strongAuthStateInfo[userId]?).getD StrongAuthReasonFlags.afterBoot := by
  unfold getStrongAuthStat
  rw [if_pos hunlocked]

/-- A handler tells the truth exactly if it is not an unlocking that hides a
requirement or meets an account without a record. -/
theorem truthful_iff (hhanded : manager.changes = [])
    (entry : Environment × StrongAuthEvent) :
    manager.Truthful entry ↔ manager.UnlocksUnrequired entry := by
  obtain ⟨env, event⟩ := entry
  by_cases hunlock : ∃ userId, event = .accountUnlocked userId
  · obtain ⟨userId, rfl⟩ := hunlock
    unfold Truthful UnlocksUnrequired
    simp only [enter, accountUnlocked, mem_changes_notifyStrongAuthChange, hhanded,
      List.not_mem_nil, false_or, Prod.mk.injEq]
    constructor
    · intro htrue hunlocked
      have hanswer := htrue userId StrongAuthReasonFlags.none ⟨⟨rfl, rfl⟩, fun _ => hunlocked⟩
        hunlocked
      rw [getStrongAuthStat_of_unlocked hunlocked, notifyStrongAuthChange_stateInfo] at hanswer
      cases hstored : manager.strongAuthStateInfo[userId]? with
      | none =>
          rw [hstored] at hanswer
          exact absurd hanswer (by decide)
      | some reasonFlag =>
          rw [hstored] at hanswer
          exact congrArg some hanswer
    · rintro hstored user reasonFlag ⟨⟨rfl, rfl⟩, _⟩ hunlocked
      rw [getStrongAuthStat_of_unlocked hunlocked, notifyStrongAuthChange_stateInfo,
        hstored hunlocked]
      rfl
  -- every other handler announces what it has just put on record
  · have hother : ∀ userId, event ≠ .accountUnlocked userId :=
      fun userId heq => hunlock ⟨userId, heq⟩
    refine iff_of_true (fun userId reasonFlag hchange hunlocked => ?_) ?_
    · rcases enter_reports manager event hother (userId, reasonFlag) hchange with hold | hstored
      · rw [hhanded] at hold
        cases hold
      · rw [getStrongAuthStat_of_unlocked hunlocked, hstored]
        rfl
    · unfold UnlocksUnrequired
      cases event with
      | accountUnlocked userId => exact absurd rfl (hother userId)
      | _ => trivial

/-- In every run each announcement is true exactly if accounts are unlocked only
while the flag on record is `NONE`. -/
theorem truthful_steps_iff (events : List (Environment × StrongAuthEvent)) :
    machine.Steps Truthful empty events ↔ machine.Steps UnlocksUnrequired empty events :=
  machine.steps_congr (fun manager => manager.changes = []) (fun _ _ _ _ => rfl)
    (fun _ entry hhanded => truthful_iff hhanded entry) rfl events

/-- A requested strong authentication is announced away when the account is unlocked. -/
theorem accountUnlocked_untruthful :
    ¬ machine.Steps Truthful empty
      [(.single 100, .setStrongAuthStat 100 StrongAuthReasonFlags.activeRequest),
        (.single 100, .accountUnlocked 100)] := by
  rintro ⟨_, htrue, _⟩
  have hanswer := htrue 100 StrongAuthReasonFlags.none (by decide) (by decide)
  revert hanswer
  decide

end Runs

end Screenlock.StrongAuthManger
