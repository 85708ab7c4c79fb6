import Screenlock.StrongAuth.Requirement
import Screenlock.Service.Steps

/-! # Strong authentication in runs of the service

Which service entries reach the strong-authentication manager, and what this
means for a pending requirement over whole runs.
-/

namespace Screenlock.ScreenLockSystemAbility

open Foundation

/-- The entry into the strong-authentication manager that an event causes, if it causes one. -/
def strongAuthEntry : ServiceEvent → Option (Environment × StrongAuthEvent)
  | .call env caller (.requestStrongAuth reasonFlag userId) =>
      if caller.checkSystemPermission = false ∧ caller.checkPermission accessScreenLock = true then
        some (env, .setStrongAuthStat userId reasonFlag)
      else none
  | .notify env (.activeUser targetUser) => some (env, .getCredInfo targetUser)
  | .notify env (.accountUnlocked targetUser) => some (env, .accountUnlocked targetUser)
  | .notify env (.credChange callingUid userId authType eventType isSilentCredChange) =>
      if callingUid = idmUid then
        some (env, .credChange userId authType eventType isSilentCredChange)
      else none
  | .notify env (.authSuccess userId authType isWidgetAuth) =>
      some (env, .authSuccess userId authType isWidgetAuth)
  | .notify env (.credentialInfo userId result infoList) =>
      some (env, .credentialInfo userId result infoList)
  | .notify env (.timerFired userId) => some (env, .timerFired userId)
  | .notify env .destroyAllStrongAuthTimer => some (env, .destroyAllStrongAuthTimer)
  | _ => none

variable (ability : ScreenLockSystemAbility)

theorem perform_strongAuth (env : Environment) (caller : Caller) (request : Request) :
    (ability.perform env caller request).strongAuth =
      match request with
      | .requestStrongAuth reasonFlag userId =>
          { ability.strongAuth.enter env (.setStrongAuthStat userId reasonFlag) with changes := [] }
      | _ => ability.strongAuth := by
  obtain ⟨queue, store, effects, heq⟩ := ability.perform_touches env caller request
  rw [heq]
  cases request <;> rfl

theorem enter_strongAuth (event : ServiceEvent) :
    (ability.enter event).strongAuth =
      match strongAuthEntry event with
      | none => ability.strongAuth
      | some (env, entry) => { ability.strongAuth.enter env entry with changes := [] } := by
  cases event with
  | call env caller request =>
      rw [enter, handle_eq]
      cases request with
      | requestStrongAuth reasonFlag userId =>
          cases hsystem : caller.checkSystemPermission <;>
            cases hpermission : caller.checkPermission accessScreenLock <;>
              simp [accepts, strongAuthEntry, hsystem, hpermission, perform_strongAuth]
      | _ =>
          simp only [strongAuthEntry]
          split
          · rw [perform_strongAuth]
          · rfl
  | notify env notification =>
      obtain ⟨store, heq⟩ := ability.onNotification_touches env notification
      rw [enter, heq]
      cases notification with
      | credChange callingUid userId authType eventType isSilentCredChange =>
          simp only [notice, strongAuthEntry]
          split <;> rfl
      | _ => rfl
  | runLockTask reportedAt => rfl
  | runUnlockTask reportedAt => rfl

/-- The service changes the strong-authentication manager only by entering it. -/
theorem step_strongAuth (event : ServiceEvent) :
    (ability.step event).strongAuth =
      match strongAuthEntry event with
      | none => ability.strongAuth
      | some (env, entry) => { ability.strongAuth.enter env entry with changes := [] } :=
  ability.readied.enter_strongAuth event

/-- The service entries that end a requirement of the account. -/
def EndsRequirement (userId : UserId) : ServiceEvent → Prop
  | .call _ caller (.requestStrongAuth reasonFlag user) =>
      user = userId ∧ reasonFlag = StrongAuthReasonFlags.none ∧
        caller.checkSystemPermission = false ∧ caller.checkPermission accessScreenLock = true
  | .notify _ (.authSuccess user authType isWidgetAuth) =>
      user = userId ∧ authType = .pin ∧ isWidgetAuth = false
  | .notify env (.credChange callingUid user authType eventType _) =>
      callingUid = idmUid ∧ user = userId ∧ authType = .pin ∧ env.deviceType ≠ "2in1" ∧
        (eventType = .delUser ∨ eventType = .enforceDelUser)
  | _ => False

theorem endsRequirement_iff (userId : UserId) (event : ServiceEvent) :
    EndsRequirement userId event ↔
      ∃ env entry, strongAuthEntry event = some (env, entry) ∧
        StrongAuthManger.Ends env userId entry := by
  cases event with
  | call env caller request =>
      cases request with
      | requestStrongAuth reasonFlag user =>
          simp only [EndsRequirement, strongAuthEntry]
          split
          · next haccepts => simp [StrongAuthManger.Ends, haccepts]
          · next hrefuses =>
              refine iff_of_false (fun hends => hrefuses hends.2.2) ?_
              simp
      | _ => simp [EndsRequirement, strongAuthEntry]
  | notify env notification =>
      cases notification with
      | credChange callingUid user authType eventType isSilentCredChange =>
          simp only [EndsRequirement, strongAuthEntry]
          by_cases hidm : callingUid = idmUid
          · simp [hidm, StrongAuthManger.Ends]
          · simp [hidm]
      | _ => simp [EndsRequirement, strongAuthEntry, StrongAuthManger.Ends]
  | runLockTask reportedAt => simp [EndsRequirement, strongAuthEntry]
  | runUnlockTask reportedAt => simp [EndsRequirement, strongAuthEntry]

theorem required_step {userId : UserId} (hrequired : ability.strongAuth.Required userId)
    (event : ServiceEvent) :
    (ability.step event).strongAuth.Required userId ↔ ¬ EndsRequirement userId event := by
  rw [step_strongAuth, endsRequirement_iff]
  cases hentry : strongAuthEntry event with
  | none => simpa using hrequired
  | some entry =>
      obtain ⟨env, entry⟩ := entry
      have henter := StrongAuthManger.required_enter env hrequired entry
      refine (StrongAuthManger.required_congr rfl).trans (henter.trans ?_)
      simp

/-- A pending requirement lasts through a run exactly if no entry of the run
ends it: a PIN authentication, a PIN deletion, or an authorised request that
names no reason. -/
theorem requirement_throughout_iff {userId : UserId} {events : List ServiceEvent}
    (hadmits : machine.Admits ability events) (hrequired : ability.strongAuth.Required userId) :
    machine.Throughout (fun ability => ability.strongAuth.Required userId) ability events ↔
      ∀ event ∈ events, ¬ EndsRequirement userId event := by
  rw [← machine.steps_iff_forall_mem (fun event => ¬ EndsRequirement userId event) ability]
  exact machine.throughout_iff_steps (fun _ => True) (fun _ _ _ _ => trivial)
    (fun ability event _ _ hheld => required_step ability hheld event) hadmits trivial hrequired

theorem requirement_lasts_over_activation :
    machine.Throughout (fun ability => ability.strongAuth.Required 100)
        ((started ∅).step (.call (.single 100) (.privileged 100)
          (.requestStrongAuth StrongAuthReasonFlags.activeRequest 100)))
        [.notify (.single 100) (.activeUser 100), .notify (.single 100) (.timerFired 100)] ↔
      ∀ event ∈ [ServiceEvent.notify (.single 100) (.activeUser 100),
          .notify (.single 100) (.timerFired 100)], ¬ EndsRequirement 100 event :=
  requirement_throughout_iff _ ⟨trivial, trivial, trivial⟩ ⟨4, by decide, by decide⟩

/-- A request for a strong authentication without a reason takes back an
earlier one, with no event of the account in between. -/
theorem requirement_ends_by_request :
    ((started ∅).step (.call (.single 100) (.privileged 100)
        (.requestStrongAuth StrongAuthReasonFlags.activeRequest 100))).strongAuth.Required 100 ∧
      ¬ (machine.run (started ∅)
        [.call (.single 100) (.privileged 100)
          (.requestStrongAuth StrongAuthReasonFlags.activeRequest 100),
        .call (.single 100) (.privileged 100)
          (.requestStrongAuth StrongAuthReasonFlags.none 100)]).strongAuth.Required 100 := by
  refine ⟨⟨4, by decide, by decide⟩, ?_⟩
  rintro ⟨reasonFlag, hstored, hne⟩
  have hcleared : (machine.run (started ∅)
      [.call (.single 100) (.privileged 100)
        (.requestStrongAuth StrongAuthReasonFlags.activeRequest 100),
      .call (.single 100) (.privileged 100)
        (.requestStrongAuth StrongAuthReasonFlags.none 100)]).strongAuth.strongAuthStateInfo[
          (100 : UserId)]? = some StrongAuthReasonFlags.none := by decide
  exact hne (Option.some.inj (hstored.symm.trans hcleared))

end Screenlock.ScreenLockSystemAbility
