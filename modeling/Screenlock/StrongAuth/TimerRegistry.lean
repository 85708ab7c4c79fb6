import Screenlock.StrongAuth.Runs
import Screenlock.StrongAuth.TimerLedger

/-! # Whether every live timer is on record

A timer that could not be created leaves a record with id 0. The next start
takes the id for no timer, creates one, and inserts a record that does not
replace the old one.
-/

namespace Screenlock.StrongAuthManger

open Foundation

/-- The handlers, with timers created under fresh ids or not at all. -/
def timerMachine : Machine StrongAuthManger (Environment × StrongAuthEvent) where
  enabled manager entry := manager.MayCreate entry.1.createdTimer
  step := step

/-- A credential event that renews the timer. -/
def renews (eventType : CredChangeEventType) (isSilentCredChange : Bool) : Prop :=
  eventType = .addCred ∨ (eventType = .updateCred ∧ isSilentCredChange = false)

instance (eventType : CredChangeEventType) (isSilentCredChange : Bool) :
    Decidable (renews eventType isSilentCredChange) :=
  inferInstanceAs (Decidable (_ ∨ _))

/-- The account a handler wants a timer for, whether it has one or not. -/
def wantsTimer (env : Environment) (manager : StrongAuthManger) : StrongAuthEvent → Option UserId
  | .credentialInfo userId result infoList =>
      if infoList.length > 0 ∨ (result ≠ .success ∧ result ≠ .notEnrolled) then some userId
      else none
  | .authSuccess userId authType isWidgetAuth =>
      if authType = .pin ∧ isWidgetAuth = false then some userId else none
  | .credChange userId authType eventType isSilentCredChange =>
      if env.deviceType ≠ "2in1" ∧ authType = .pin ∧
          manager.isUserExitInStrongAuthInfo userId ∧ renews eventType isSilentCredChange then
        some userId
      else none
  | _ => none

/-- The account whose timer a handler destroys. -/
def unwantsTimer (env : Environment) (manager : StrongAuthManger) :
    StrongAuthEvent → Option UserId
  | .credChange userId authType eventType _ =>
      if env.deviceType ≠ "2in1" ∧ authType = .pin ∧
          manager.isUserExitInStrongAuthInfo userId ∧
          (eventType = .delUser ∨ eventType = .enforceDelUser) then some userId
      else none
  | _ => none

/-- What a handler does to the timers. -/
inductive TimerEffect (env : Environment) (manager : StrongAuthManger) (event : StrongAuthEvent)
    (after : StrongAuthManger) : Prop where
  | kept (hwants : ∀ userId, wantsTimer env manager event = some userId →
        manager.getTimerId userId ≠ 0)
      (hsame : SameTimers manager after)
  | started (userId : UserId) (hwants : wantsTimer env manager event = some userId)
      (hstarts : Starts env.createdTimer userId manager after)
  | destroyed (userId : UserId) (hunwants : unwantsTimer env manager event = some userId)
      (hwants : wantsTimer env manager event = none)
      (hsame : SameTimers (manager.destroyStrongAuthTimer userId) after)
  | destroyedAll (hevent : event = .destroyAllStrongAuthTimer)
      (hafter : after = manager.destroyAllStrongAuthTimer)

section Handlers

variable {manager middle : StrongAuthManger} {env : Environment} {event : StrongAuthEvent}
  {userId : UserId}

theorem timerEffect_start (hsame : SameTimers manager middle)
    (hwants : wantsTimer env manager event = some userId) (currentTime triggerPeriod : Int) :
    TimerEffect env manager event
      (middle.startStrongAuthTimer env.createdTimer currentTime userId triggerPeriod) := by
  by_cases hnone : middle.getTimerId userId = 0
  · exact .started userId hwants (Starts.of_same hsame
      (startStrongAuthTimer_starts env.createdTimer currentTime triggerPeriod hnone))
  · refine .kept (fun other hother => ?_) ?_
    · obtain rfl := Option.some.inj (hwants.symm.trans hother)
      rwa [← hsame.getTimerId]
    · rw [startStrongAuthTimer_kept _ _ hnone]
      exact hsame

theorem timerEffect_reset (hsame : SameTimers manager middle)
    (hwants : wantsTimer env manager event = some userId)
    (currentTime laterTime triggerPeriod : Int) :
    TimerEffect env manager event
      (middle.resetStrongAuthTimer env.createdTimer currentTime laterTime userId
        triggerPeriod) := by
  by_cases hnone : middle.getTimerId userId = 0
  · rw [resetStrongAuthTimer_none _ _ _ hnone]
    exact timerEffect_start hsame hwants currentTime triggerPeriod
  · refine .kept (fun other hother => ?_) ?_
    · obtain rfl := Option.some.inj (hwants.symm.trans hother)
      rwa [← hsame.getTimerId]
    · exact hsame.trans (resetStrongAuthTimer_kept _ _ _ hnone)

theorem timerEffect_same (hwants : wantsTimer env manager event = none)
    (hsame : SameTimers manager middle) : TimerEffect env manager event middle :=
  .kept (fun _ hother => by rw [hwants] at hother; cases hother) hsame

theorem timerEffect_credChange (manager : StrongAuthManger) (userId : UserId)
    (authType : AuthType) (eventType : CredChangeEventType) (isSilentCredChange : Bool) :
    TimerEffect env manager (.credChange userId authType eventType isSilentCredChange)
      (manager.onNotifyCredChangeEvent env userId authType eventType isSilentCredChange) := by
  unfold onNotifyCredChangeEvent
  by_cases hdevice : env.deviceType = "2in1"
  · rw [if_pos hdevice]
    exact timerEffect_same (by simp [wantsTimer, hdevice]) (SameTimers.refl manager)
  rw [if_neg hdevice]
  by_cases hknown : authType = .pin ∧ manager.isUserExitInStrongAuthInfo userId
  swap
  · rw [if_neg hknown]
    refine timerEffect_same (if_neg fun hall => hknown ⟨hall.2.1, hall.2.2.1⟩) ?_
    exact SameTimers.refl manager
  rw [if_pos hknown]
  have hwants : wantsTimer env manager (.credChange userId authType eventType
      isSilentCredChange) = if renews eventType isSilentCredChange then some userId else none := by
    simp [wantsTimer, hdevice, hknown]
  have hunwants : unwantsTimer env manager (.credChange userId authType eventType
      isSilentCredChange) =
      if eventType = .delUser ∨ eventType = .enforceDelUser then some userId else none := by
    simp [unwantsTimer, hdevice, hknown]
  -- a renewed PIN resets the timer, a deleted one takes it away
  by_cases hrenews : renews eventType isSilentCredChange
  · rw [if_pos hrenews] at hwants
    rw [if_pos (show _ ∨ _ from hrenews)]
    exact timerEffect_reset (SameTimers.refl manager) hwants _ _ _
  · rw [if_neg hrenews] at hwants
    rw [if_neg (show ¬ (_ ∨ _) from hrenews)]
    by_cases hdel : eventType = .delUser
    · rw [if_pos hdel]
      refine .destroyed userId (by rw [hunwants, if_pos (Or.inl hdel)]) hwants ?_
      exact (setStrongAuthStat_same manager env userId _).destroyStrongAuthTimer userId
    · rw [if_neg hdel]
      by_cases henforce : eventType = .enforceDelUser
      · rw [if_pos henforce]
        refine .destroyed userId (by rw [hunwants, if_pos (Or.inr henforce)]) hwants ?_
        have hforgotten : SameTimers manager (manager.destroyStrongAuthStateInfo userId) :=
          SameTimers.of_eq rfl rfl
        exact hforgotten.destroyStrongAuthTimer userId
      · rw [if_neg henforce]
        exact timerEffect_same hwants (SameTimers.refl manager)

/-- Each handler does one thing to the timers. -/
theorem enter_timerEffect (manager : StrongAuthManger) (event : StrongAuthEvent) :
    TimerEffect env manager event (manager.enter env event) := by
  cases event with
  | setStrongAuthStat userId reasonFlag =>
      exact timerEffect_same rfl (setStrongAuthStat_same manager env userId reasonFlag)
  | accountUnlocked userId =>
      exact timerEffect_same rfl
        (notifyStrongAuthChange_same manager env userId StrongAuthReasonFlags.none)
  | getCredInfo userId =>
      refine timerEffect_same rfl (SameTimers.of_eq ?_ ?_) <;>
      · simp only [enter, getCredInfo]
        split
        · rfl
        · split <;> rfl
  | credentialInfo userId result infoList =>
      have hanswered : SameTimers manager
          { manager with queries := manager.queries.erase userId } := SameTimers.of_eq rfl rfl
      simp only [enter, onCredentialInfo]
      split
      · next henrolled =>
          have hwants : wantsTimer env manager (.credentialInfo userId result infoList) =
              some userId := if_pos henrolled
          exact timerEffect_start (hanswered.trans (initStrongAuthStat_same _ _ _ _)) hwants _ _
      · next hunenrolled =>
          exact timerEffect_same (if_neg hunenrolled)
            (hanswered.trans (initStrongAuthStat_same _ _ _ _))
  | authSuccess userId authType isWidgetAuth =>
      simp only [enter, onNotifyAuthSuccessEvent]
      split
      · next hpin =>
          have hwants : wantsTimer env manager (.authSuccess userId authType isWidgetAuth) =
              some userId := if_pos hpin
          exact timerEffect_reset ((setStrongAuthStat_same manager env userId _).trans
            (getStrongAuthTriggerPeriod_same _ _ _)) hwants _ _ _
      · next hpin => exact timerEffect_same (if_neg hpin) (SameTimers.refl manager)
  | credChange userId authType eventType isSilentCredChange =>
      exact timerEffect_credChange manager userId authType eventType isSilentCredChange
  | timerFired userId =>
      exact timerEffect_same rfl (setStrongAuthStat_same manager env userId _)
  | destroyAllStrongAuthTimer => exact .destroyedAll rfl rfl

end Handlers

section Invariants

variable {manager after : StrongAuthManger} {env : Environment} {event : StrongAuthEvent}

theorem Live.owner_unique {timerId : TimerId} {first second : UserId}
    (hfirst : manager.Live timerId first) (hsecond : manager.Live timerId second) :
    first = second :=
  Option.some.inj (hfirst.symm.trans hsecond)

/-- A record that names a timer names a live one of its account. -/
structure Backed (manager : StrongAuthManger) : Prop where
  recorded : ∀ userId timerId, manager.recordedTimer userId = some timerId → timerId ≠ 0 →
    manager.Live timerId userId
  nonzero : ∀ userId, ¬ manager.Live 0 userId

/-- Every live timer is on record for its account. -/
def Recorded (manager : StrongAuthManger) : Prop :=
  ∀ timerId userId, manager.Live timerId userId → manager.recordedTimer userId = some timerId

theorem SameTimers.backed (hsame : SameTimers manager after) (hbacked : manager.Backed) :
    after.Backed where
  recorded userId timerId hrecorded hne := by
    rw [hsame.recorded] at hrecorded
    exact (hsame.live timerId userId).mpr (hbacked.recorded userId timerId hrecorded hne)
  nonzero userId hlive := hbacked.nonzero userId ((hsame.live 0 userId).mp hlive)

theorem SameTimers.allRecorded (hsame : SameTimers manager after) (hrecorded : manager.Recorded) :
    after.Recorded := by
  intro timerId userId hlive
  rw [hsame.recorded]
  exact hrecorded timerId userId ((hsame.live timerId userId).mp hlive)

theorem getTimerId_of_recorded {userId : UserId} {timerId : TimerId}
    (hrecorded : manager.recordedTimer userId = some timerId) :
    manager.getTimerId userId = timerId := by
  rw [getTimerId_eq, hrecorded, Option.getD_some]

theorem recordedTimer_of_getTimerId {userId : UserId} (hne : manager.getTimerId userId ≠ 0) :
    manager.recordedTimer userId = some (manager.getTimerId userId) := by
  rw [getTimerId_eq] at hne ⊢
  cases hrecord : manager.recordedTimer userId with
  | none => simp [hrecord] at hne
  | some timerId => rfl

theorem Backed.destroy (hbacked : manager.Backed) (owner : UserId) :
    (manager.destroyStrongAuthTimer owner).Backed where
  recorded userId timerId hrecorded hne := by
    rw [recordedTimer_destroyStrongAuthTimer] at hrecorded
    split at hrecorded
    · cases hrecorded
    · next hkept =>
        have hlive := hbacked.recorded userId timerId hrecorded hne
        refine (live_destroyStrongAuthTimer manager owner).mpr ⟨hlive, ?_⟩
        rintro ⟨hnamed, rfl⟩
        have hown := hbacked.recorded owner _ (recordedTimer_of_getTimerId hnamed) hnamed
        exact hkept ⟨hnamed, hlive.owner_unique hown⟩
  nonzero userId hlive :=
    hbacked.nonzero userId ((live_destroyStrongAuthTimer manager owner).mp hlive).1

theorem Recorded.destroy (hrecorded : manager.Recorded) (owner : UserId) :
    (manager.destroyStrongAuthTimer owner).Recorded := by
  intro timerId userId hlive
  obtain ⟨hbefore, hkept⟩ := (live_destroyStrongAuthTimer manager owner).mp hlive
  have hrecord := hrecorded timerId userId hbefore
  rw [recordedTimer_destroyStrongAuthTimer, if_neg]
  · exact hrecord
  · rintro ⟨hnamed, rfl⟩
    exact hkept ⟨hnamed, (getTimerId_of_recorded hrecord).symm⟩

theorem Backed.effect (hbacked : manager.Backed) (hcreated : manager.MayCreate env.createdTimer)
    (heffect : TimerEffect env manager event after) : after.Backed := by
  cases heffect with
  | kept _ hsame => exact hsame.backed hbacked
  | started userId _ hstarts =>
      refine ⟨fun owner timerId hrecord hne => ?_, fun owner hlive => ?_⟩
      · rw [hstarts.live hcreated]
        rw [hstarts.recorded] at hrecord
        split at hrecord
        · next hown =>
            subst hown
            have hnone := hstarts.unrecorded
            rw [getTimerId_eq] at hnone
            cases hbefore : manager.recordedTimer owner with
            | none =>
                rw [hbefore, Option.getD_none] at hrecord
                obtain rfl := Option.some.inj hrecord
                exact Or.inr ⟨hne, rfl, rfl⟩
            | some old =>
                rw [hbefore, Option.getD_some] at hnone hrecord
                exact absurd ((Option.some.inj hrecord).symm.trans hnone) hne
        · exact Or.inl (hbacked.recorded owner timerId hrecord hne)
      · rcases (hstarts.live hcreated 0 owner).mp hlive with hold | ⟨hne, heq, _⟩
        · exact hbacked.nonzero owner hold
        · exact hne heq.symm
  | destroyed userId _ _ hsame => exact hsame.backed (hbacked.destroy userId)
  | destroyedAll _ hafter =>
      rw [hafter]
      exact destroyAllStrongAuthTimer_induction (fun _ owner hheld => hheld.destroy owner) hbacked

/-- A handler that wants a timer for an account whose record holds id 0 gets none. -/
def LeavesFailedRecords (manager : StrongAuthManger) (entry : Environment × StrongAuthEvent) :
    Prop :=
  ∀ userId, wantsTimer entry.1 manager entry.2 = some userId →
    manager.recordedTimer userId = some 0 → entry.1.createdTimer = 0

theorem Recorded.effect_iff (hbacked : manager.Backed) (hrecorded : manager.Recorded)
    (hcreated : manager.MayCreate env.createdTimer)
    (heffect : TimerEffect env manager event after) :
    after.Recorded ↔ manager.LeavesFailedRecords (env, event) := by
  cases heffect with
  | kept hwants hsame =>
      refine iff_of_true (hsame.allRecorded hrecorded) fun userId hwanted hzero => ?_
      exact absurd (getTimerId_of_recorded hzero) (hwants userId hwanted)
  | started userId hwants hstarts =>
      constructor
      · intro hafter other hwanted hzero
        obtain rfl := Option.some.inj (hwants.symm.trans hwanted)
        by_contra hne
        have hlive := (hstarts.live hcreated env.createdTimer userId).mpr (Or.inr ⟨hne, rfl, rfl⟩)
        have hrecord := hafter _ _ hlive
        rw [hstarts.recorded, if_pos rfl, hzero, Option.getD_some] at hrecord
        exact hne (Option.some.inj hrecord).symm
      · intro hleaves timerId owner hlive
        rw [hstarts.recorded]
        rcases (hstarts.live hcreated timerId owner).mp hlive with hold | ⟨hne, rfl, rfl⟩
        · have hrecord := hrecorded timerId owner hold
          rw [if_neg]
          · exact hrecord
          · rintro rfl
            have hzero := hstarts.unrecorded
            rw [getTimerId_of_recorded hrecord] at hzero
            subst hzero
            exact hbacked.nonzero owner hold
        · rw [if_pos rfl]
          have hnone := hstarts.unrecorded
          rw [getTimerId_eq] at hnone
          cases hbefore : manager.recordedTimer owner with
          | none => rfl
          | some old =>
              rw [hbefore, Option.getD_some] at hnone
              subst hnone
              exact absurd (hleaves owner hwants hbefore) hne
  | destroyed userId _ hwants hsame =>
      refine iff_of_true (hsame.allRecorded (hrecorded.destroy userId)) fun owner hwanted => ?_
      rw [hwants] at hwanted
      cases hwanted
  | destroyedAll hevent hafter =>
      subst hevent
      refine iff_of_true ?_ fun owner hwanted => by cases hwanted
      rw [hafter]
      exact destroyAllStrongAuthTimer_induction (fun _ owner hheld => hheld.destroy owner) hrecorded

end Invariants

section Escapes

variable {manager : StrongAuthManger}

/-- Each account has one live timer at most, the one on record, and destroying
the timers on record leaves none alive. -/
structure NoTimerEscapes (manager : StrongAuthManger) : Prop where
  one : ∀ userId first second, manager.Live first userId → manager.Live second userId →
    first = second
  recorded : ∀ timerId userId, manager.Live timerId userId →
    manager.recordedTimer userId = some timerId
  destroyed : ∀ userId timerId, ¬ (manager.destroyStrongAuthTimer userId).Live timerId userId
  destroyedAll : ∀ userId timerId, ¬ manager.destroyAllStrongAuthTimer.Live timerId userId

theorem not_live_destroyStrongAuthTimer (hbacked : manager.Backed) (hrecorded : manager.Recorded)
    (userId : UserId) (timerId : TimerId) :
    ¬ (manager.destroyStrongAuthTimer userId).Live timerId userId := by
  intro hlive
  obtain ⟨hbefore, hkept⟩ := (live_destroyStrongAuthTimer manager userId).mp hlive
  have hnamed := getTimerId_of_recorded (hrecorded timerId userId hbefore)
  refine hkept ⟨fun hzero => ?_, hnamed.symm⟩
  rw [hnamed] at hzero
  subst hzero
  exact hbacked.nonzero userId hbefore

/-- Destroying the timers of some accounts leaves those of the other accounts alive at most. -/
theorem live_destroy_foldl (userIds : List UserId) (hbacked : manager.Backed)
    (hrecorded : manager.Recorded) {timerId : TimerId} {userId : UserId}
    (hlive : (userIds.foldl (fun current owner => current.destroyStrongAuthTimer owner)
      manager).Live timerId userId) : manager.Live timerId userId ∧ userId ∉ userIds := by
  induction userIds generalizing manager with
  | nil => exact ⟨hlive, List.not_mem_nil⟩
  | cons owner rest ih =>
      obtain ⟨hafter, hrest⟩ := ih (hbacked.destroy owner) (hrecorded.destroy owner) hlive
      have hbefore := ((live_destroyStrongAuthTimer manager owner).mp hafter).1
      refine ⟨hbefore, fun hmem => ?_⟩
      rcases List.mem_cons.mp hmem with rfl | hlater
      · exact not_live_destroyStrongAuthTimer hbacked hrecorded userId timerId hafter
      · exact hrest hlater

theorem mem_keys_of_recorded {userId : UserId} {timerId : TimerId}
    (hrecord : manager.recordedTimer userId = some timerId) :
    userId ∈ manager.strongAuthTimerInfo.keys := by
  rw [Std.TreeMap.mem_keys, Std.TreeMap.mem_iff_isSome_getElem?]
  unfold recordedTimer at hrecord
  cases hinfo : manager.strongAuthTimerInfo[userId]? with
  | none => simp [hinfo] at hrecord
  | some info => rfl

theorem noTimerEscapes_iff (hbacked : manager.Backed) :
    manager.NoTimerEscapes ↔ manager.Recorded := by
  constructor
  · exact fun hnone => hnone.recorded
  · intro hrecorded
    refine ⟨fun userId first second hfirst hsecond => ?_, hrecorded,
      not_live_destroyStrongAuthTimer hbacked hrecorded, fun userId timerId hlive => ?_⟩
    · exact Option.some.inj ((hrecorded _ _ hfirst).symm.trans (hrecorded _ _ hsecond))
    · obtain ⟨hbefore, hmissed⟩ := live_destroy_foldl _ hbacked hrecorded hlive
      exact hmissed (mem_keys_of_recorded (hrecorded timerId userId hbefore))

theorem empty_backed : empty.Backed where
  recorded userId timerId hrecord _ := by simp [recordedTimer, empty] at hrecord
  nonzero userId := by simp [Live, empty]

theorem empty_noTimerEscapes : empty.NoTimerEscapes := by
  refine (noTimerEscapes_iff empty_backed).mpr fun timerId userId hlive => ?_
  simp [Live, empty] at hlive

theorem step_same (manager : StrongAuthManger) (entry : Environment × StrongAuthEvent) :
    SameTimers (manager.enter entry.1 entry.2) (manager.step entry) :=
  SameTimers.of_eq rfl rfl

theorem step_backed {entry : Environment × StrongAuthEvent}
    (hcreated : manager.MayCreate entry.1.createdTimer) (hbacked : manager.Backed) :
    (manager.step entry).Backed :=
  (step_same manager entry).backed
    (hbacked.effect hcreated (enter_timerEffect manager entry.2))

/-- In every run each live timer is on record exactly if no timer is created for
an account whose record holds id 0, that is, after a creation for it has failed. -/
theorem noTimerEscapes_throughout_iff {events : List (Environment × StrongAuthEvent)}
    (hadmits : timerMachine.Admits empty events) :
    timerMachine.Throughout NoTimerEscapes empty events ↔
      timerMachine.Steps LeavesFailedRecords empty events := by
  refine timerMachine.throughout_iff_steps Backed ?_ ?_ hadmits empty_backed empty_noTimerEscapes
  · exact fun manager entry hcreated hbacked => step_backed hcreated hbacked
  · intro manager entry hcreated hbacked hnone
    have heffect : TimerEffect entry.1 manager entry.2 (manager.enter entry.1 entry.2) :=
      enter_timerEffect manager entry.2
    have hafter : (timerMachine.step manager entry).Backed := step_backed hcreated hbacked
    rw [noTimerEscapes_iff hafter,
      ← Recorded.effect_iff hbacked ((noTimerEscapes_iff hbacked).mp hnone) hcreated heffect]
    exact Iff.rfl

/-- The platform of account 100, with `CreateTimer` answering `created`. -/
def creating (created : TimerId) : Environment :=
  { Environment.single 100 with createdTimer := created }

theorem pinEnrolled_noTimerEscapes_iff :
    timerMachine.Throughout NoTimerEscapes empty
        [(creating 5, .credentialInfo 100 .success [⟨1⟩]),
          (creating 6, .authSuccess 100 .pin false)] ↔
      timerMachine.Steps LeavesFailedRecords empty
        [(creating 5, .credentialInfo 100 .success [⟨1⟩]),
          (creating 6, .authSuccess 100 .pin false)] :=
  noTimerEscapes_throughout_iff ⟨Or.inr ((fresh_iff _ _).mpr (by decide)),
    Or.inr ((fresh_iff _ _).mpr (by decide)), trivial⟩

/-- The first creation fails, the second succeeds: the second timer is live and
not on record. -/
theorem timer_escapes_after_failure :
    timerMachine.Admits empty
        [(creating 0, .credentialInfo 100 .success [⟨1⟩]),
          (creating 6, .authSuccess 100 .pin false)] ∧
      ¬ timerMachine.Throughout NoTimerEscapes empty
        [(creating 0, .credentialInfo 100 .success [⟨1⟩]),
          (creating 6, .authSuccess 100 .pin false)] := by
  refine ⟨⟨Or.inl rfl, Or.inr ((fresh_iff _ _).mpr (by decide)), trivial⟩, fun hall => ?_⟩
  have hlast := (hall _ (List.prefix_refl _)).recorded 6 100 (by decide)
  revert hlast
  decide

end Escapes

end Screenlock.StrongAuthManger
