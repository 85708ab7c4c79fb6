import Screenlock.Foundation.History
import Screenlock.Service.AccountRecords
import Screenlock.Service.StrongAuth
import Screenlock.StrongAuth.Boot

/-! # The requirement after a boot, in runs of the service

From the start of the service, an account that has been activated has to
authenticate after the boot, whatever requests and timers arrive before, between
and after the two halves of its initialisation. The service keeps this exactly
where neither half meets the record of something else.
-/

namespace Screenlock.ScreenLockSystemAbility

open Foundation

/-- The event enters the strong-authentication manager, and its entry meets the condition. -/
def Enters (condition : StrongAuthManger → Environment × StrongAuthEvent → Prop)
    (ability : ScreenLockSystemAbility) (event : ServiceEvent) : Prop :=
  ∃ entry, strongAuthEntry event = some entry ∧ condition ability.strongAuth entry

/-- The entry leaves alone what the account has to do after the boot. -/
def SparesBoot (userId : UserId) (event : ServiceEvent) : Prop :=
  ∀ entry, strongAuthEntry event = some entry → StrongAuthManger.SparesBoot userId entry

/-- Some activation of the account is over: fewer queries of it wait for an answer
than activations have run. -/
def BootCompleted (disk : Std.TreeMap String PreferencesValue) (userId : UserId)
    (past : List ServiceEvent) : Prop :=
  (machine.run (started disk) past).strongAuth.queries.count userId <
    past.countP (activates userId)

/-- `AFTER_BOOT` itself has been asked for, or an answer has found no record. -/
def BootFlagged (disk : Std.TreeMap String PreferencesValue) (userId : UserId)
    (past : List ServiceEvent) : Prop :=
  machine.Happened (Enters (StrongAuthManger.FlagsBoot userId)) (started disk) past

/-- An answer or a change of the PIN has called for a timer, and the timers have not
been destroyed since. -/
def TimerStarted (disk : Std.TreeMap String PreferencesValue) (userId : UserId)
    (past : List ServiceEvent) : Prop :=
  machine.Since
    (Enters fun manager entry =>
      StrongAuthManger.wantsTimer entry.1 manager entry.2 = some userId)
    (Enters fun _ entry => entry.2 = .destroyAllStrongAuthTimer) (started disk) past

def FindsOwnRecord (disk : Std.TreeMap String PreferencesValue) (userId : UserId)
    (past : List ServiceEvent) (event : ServiceEvent) : Prop :=
  ∀ entry, strongAuthEntry event = some entry →
    StrongAuthManger.FindsOwnRecord userId (BootCompleted disk userId past)
      (BootFlagged disk userId past) (TimerStarted disk userId past)
      (machine.run (started disk) past).strongAuth entry

variable {disk : Std.TreeMap String PreferencesValue} {userId : UserId}
  {events past : List ServiceEvent}
  {event : ServiceEvent}

section Entries

variable {condition : StrongAuthManger → Environment × StrongAuthEvent → Prop}
  {ability : ScreenLockSystemAbility}

theorem enters_iff {entry : Environment × StrongAuthEvent}
    (hentry : strongAuthEntry event = some entry) :
    Enters condition ability event ↔ condition ability.strongAuth entry := by
  simp [Enters, hentry]

theorem not_enters (hnone : strongAuthEntry event = none) :
    ¬ Enters condition ability event := by
  simp [Enters, hnone]

/-- What one entry does to the queries that wait. -/
theorem step_queries (ability : ScreenLockSystemAbility) (event : ServiceEvent) :
    (ability.step event).strongAuth.queries =
      match event with
      | .notify env (.activeUser targetUser) =>
          if ability.strongAuth.isUserExitInStrongAuthInfo targetUser = false ∧
              env.credentialInfo = .success then
            ability.strongAuth.queries ++ [targetUser]
          else ability.strongAuth.queries
      | .notify _ (.credentialInfo user _ _) => ability.strongAuth.queries.erase user
      | _ => ability.strongAuth.queries := by
  rw [step_strongAuth]
  cases event with
  | call env caller request =>
      cases request with
      | requestStrongAuth reasonFlag user =>
          rw [strongAuthEntry]
          split
          · rfl
          · next hentry =>
              split at hentry
              · obtain ⟨rfl, rfl⟩ := Prod.mk.inj (Option.some.inj hentry)
                exact StrongAuthManger.enter_queries _ _ _
              · cases hentry
      | _ => rfl
  | notify env notification =>
      cases notification with
      | credChange callingUid user authType eventType isSilentCredChange =>
          rw [strongAuthEntry]
          split
          · rfl
          · next hentry =>
              split at hentry
              · obtain ⟨rfl, rfl⟩ := Prod.mk.inj (Option.some.inj hentry)
                exact StrongAuthManger.enter_queries _ _ _
              · cases hentry
      | removeUser user => rfl
      | initUserId => rfl
      | credentialUpdated user authType credentialCount => rfl
      | remoteDied remote => rfl
      | _ => exact StrongAuthManger.enter_queries _ _ _
  | runLockTask reportedAt => rfl
  | runUnlockTask reportedAt => rfl

/-- How many queries of a spared account wait after one entry. -/
theorem count_queries_step (hspares : SparesBoot userId event) :
    (ability.step event).strongAuth.queries.count userId =
      match event with
      | .notify _ (.activeUser targetUser) =>
          if targetUser = userId ∧ ability.strongAuth.isUserExitInStrongAuthInfo userId = false
          then ability.strongAuth.queries.count userId + 1
          else ability.strongAuth.queries.count userId
      | .notify _ (.credentialInfo user _ _) =>
          if user = userId then ability.strongAuth.queries.count userId - 1
          else ability.strongAuth.queries.count userId
      | _ => ability.strongAuth.queries.count userId := by
  rw [step_queries]
  cases event with
  | notify env notification =>
      cases notification with
      | activeUser targetUser =>
          dsimp only
          by_cases htarget : targetUser = userId
          · subst htarget
            have htaken : env.credentialInfo = .success := (hspares _ rfl).2 rfl
            simp only [htaken, and_true, true_and]
            split <;> simp
          · split <;> simp [htarget]
      | credentialInfo user result infoList =>
          dsimp only
          by_cases huser : user = userId
          · simp [huser]
          · simp [huser, List.count_erase_of_ne (Ne.symm huser)]
      | _ => rfl
  | _ => rfl

end Entries

section Completed

theorem countP_activates_concat :
    (past ++ [event]).countP (activates userId) =
      past.countP (activates userId) + if activates userId event then 1 else 0 := by
  rw [List.countP_append, List.countP_singleton]

/-- No more queries wait than activations have run. -/
theorem queries_le (hspares : ∀ event ∈ past, SparesBoot userId event) :
    (machine.run (started disk) past).strongAuth.queries.count userId ≤
      past.countP (activates userId) := by
  induction past using List.reverseRecOn with
  | nil => exact Nat.le_refl 0
  | append_singleton past event ih =>
      have hbefore := ih fun earlier hmem => hspares earlier (List.mem_append_left _ hmem)
      have hevent := hspares event (List.mem_append_right _ (List.mem_singleton_self _))
      rw [machine.run_concat, countP_activates_concat]
      refine (Nat.le_of_eq (count_queries_step hevent)).trans ?_
      cases event with
      | notify env notification =>
          cases notification with
          | activeUser targetUser =>
              simp only [activates, decide_eq_true_eq]
              split
              · next hasks =>
                  rw [if_pos hasks.1]
                  omega
              · exact Nat.le_add_right_of_le hbefore
          | credentialInfo user result infoList =>
              refine Nat.le_add_right_of_le ?_
              dsimp only
              split <;> omega
          | _ => exact Nat.le_add_right_of_le hbefore
      | _ => exact Nat.le_add_right_of_le hbefore

/-- Only activations and answers can end an activation. -/
theorem completes_cases {ability : ScreenLockSystemAbility}
    (hover : Enters (StrongAuthManger.CompletesBoot userId) ability event) :
    ∃ env, (∃ targetUser, event = .notify env (.activeUser targetUser)) ∨
      ∃ user result infoList, event = .notify env (.credentialInfo user result infoList) := by
  obtain ⟨⟨env, entry⟩, hentry, hover⟩ := hover
  cases event with
  | call env' caller request =>
      cases request with
      | requestStrongAuth reasonFlag user =>
          rw [strongAuthEntry] at hentry
          split at hentry <;> cases hentry
          exact hover.elim
      | _ => cases hentry
  | notify env' notification =>
      cases notification with
      | activeUser targetUser => exact ⟨env', Or.inl ⟨targetUser, rfl⟩⟩
      | credentialInfo user result infoList =>
          exact ⟨env', Or.inr ⟨user, result, infoList, rfl⟩⟩
      | credChange callingUid user authType eventType isSilentCredChange =>
          rw [strongAuthEntry] at hentry
          split at hentry <;> cases hentry
          exact hover.elim
      | _ => cases hentry <;> exact hover.elim
  | _ => cases hentry

theorem not_bootCompleted_nil : ¬ BootCompleted disk userId [] :=
  Nat.lt_irrefl 0

/-- The first activation to be over is one that finds a record, or one whose query
is answered. -/
theorem bootCompleted_concat (hspares : SparesBoot userId event)
    (henabled : machine.enabled (machine.run (started disk) past) event)
    (hle : (machine.run (started disk) past).strongAuth.queries.count userId ≤
      past.countP (activates userId)) :
    BootCompleted disk userId (past ++ [event]) ↔
      Enters (StrongAuthManger.CompletesBoot userId) (machine.run (started disk) past) event ∨
        BootCompleted disk userId past := by
  unfold BootCompleted
  rw [machine.run_concat, countP_activates_concat]
  have hcount : (machine.step (machine.run (started disk) past) event).strongAuth.queries.count
      userId = _ := count_queries_step hspares
  rw [hcount]
  cases event with
  | notify env notification =>
      cases notification with
      | activeUser targetUser =>
          rw [enters_iff rfl]
          simp only [StrongAuthManger.CompletesBoot, activates, decide_eq_true_eq]
          by_cases htarget : targetUser = userId
          · -- a record that is found ends the activation at once
            cases (machine.run (started disk) past).strongAuth.isUserExitInStrongAuthInfo
              userId <;> simp [htarget]
            omega
          · simp [htarget]
      | credentialInfo user result infoList =>
          rw [enters_iff rfl]
          by_cases huser : user = userId
          · have hwaits : 0 < (machine.run (started disk) past).strongAuth.queries.count userId :=
              List.count_pos_iff.mpr (huser ▸ henabled)
            refine iff_of_true ?_ (Or.inl huser)
            simp only [huser, activates, if_true]
            omega
          · simp [StrongAuthManger.CompletesBoot, activates, huser]
      | _ =>
          exact (or_iff_right fun hover => by simpa using completes_cases hover).symm
  | _ =>
      exact (or_iff_right fun hover => by simpa using completes_cases hover).symm

end Completed

section Guarded

theorem step_strongAuth_of_none {ability : ScreenLockSystemAbility}
    (hnone : strongAuthEntry event = none) :
    (machine.step ability event).strongAuth = ability.strongAuth := by
  refine (step_strongAuth ability event).trans ?_
  rw [hnone]

theorem step_strongAuth_of_entry {ability : ScreenLockSystemAbility}
    {entry : Environment × StrongAuthEvent} (hentry : strongAuthEntry event = some entry) :
    (machine.step ability event).strongAuth = ability.strongAuth.step entry := by
  refine (step_strongAuth ability event).trans ?_
  rw [hentry]
  rfl

theorem noFailedRecord_step {ability : ScreenLockSystemAbility} (hspares : SparesBoot userId event)
    (hnofailed : ability.strongAuth.NoFailedRecord) :
    (machine.step ability event).strongAuth.NoFailedRecord := by
  cases hentry : strongAuthEntry event with
  | none => rwa [step_strongAuth_of_none hentry]
  | some entry =>
      rw [step_strongAuth_of_entry hentry]
      have hcreated : entry.1.createdTimer ≠ 0 := (hspares entry hentry).1
      have henter : (ability.strongAuth.enter entry.1 entry.2).NoFailedRecord :=
        hnofailed.effect hcreated (StrongAuthManger.enter_timerEffect ability.strongAuth entry.2)
      exact henter

theorem noFailedRecord_run (hspares : ∀ event ∈ past, SparesBoot userId event) :
    (machine.run (started disk) past).strongAuth.NoFailedRecord := by
  have hsteps :=
    (machine.steps_iff_forall_mem (SparesBoot userId) (started disk) past).mpr hspares
  have hstart : (started disk).strongAuth.NoFailedRecord := by
    intro owner heq
    cases heq
  refine @Machine.steps_invariant _ _ machine _
    (fun ability => ability.strongAuth.NoFailedRecord) ?_ _ _ hsteps hstart
  exact fun _ _ hevent hheld => noFailedRecord_step hevent hheld

/-- The flag of a spared account tells whether the past has flagged it. -/
theorem flagged_iff (hspares : ∀ event ∈ past, SparesBoot userId event) :
    (machine.run (started disk) past).strongAuth.strongAuthStateInfo[userId]? =
        some StrongAuthReasonFlags.afterBoot ↔
      BootFlagged disk userId past := by
  induction past using List.reverseRecOn with
  | nil => exact iff_of_false (fun heq => by cases heq) Machine.not_happened_nil
  | append_singleton past event ih =>
      have hbefore := ih fun earlier hmem => hspares earlier (List.mem_append_left _ hmem)
      have hevent := hspares event (List.mem_append_right _ (List.mem_singleton_self _))
      rw [BootFlagged, Machine.happened_concat, machine.run_concat]
      cases hentry : strongAuthEntry event with
      | none =>
          rw [step_strongAuth_of_none hentry, or_iff_right (not_enters hentry)]
          exact hbefore
      | some entry =>
          rw [step_strongAuth_of_entry hentry,
            StrongAuthManger.afterBoot_step_iff (hevent entry hentry), enters_iff hentry]
          exact or_congr_right hbefore

/-- The timer of a spared account tells whether the past has started one. -/
theorem timerStarted_iff (hspares : ∀ event ∈ past, SparesBoot userId event) :
    (machine.run (started disk) past).strongAuth.getTimerId userId ≠ 0 ↔
      TimerStarted disk userId past := by
  induction past using List.reverseRecOn with
  | nil => exact iff_of_false (fun hne => hne rfl) Machine.not_since_nil
  | append_singleton past event ih =>
      have hpast : ∀ earlier ∈ past, SparesBoot userId earlier := fun earlier hmem =>
        hspares earlier (List.mem_append_left _ hmem)
      have hevent := hspares event (List.mem_append_right _ (List.mem_singleton_self _))
      rw [TimerStarted, Machine.since_concat, machine.run_concat]
      cases hentry : strongAuthEntry event with
      | none =>
          rw [step_strongAuth_of_none hentry, or_iff_right (not_enters hentry),
            and_iff_left (not_enters hentry)]
          exact ih hpast
      | some entry =>
          rw [step_strongAuth_of_entry hentry, StrongAuthManger.getTimerId_step_iff
            (hevent entry hentry) (noFailedRecord_run hpast), enters_iff hentry, enters_iff hentry]
          exact or_congr_right (and_congr_left' (ih hpast))

/-- One more entry of a run from the start keeps the account guarded exactly if
it finds its own record. -/
theorem bootGuarded_concat (hpast : ∀ earlier ∈ past, SparesBoot userId earlier)
    (hspares : SparesBoot userId event)
    (henabled : machine.enabled (machine.run (started disk) past) event)
    (hheld : BootCompleted disk userId past →
      (machine.run (started disk) past).strongAuth.BootGuarded userId) :
    (BootCompleted disk userId (past ++ [event]) →
        (machine.run (started disk) (past ++ [event])).strongAuth.BootGuarded userId) ↔
      FindsOwnRecord disk userId past event := by
  rw [bootCompleted_concat hspares henabled (queries_le hpast), machine.run_concat]
  cases hentry : strongAuthEntry event with
  | none =>
      rw [step_strongAuth_of_none hentry, or_iff_right (not_enters hentry)]
      refine iff_of_true hheld fun entry heq => ?_
      rw [hentry] at heq
      cases heq
  | some entry =>
      rw [step_strongAuth_of_entry hentry, enters_iff hentry]
      refine (StrongAuthManger.bootGuarded_step_iff (hspares entry hentry)
        (noFailedRecord_run hpast) (flagged_iff hpast) (timerStarted_iff hpast) hheld).trans ?_
      simp [FindsOwnRecord, hentry]

/-- In a run that spares what the account has to do, a completed activation
leaves it guarded at every point exactly if no half of the initialisation takes
the record of something else for its own. -/
theorem bootGuarded_throughout_iff (hadmits : machine.Admits (started disk) events)
    (hspares : ∀ event ∈ events, SparesBoot userId event) :
    (∀ past, past <+: events → BootCompleted disk userId past →
        (machine.run (started disk) past).strongAuth.BootGuarded userId) ↔
      ∀ past event, past ++ [event] <+: events → FindsOwnRecord disk userId past event := by
  refine prefixes_iff (fun hcompleted => absurd hcompleted not_bootCompleted_nil) ?_
  intro past event hpast hheld
  have hall : ∀ earlier ∈ past ++ [event], SparesBoot userId earlier := fun earlier hmem =>
    hspares earlier (hpast.subset hmem)
  have henabled := (machine.steps_iff_prefixes _ _ _).mp hadmits past event hpast
  exact bootGuarded_concat (fun earlier hmem => hall earlier (List.mem_append_left _ hmem))
    (hall event (List.mem_append_right _ (List.mem_singleton_self _))) henabled hheld

/-- An activation, then the answer to its query. -/
def activated : List ServiceEvent :=
  [.notify (.single 100) (.activeUser 100),
    .notify (.single 100) (.credentialInfo 100 .success [⟨1⟩])]

theorem activated_bootGuarded_iff :
    (∀ past, past <+: activated → BootCompleted ∅ 100 past →
        (machine.run (started ∅) past).strongAuth.BootGuarded 100) ↔
      ∀ past event, past ++ [event] <+: activated → FindsOwnRecord ∅ 100 past event := by
  refine bootGuarded_throughout_iff ⟨trivial, ?_, trivial⟩ fun event hevent => ?_
  · exact List.mem_singleton.mpr rfl
  · simp only [activated, List.mem_cons, List.not_mem_nil, or_false] at hevent
    rcases hevent with rfl | rfl
    · rintro _ ⟨rfl⟩
      exact ⟨by decide, fun _ => rfl⟩
    · rintro _ ⟨rfl⟩
      exact ⟨by decide, fun _ => by decide⟩

/-- A request for a strong authentication, then the first activation. -/
def requestedFirst : List ServiceEvent :=
  [.call (.single 100) (.privileged 100)
      (.requestStrongAuth StrongAuthReasonFlags.activeRequest 100),
    .notify (.single 100) (.activeUser 100)]

/-- The request makes the record: the activation takes it for its own, and the
account has neither the flag nor a timer. -/
theorem request_forestalls_boot :
    (machine.Admits (started ∅) requestedFirst ∧
      ∀ event ∈ requestedFirst, SparesBoot 100 event) ∧
      ¬ ∀ past, past <+: requestedFirst → BootCompleted ∅ 100 past →
          (machine.run (started ∅) past).strongAuth.BootGuarded 100 := by
  refine ⟨⟨⟨trivial, trivial, trivial⟩, fun event hevent => ?_⟩, fun hall => ?_⟩
  · simp only [requestedFirst, List.mem_cons, List.not_mem_nil, or_false] at hevent
    rcases hevent with rfl | rfl
    · rintro _ ⟨rfl⟩
      exact ⟨by decide, fun _ => by decide⟩
    · rintro _ ⟨rfl⟩
      exact ⟨by decide, fun _ => rfl⟩
  · have hguarded := hall _ (List.prefix_refl _) (by unfold BootCompleted; decide)
    exact absurd hguarded.1 (by decide)

end Guarded

end Screenlock.ScreenLockSystemAbility
