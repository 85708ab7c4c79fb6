import Screenlock.Foundation.History
import Screenlock.StrongAuth.Boot

/-! # Deleted accounts

An enforced deletion drops the flag and the timer of an account, provided that
the account is known. A timer is only ever started for a known account, so
nothing is left behind. What brings a deleted account back unasked is the answer
to a credential query that was pending when the account was deleted.
-/

namespace Screenlock.StrongAuthManger

open Foundation

/-- The handler stores a flag for the account. -/
def storesFlag (userId : UserId) : StrongAuthEvent → Bool
  | .setStrongAuthStat user _ | .credentialInfo user _ _ | .timerFired user => user = userId
  | .authSuccess user authType isWidgetAuth =>
      user = userId ∧ authType = .pin ∧ isWidgetAuth = false
  | _ => false

/-- `ENFORCE_DEL_USER` for the PIN of the account. -/
def deletes (userId : UserId) : StrongAuthEvent → Bool
  | .credChange user authType eventType _ =>
      user = userId ∧ authType = .pin ∧ eventType = .enforceDelUser
  | _ => false

/-- `OnActiveUser`, a PIN success or `RequestStrongAuth` for the account. -/
def readmits (userId : UserId) : StrongAuthEvent → Bool
  | .getCredInfo user | .setStrongAuthStat user _ => user = userId
  | .authSuccess user authType _ => user = userId ∧ authType = .pin
  | _ => false

/-- A credential query for the account is answered. -/
def answers (userId : UserId) : StrongAuthEvent → Bool
  | .credentialInfo user _ _ => user = userId
  | _ => false

/-- No 2in1 device; timers are created under ids that are fresh and not 0, only
live timers fire, and only pending queries are answered. -/
def phone : Machine StrongAuthManger (Environment × StrongAuthEvent) where
  enabled manager entry :=
    entry.1.deviceType ≠ "2in1" ∧ entry.1.createdTimer ≠ 0 ∧
      manager.Fresh entry.1.createdTimer ∧ match entry.2 with
        | .credentialInfo userId _ _ => userId ∈ manager.queries
        | .timerFired userId => ∃ timerId, manager.Live timerId userId
        | _ => True
  step := step

section Known

variable {manager : StrongAuthManger} {env : Environment} {event : StrongAuthEvent}
  {userId : UserId}

/-- Which accounts are known after a handler. -/
theorem known_enter (hdevice : env.deviceType ≠ "2in1") :
    (manager.enter env event).isUserExitInStrongAuthInfo userId =
      (storesFlag userId event ||
        manager.isUserExitInStrongAuthInfo userId && !deletes userId event) := by
  unfold isUserExitInStrongAuthInfo
  cases event with
  | setStrongAuthStat user reasonFlag =>
      rw [enter, setStrongAuthStat_get]
      by_cases huser : user = userId <;> simp [storesFlag, deletes, huser]
  | accountUnlocked user => simp [enter, storesFlag, deletes]
  | getCredInfo user => simp [enter, storesFlag, deletes]
  | credentialInfo user result infoList =>
      rw [enter, onCredentialInfo_get]
      by_cases huser : user = userId <;> simp [storesFlag, deletes, huser]
  | authSuccess user authType isWidgetAuth =>
      rw [enter, onNotifyAuthSuccessEvent_get]
      split
      next hpin => simp [storesFlag, hpin]
      next hother =>
        have hkept : ¬ (user = userId ∧ authType = .pin ∧ isWidgetAuth = false) :=
          fun hpin => hother ⟨hpin.2.1, hpin.2.2, hpin.1⟩
        simp [storesFlag, deletes, hkept]
  | credChange user authType eventType isSilentCredChange =>
      rw [enter, onNotifyCredChangeEvent_get]
      by_cases hown : user = userId ∧ authType = .pin
      · obtain ⟨rfl, rfl⟩ := hown
        cases hknown : manager.strongAuthStateInfo[user]? with
        | none => simp [storesFlag, isUserExitInStrongAuthInfo, hknown]
        | some flag =>
            cases eventType <;>
              simp [storesFlag, deletes, isUserExitInStrongAuthInfo, hknown, hdevice]
      · rw [if_neg fun hall => hown ⟨hall.2.2.2, hall.2.1⟩]
        have hkept : deletes userId (.credChange user authType eventType isSilentCredChange) =
            false := decide_eq_false fun hall => hown ⟨hall.1, hall.2.1⟩
        simp [storesFlag, hkept]
  | timerFired user =>
      rw [enter, strongAuthTimerCallback, setStrongAuthStat_get]
      by_cases huser : user = userId <;> simp [storesFlag, deletes, huser]
  | destroyAllStrongAuthTimer => simp [enter, storesFlag, deletes]

/-- A handler that wants a timer for an account leaves the account known. -/
theorem known_of_wantsTimer (hdevice : env.deviceType ≠ "2in1")
    (hwants : wantsTimer env manager event = some userId) :
    (manager.enter env event).isUserExitInStrongAuthInfo userId = true := by
  rw [known_enter hdevice]
  cases event with
  | credentialInfo user result infoList =>
      simp only [wantsTimer] at hwants
      split at hwants
      · simp [storesFlag, Option.some.inj hwants]
      · cases hwants
  | authSuccess user authType isWidgetAuth =>
      simp only [wantsTimer] at hwants
      split at hwants
      next hpin => simp [storesFlag, Option.some.inj hwants, hpin]
      next => cases hwants
  | credChange user authType eventType isSilentCredChange =>
      simp only [wantsTimer] at hwants
      split at hwants
      next hrenewed =>
        obtain ⟨_, _, hknown, hrenews⟩ := hrenewed
        obtain rfl := Option.some.inj hwants
        rcases hrenews with rfl | ⟨rfl, _⟩ <;> simp [storesFlag, deletes, hknown]
      next => cases hwants
  | _ => cases hwants

end Known

section Consistency

variable {manager : StrongAuthManger} {entry : Environment × StrongAuthEvent} {userId : UserId}

/-- Live timers are on record, and accounts on record are known. -/
structure Consistent (manager : StrongAuthManger) : Prop where
  backed : manager.Backed
  recorded : manager.Recorded
  nofailed : manager.NoFailedRecord
  known : ∀ userId timerId, manager.recordedTimer userId = some timerId →
    manager.isUserExitInStrongAuthInfo userId = true

/-- Nothing is kept of the account, and no timer of it lives. -/
structure Gone (userId : UserId) (manager : StrongAuthManger) : Prop where
  stateInfo : manager.strongAuthStateInfo[userId]? = none
  timerInfo : manager.strongAuthTimerInfo[userId]? = none
  timers : ∀ timerId, ¬ manager.Live timerId userId

theorem empty_consistent : Consistent empty where
  backed := empty_backed
  recorded := empty_noTimerEscapes.recorded
  nofailed := TimersOnRecord.empty.nofailed
  known userId timerId hrecord := by simp [recordedTimer, empty] at hrecord

/-- After an enforced deletion no timer of the account is on record. -/
theorem recordedTimer_deleted {env : Environment} {event : StrongAuthEvent}
    (hconsistent : manager.Consistent) (hdevice : env.deviceType ≠ "2in1")
    (hdeletes : deletes userId event = true) :
    (manager.enter env event).recordedTimer userId = none := by
  cases event with
  | credChange user authType eventType isSilentCredChange =>
      obtain ⟨rfl, rfl, rfl⟩ := of_decide_eq_true hdeletes
      simp only [enter, onNotifyCredChangeEvent, if_neg hdevice, true_and]
      have hforgotten : SameTimers manager (manager.destroyStrongAuthStateInfo user) :=
        SameTimers.of_eq rfl rfl
      split
      next hknown =>
        simp only [reduceCtorEq, false_and, or_self, if_false, if_true]
        rw [(hforgotten.destroyStrongAuthTimer user).recorded,
          recordedTimer_destroyStrongAuthTimer]
        split
        next => rfl
        next hnone =>
          have hzero : manager.getTimerId user = 0 := by
            by_contra hne
            exact hnone ⟨hne, rfl⟩
          exact recordedTimer_none hconsistent.nofailed hzero
      next hunknown =>
        cases hrecord : manager.recordedTimer user with
        | none => rfl
        | some timerId => exact absurd (hconsistent.known user timerId hrecord) hunknown
  | _ => cases hdeletes

theorem consistent_step (henabled : phone.enabled manager entry)
    (hconsistent : manager.Consistent) : (manager.step entry).Consistent := by
  obtain ⟨hdevice, hcreated, hfresh, _⟩ := henabled
  have heffect : TimerEffect entry.1 manager entry.2 (manager.enter entry.1 entry.2) :=
    enter_timerEffect manager entry.2
  have hsame := step_same manager entry
  have hbefore : manager.TimersOnRecord :=
    ⟨hconsistent.backed, hconsistent.recorded, hconsistent.nofailed⟩
  obtain ⟨hbacked, hrecorded, hnofailed⟩ := hbefore.step hcreated hfresh
  refine ⟨hbacked, hrecorded, hnofailed, ?_⟩
  intro userId timerId hrecord
  rw [hsame.recorded] at hrecord
  change (manager.enter entry.1 entry.2).isUserExitInStrongAuthInfo userId = true
  cases hdeletes : deletes userId entry.2 with
  | true =>
      rw [recordedTimer_deleted hconsistent hdevice hdeletes] at hrecord
      cases hrecord
  | false =>
      rcases recordedTimer_effect heffect hrecord with hbefore | hwants
      · rw [known_enter hdevice, hconsistent.known userId timerId hbefore, hdeletes]
        simp
      · exact known_of_wantsTimer hdevice hwants

/-- Of an account that is not known nothing is left. -/
theorem gone_iff (hconsistent : manager.Consistent) :
    manager.Gone userId ↔ manager.isUserExitInStrongAuthInfo userId = false := by
  constructor
  · intro hgone
    rw [isUserExitInStrongAuthInfo, hgone.stateInfo]
    rfl
  · intro hunknown
    have hunrecorded : manager.recordedTimer userId = none := by
      cases hrecord : manager.recordedTimer userId with
      | none => rfl
      | some timerId =>
          rw [hconsistent.known userId timerId hrecord] at hunknown
          cases hunknown
    refine ⟨?_, Option.map_eq_none_iff.mp hunrecorded, fun timerId hlive => ?_⟩
    · exact Option.not_isSome_iff_eq_none.mp (Bool.eq_false_iff.mp hunknown)
    · rw [hconsistent.recorded timerId userId hlive] at hunrecorded
      cases hunrecorded

end Consistency

section Histories

variable {userId : UserId} {events past : List (Environment × StrongAuthEvent)}
  {entry : Environment × StrongAuthEvent}

/-- The account was deleted, and nothing has asked for it again since. -/
def DeletedSince (userId : UserId) (past : List (Environment × StrongAuthEvent)) : Prop :=
  phone.Since (fun _ entry => deletes userId entry.2 = true)
    (fun _ entry => readmits userId entry.2 = true) empty past

/-- A deleted account is gone. -/
def StaysGone (userId : UserId) (past : List (Environment × StrongAuthEvent)) : Prop :=
  DeletedSince userId past → (phone.run empty past).Gone userId

/-- The handler is not the answer to a query for an account deleted in between. -/
def NoLateAnswer (userId : UserId) (past : List (Environment × StrongAuthEvent))
    (entry : Environment × StrongAuthEvent) : Prop :=
  answers userId entry.2 = true → ¬ DeletedSince userId past

theorem deletedSince_concat :
    DeletedSince userId (past ++ [entry]) ↔ deletes userId entry.2 = true ∨
      (DeletedSince userId past ∧ readmits userId entry.2 = false) := by
  rw [DeletedSince, Machine.since_concat, Bool.not_eq_true]
  rfl

theorem consistent_run (hadmits : phone.Admits empty events) :
    (phone.run empty events).Consistent :=
  phone.run_invariant (fun _ _ henabled hheld => consistent_step henabled hheld) hadmits
    empty_consistent

/-- What stores a flag for an account without a timer, and is no readmission, is the
answer to a query. -/
theorem storesFlag_unasked {manager : StrongAuthManger} (henabled : phone.enabled manager entry)
    (hgone : manager.Gone userId) (hunasked : readmits userId entry.2 = false) :
    storesFlag userId entry.2 = answers userId entry.2 := by
  obtain ⟨env, event⟩ := entry
  cases event with
  | setStrongAuthStat user reasonFlag => exact hunasked
  | authSuccess user authType isWidgetAuth =>
      have hother := of_decide_eq_false hunasked
      exact decide_eq_false fun hpin => hother ⟨hpin.1, hpin.2.1⟩
  | timerFired user =>
      obtain ⟨timerId, hlive⟩ := henabled.2.2.2
      refine decide_eq_false fun huser => ?_
      subst huser
      exact hgone.timers timerId hlive
  | _ => rfl

theorem staysGone_concat (hadmits : phone.Admits empty (past ++ [entry]))
    (hgone : StaysGone userId past) :
    StaysGone userId (past ++ [entry]) ↔ NoLateAnswer userId past entry := by
  have hafter := consistent_run hadmits
  obtain ⟨hpast, henabled⟩ := (phone.steps_concat _ _ _ _).mp hadmits
  have hdevice := henabled.1
  rw [StaysGone, gone_iff hafter, deletedSince_concat, phone.run_concat]
  change (_ → ((phone.run empty past).enter entry.1 entry.2).isUserExitInStrongAuthInfo userId =
    false) ↔ _
  rw [known_enter hdevice]
  cases hdeletes : deletes userId entry.2 with
  | true =>
      -- a deletion stores no flag and answers no query
      obtain ⟨env, event⟩ := entry
      cases event with
      | credChange user authType eventType isSilentCredChange =>
          refine iff_of_true (fun _ => ?_) fun hanswers => by cases hanswers
          simp [storesFlag]
      | _ => cases hdeletes
  | false =>
      constructor
      · intro hstays hanswers hdeleted
        have hunasked : readmits userId entry.2 = false := by
          obtain ⟨env, event⟩ := entry
          cases event with
          | credentialInfo user result infoList => rfl
          | _ => cases hanswers
        have hunstored := hstays (Or.inr ⟨hdeleted, hunasked⟩)
        rw [storesFlag_unasked henabled (hgone hdeleted) hunasked, hanswers] at hunstored
        cases hunstored
      · rintro hnone (hnever | ⟨hdeleted, hunasked⟩)
        · cases hnever
        · have hbefore := (gone_iff (consistent_run hpast)).mp (hgone hdeleted)
          have hsilent : answers userId entry.2 = false :=
            Bool.eq_false_of_not_eq_true fun hanswers => hnone hanswers hdeleted
          rw [storesFlag_unasked henabled (hgone hdeleted) hunasked, hsilent, hbefore]
          rfl

/-- In every run a deleted account stays gone until it is asked for again exactly
if no query for it that was pending at the deletion is answered in between. -/
theorem staysGone_throughout_iff (userId : UserId) (hadmits : phone.Admits empty events) :
    (∀ before, before <+: events → StaysGone userId before) ↔
      ∀ before entry, before ++ [entry] <+: events → NoLateAnswer userId before entry := by
  apply prefixes_iff
  · exact fun hdeleted => absurd hdeleted Machine.not_since_nil
  · intro past entry hpart hgone
    refine staysGone_concat ?_ hgone
    obtain ⟨rest, rfl⟩ := hpart
    exact ((phone.steps_append _ _ _ _).mp hadmits).1

end Histories

section LateAnswer

/-- The account is activated, its PIN found, and it is deleted. -/
def enrolledThenDeleted : List (Environment × StrongAuthEvent) :=
  [(creating 5, .getCredInfo 100), (creating 5, .credentialInfo 100 .success [⟨1⟩]),
    (creating 6, .credChange 100 .pin .enforceDelUser false)]

theorem deleted_stays_gone_iff :
    (∀ before, before <+: enrolledThenDeleted → StaysGone 100 before) ↔
      ∀ before entry, before ++ [entry] <+: enrolledThenDeleted →
        NoLateAnswer 100 before entry := by
  refine staysGone_throughout_iff 100 ⟨⟨by decide, by decide, ?_, trivial⟩,
    ⟨by decide, by decide, ?_, List.mem_singleton_self _⟩,
    ⟨by decide, by decide, ?_, trivial⟩, trivial⟩
  all_goals exact (fresh_iff _ _).mpr (by decide)

/-- Activated twice before the first answer, the account has a second query on its
way when it is deleted. The answer enters it again and starts a timer. -/
def deletedBetweenAnswers : List (Environment × StrongAuthEvent) :=
  [(creating 5, .getCredInfo 100), (creating 5, .getCredInfo 100),
    (creating 5, .credentialInfo 100 .success [⟨1⟩]),
    (creating 6, .credChange 100 .pin .enforceDelUser false),
    (creating 7, .credentialInfo 100 .success [⟨1⟩])]

theorem late_answer_revives :
    phone.Admits empty deletedBetweenAnswers ∧
      ¬ ∀ before, before <+: deletedBetweenAnswers → StaysGone 100 before := by
  constructor
  · refine ⟨⟨by decide, by decide, ?_, trivial⟩, ⟨by decide, by decide, ?_, trivial⟩,
      ⟨by decide, by decide, ?_, List.mem_cons_self⟩, ⟨by decide, by decide, ?_, trivial⟩,
      ⟨by decide, by decide, ?_, List.mem_singleton_self _⟩, trivial⟩
    all_goals exact (fresh_iff _ _).mpr (by decide)
  · intro hall
    have hgone := hall _ (List.prefix_refl _)
      ⟨[_, _, _], _, [_], rfl, rfl, Bool.false_ne_true, trivial⟩
    exact hgone.timers 7 (by decide)

end LateAnswer

end Screenlock.StrongAuthManger
