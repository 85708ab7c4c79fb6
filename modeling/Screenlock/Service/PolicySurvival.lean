import Screenlock.Service.AccountRecords
import Screenlock.Service.PolicyRemoval

/-! # A stored unlock policy over restarts

The policy is kept on disk, but the calls for it also ask for an authentication
state on record, which a restart drops. `OnActiveUser` enters one again and
`InitUserId`, which only runs at a start, does not. So a stored policy stays
within reach exactly if the account is announced before `InitUserId` is through.
-/

namespace Screenlock.ScreenLockSystemAbility

open Foundation

/-- The policy is what both images of the store hold. -/
structure HoldsPolicy (userId : UserId) (policy : Int) (ability : ScreenLockSystemAbility) :
    Prop where
  memory : ability.policyOf userId = policy
  disk : ability.diskPolicyOf userId = policy

/-- An authorised query answers the policy, and an authorised call may replace it. -/
def PolicyWithinReach (userId : UserId) (policy : Int) (ability : ScreenLockSystemAbility) :
    Prop :=
  ∀ (env : Environment) (caller : Caller), env.Working →
    caller.checkPermission accessScreenLock = true →
    (caller.checkSystemPermission = false →
      getUnlockPolicy env caller userId ability = (.ok, some policy)) ∧
    (caller.isNativeAccess = true →
      ∀ next, (ability.setUnlockPolicy env caller userId next).1 = .ok)

def restarts : LifeEvent → Bool
  | .serve _ => false
  | .dieIn _ _ | .restart => true

/-- `InitUserId` runs while the account is the active one. -/
def initialises (userId : UserId) : LifeEvent → Bool
  | .serve (.notify env .initUserId) => env.currentActiveOsAccountId = userId
  | _ => false

/-- `OnActiveUser`, or an accepted `SetScreenLockAuthState`, for the account. -/
def announces (userId : UserId) : LifeEvent → Bool
  | .serve event => activates userId event || (authStated userId event).isSome
  | _ => false

section Histories

variable (userId : UserId) (policy : Int) (start : ScreenLockSystemAbility)
  (past : List LifeEvent)

/-- `InitUserId` has returned since the service last started. -/
def Initialised : Prop :=
  ¬ lifetimes.Since (fun _ event => restarts event = true)
    (fun _ event => initialises userId event = true) start past

/-- The account has been announced since the service last started. -/
def Announced : Prop :=
  ¬ lifetimes.Since (fun _ event => restarts event = true)
    (fun _ event => announces userId event = true) start past

/-- Once the service is initialised, the policy is within reach. -/
def PolicySurvives : Prop :=
  Initialised userId start past →
    PolicyWithinReach userId policy (lifetimes.run start past)

variable {userId policy start past}

theorem initialised_concat (event : LifeEvent) :
    Initialised userId start (past ++ [event]) ↔ restarts event = false ∧
      (Initialised userId start past ∨ initialises userId event = true) := by
  rw [Initialised, Machine.since_concat, not_or, not_and_or, Bool.not_eq_true, not_not]
  rfl

theorem announced_concat (event : LifeEvent) :
    Announced userId start (past ++ [event]) ↔ restarts event = false ∧
      (Announced userId start past ∨ announces userId event = true) := by
  rw [Announced, Machine.since_concat, not_or, not_and_or, Bool.not_eq_true, not_not]
  rfl

/-- The calls reach a policy that is kept exactly if the account is on record. -/
theorem policyWithinReach_iff {ability : ScreenLockSystemAbility}
    (hholds : ability.policyOf userId = policy) :
    PolicyWithinReach userId policy ability ↔ ability.authStateInfo[userId]?.isSome := by
  constructor
  · intro hreach
    have hset := (hreach (.single userId) ⟨1, 0, .native, true, [accessScreenLock]⟩ (.single userId)
      rfl).2 rfl 0
    cases hknown : ability.authStateInfo[userId]? with
    | some authState => rfl
    | none =>
        simp only [setUnlockPolicy, hknown] at hset
        cases hset
  · intro hknown env caller hworking hpermitted
    obtain ⟨authState, hknown⟩ := Option.isSome_iff_exists.mp hknown
    constructor
    · intro htrusted
      have hobtained : ability.preferences.obtainInt .works (unlockPolicyKey userId) 0 = policy :=
        hholds
      simp [getUnlockPolicy, htrusted, hpermitted, hworking.util, hworking.works, hknown,
        hobtained]
    · intro hnative next
      simp [setUnlockPolicy, hnative, hpermitted, hworking.util, hknown]

/-- No event but those that write its key changes a policy on disk and in memory. -/
theorem holdsPolicy_live {ability : ScreenLockSystemAbility} {event : LifeEvent}
    (hkept : ∀ entry, event.entry = some entry → ¬ WritesPolicy userId entry)
    (hholds : HoldsPolicy userId policy ability) :
    HoldsPolicy userId policy (ability.live event) := by
  have hwritten : ∀ value, written (ability.lifeWrite event) (unlockPolicyKey userId) value =
      value := by
    intro value
    cases hwrite : ability.lifeWrite event with
    | none => rfl
    | some change =>
        obtain ⟨key, update⟩ := change
        obtain ⟨entry, hentry, hput, _⟩ := write_of_lifeWrite hwrite
        refine if_neg fun hkey => hkept entry hentry ?_
        exact writesPolicy_of_key (hkey ▸ StoreAction.key_of_write hput)
  have hdisk : (ability.live event).diskPolicyOf userId = policy := by
    rw [diskPolicyOf, live_disk, hwritten]
    split
    · exact hholds.memory
    · exact hholds.disk
  refine ⟨?_, hdisk⟩
  rw [policyOf_eq, live_memory]
  cases event with
  | serve entry => rw [hwritten]; exact hholds.memory
  | _ => exact hdisk

/-- A restart takes the account off the record, an announcement puts it back. -/
theorem authStateInfo_live {ability : ScreenLockSystemAbility} {event : LifeEvent}
    (hkept : ∀ entry, event.entry = some entry → ¬ WritesPolicy userId entry) :
    (ability.live event).authStateInfo[userId]?.isSome = true ↔ restarts event = false ∧
      (ability.authStateInfo[userId]?.isSome = true ∨ announces userId event = true) := by
  cases event with
  | serve entry =>
      have hremoves : removes userId entry = false := by
        cases entry with
        | notify env notification =>
            cases notification with
            | removeUser user => exact decide_eq_false (hkept _ rfl)
            | _ => rfl
        | _ => rfl
      rw [live, authStateInfo_step, hremoves]
      simp only [restarts, announces, Bool.false_eq_true, if_false, true_and]
      cases activates userId entry <;> cases authStated userId entry <;> simp
  | _ => simp [live, started, restarts]

/-- No event of the run sets the policy of the account or removes the account. -/
def Undisturbed (userId : UserId) (events : List LifeEvent) : Prop :=
  ∀ event ∈ events, ∀ entry, event.entry = some entry → ¬ WritesPolicy userId entry

/-- `InitUserId` finds the account announced. -/
def AnnouncedFirst (userId : UserId) (start : ScreenLockSystemAbility) (past : List LifeEvent)
    (event : LifeEvent) : Prop :=
  initialises userId event = true → Announced userId start past

/-- After an undisturbed run the policy is still held, and the account is on
record if it has been announced since the last start. -/
theorem survival_run (hholds : HoldsPolicy userId policy start)
    (hknown : start.authStateInfo[userId]?.isSome = true) {events : List LifeEvent}
    (hkept : Undisturbed userId events) :
    HoldsPolicy userId policy (lifetimes.run start events) ∧
      ((lifetimes.run start events).authStateInfo[userId]?.isSome = true ↔
        Announced userId start events) := by
  refine @Machine.steps_invariant_past _ _ lifetimes
    (fun _ event => ∀ entry, event.entry = some entry → ¬ WritesPolicy userId entry) start
    (fun past state => HoldsPolicy userId policy state ∧
      (state.authStateInfo[userId]?.isSome = true ↔ Announced userId start past))
    ⟨hholds, iff_of_true hknown Machine.not_since_nil⟩ ?_ events
    ((lifetimes.steps_iff_forall_mem _ _ _).mpr hkept)
  intro past event hevent hpast
  refine ⟨holdsPolicy_live hevent hpast.1, ?_⟩
  rw [announced_concat, ← hpast.2]
  exact authStateInfo_live hevent

theorem policySurvives_iff (hholds : HoldsPolicy userId policy start)
    (hknown : start.authStateInfo[userId]?.isSome = true) (hkept : Undisturbed userId past) :
    PolicySurvives userId policy start past ↔
      (Initialised userId start past → Announced userId start past) := by
  obtain ⟨hheld, hrecord⟩ := survival_run hholds hknown hkept
  rw [PolicySurvives, policyWithinReach_iff hheld.memory, hrecord]

/-- An `InitUserId` neither restarts the service nor announces the account. -/
theorem initialises_only {event : LifeEvent} (hinit : initialises userId event = true) :
    restarts event = false ∧ announces userId event = false := by
  cases event with
  | serve entry =>
      cases entry with
      | notify env notification =>
          cases notification with
          | initUserId => exact ⟨rfl, rfl⟩
          | _ => cases hinit
      | _ => cases hinit
  | _ => cases hinit

theorem policySurvives_concat (hholds : HoldsPolicy userId policy start)
    (hknown : start.authStateInfo[userId]?.isSome = true) {event : LifeEvent}
    (hkept : Undisturbed userId (past ++ [event]))
    (hsurvives : PolicySurvives userId policy start past) :
    PolicySurvives userId policy start (past ++ [event]) ↔
      AnnouncedFirst userId start past event := by
  have hpast : Undisturbed userId past := fun earlier hmem =>
    hkept earlier (List.mem_append_left _ hmem)
  rw [policySurvives_iff hholds hknown hpast] at hsurvives
  rw [policySurvives_iff hholds hknown hkept, initialised_concat, announced_concat]
  constructor
  · intro hnext hinit
    obtain ⟨hserves, hsilent⟩ := initialises_only hinit
    rcases (hnext ⟨hserves, Or.inr hinit⟩).2 with hannounced | hannounces
    · exact hannounced
    · rw [hsilent] at hannounces
      cases hannounces
  · rintro hfirst ⟨hserves, hbefore | hinit⟩
    · exact ⟨hserves, Or.inl (hsurvives hbefore)⟩
    · exact ⟨hserves, Or.inl (hfirst hinit)⟩

/-- A call that sets a policy has found the account on record and stores the policy. -/
theorem setUnlockPolicy_of_ok {ability : ScreenLockSystemAbility} {env : Environment}
    {caller : Caller} (hok : (ability.setUnlockPolicy env caller userId policy).1 = .ok) :
    ability.authStateInfo[userId]?.isSome = true ∧
      (ability.setUnlockPolicy env caller userId policy).2 =
        ability.storeUnlockPolicy env userId policy := by
  cases hpermission : caller.checkPermission accessScreenLock <;>
    cases hnative : caller.isNativeAccess <;> cases hutil : env.preferencesUtil <;>
      cases hknown : ability.authStateInfo[userId]? <;>
        simp [setUnlockPolicy, hpermission, hnative, hutil, hknown] at hok ⊢

/-- Only an account on record gets a policy, and the call keeps the record. -/
theorem known_of_setUnlockPolicy {ability : ScreenLockSystemAbility} {env : Environment}
    {caller : Caller} (hok : (ability.setUnlockPolicy env caller userId policy).1 = .ok) :
    (ability.step (.call env caller
      (.setUnlockPolicy userId policy))).authStateInfo[userId]?.isSome = true := by
  rw [authStateInfo_step]
  simpa [removes, activates, authStated] using (setUnlockPolicy_of_ok hok).1

end Histories

/-- A policy that was set and flushed survives all restarts exactly if after each
one the account is announced before `InitUserId` has run. -/
theorem policySurvives_throughout_iff (disk : Std.TreeMap String PreferencesValue)
    (past : List LifeEvent) {env : Environment} {caller : Caller} {userId : UserId} {policy : Int}
    {stored : ScreenLockSystemAbility}
    (hstored : stored = (lifetimes.run (started disk) past).step
      (.call env caller (.setUnlockPolicy userId policy)))
    (hok : ((lifetimes.run (started disk) past).setUnlockPolicy env caller userId policy).1 = .ok)
    (hflushed : HoldsPolicy userId policy stored) {events : List LifeEvent}
    (hkept : Undisturbed userId events) :
    (∀ before, before <+: events → PolicySurvives userId policy stored before) ↔
      ∀ before event, before ++ [event] <+: events →
        AnnouncedFirst userId stored before event := by
  have hknown : stored.authStateInfo[userId]?.isSome = true := by
    rw [hstored]
    exact known_of_setUnlockPolicy hok
  apply prefixes_iff
  · rw [policySurvives_iff hflushed hknown fun _ hmem => absurd hmem List.not_mem_nil]
    exact fun _ => Machine.not_since_nil
  · intro before event hpart hbefore
    exact policySurvives_concat hflushed hknown
      (fun earlier hmem => hkept earlier (hpart.subset hmem)) hbefore

section Restarted

/-- A native process that may use the lock-screen interface. -/
def settings : Caller := ⟨1, 0, .native, true, [accessScreenLock]⟩

/-- Account 100 has a policy. -/
def withPolicy : ScreenLockSystemAbility :=
  (lifetimes.run (started ∅) [.serve (.notify (.single 100) (.activeUser 100))]).step
    (.call (.single 100) settings (.setUnlockPolicy 100 3))

theorem withPolicy_accepted : ((lifetimes.run (started ∅)
    [.serve (.notify (.single 100) (.activeUser 100))]).setUnlockPolicy (.single 100) settings
      100 3).1 = .ok := by
  decide

theorem withPolicy_holds : HoldsPolicy 100 3 withPolicy := ⟨by decide, by decide⟩

theorem reannounced_policy_survives :
    PolicySurvives 100 3 withPolicy [.restart, .serve (.notify (.single 100) (.activeUser 100)),
      .serve (.notify (.single 100) .initUserId)] := by
  refine (policySurvives_throughout_iff ∅ [.serve (.notify (.single 100) (.activeUser 100))] rfl
    withPolicy_accepted withPolicy_holds ?_).mpr ?_ _ (List.prefix_refl _)
  · intro event hmem entry hentry
    simp only [List.mem_cons, List.not_mem_nil, or_false] at hmem
    rcases hmem with rfl | rfl | rfl <;> cases hentry <;> exact id
  · intro earlier event hpart hinit
    change _ <+: [LifeEvent.restart, .serve (.notify (.single 100) (.activeUser 100))] ++ [_]
      at hpart
    rcases List.prefix_concat_iff.mp hpart with heq | hrest
    · obtain ⟨rfl, _⟩ := List.append_inj' heq rfl
      exact (@announced_concat 100 withPolicy [.restart] _).mpr ⟨rfl, Or.inr (by decide)⟩
    · have hmem := hrest.subset (List.mem_append_right earlier List.mem_cons_self)
      simp only [List.mem_cons, List.not_mem_nil, or_false] at hmem
      rcases hmem with rfl | rfl <;> cases hinit

/-- After a restart `InitUserId` leaves the account off the record, and its policy
cannot be read. -/
theorem restarted_policy_unreachable :
    HoldsPolicy 100 3 withPolicy ∧
      ¬ ∀ before, before <+: [.restart, .serve (.notify (.single 100) .initUserId)] →
        PolicySurvives 100 3 withPolicy before := by
  refine ⟨withPolicy_holds, fun hall => ?_⟩
  have hreach := hall _ (List.prefix_refl _)
    ((@initialised_concat 100 withPolicy [.restart] _).mpr ⟨rfl, Or.inr (by decide)⟩)
  have hread := (hreach (.single 100) settings (.single 100) rfl).1 rfl
  revert hread
  decide

end Restarted

end Screenlock.ScreenLockSystemAbility
