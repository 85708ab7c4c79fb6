import Screenlock.Service.StoreSteps
import Screenlock.Service.StrongAuth

/-! # Requests that leave the service as it is

An accepted request can still change nothing: its values are on record already
and nobody hears of them. Whether the state is untouched is told here from the
state before the request.
-/

namespace Screenlock

/-- The effect gets to someone. A state change goes to its receivers only. -/
def Effect.Reaches : Effect → Prop
  | .stateChanged _ _ _ receivers => receivers ≠ []
  | .systemEvent _ _ | .commonEvent _ _ => True

/-- The images hold the same values. -/
structure Preferences.Same (before after : Preferences) : Prop where
  memory : ∀ key : String, after.memory[key]? = before.memory[key]?
  disk : ∀ key : String, after.disk[key]? = before.disk[key]?

namespace StoreAction

/-- The value to be written is in memory already, and where a flush follows the
disk holds what memory does. -/
structure Idle (store : Preferences) (action : StoreAction) : Prop where
  written : ∀ (key : String) (value : Option PreferencesValue),
    action.write = some (key, value) → store.memory[key]? = value
  flushed : action.flushes = true → ∀ key : String, store.disk[key]? = store.memory[key]?

variable {store : Preferences} {action : StoreAction}

theorem memory_same_iff :
    (∀ key : String, (action.apply store).memory[key]? = store.memory[key]?) ↔
      ∀ (key : String) (value : Option PreferencesValue),
        action.write = some (key, value) → store.memory[key]? = value := by
  simp only [apply_memory]
  cases action.write with
  | none => simp
  | some write =>
      obtain ⟨written, value⟩ := write
      constructor
      · intro hsame key other hwrite
        cases hwrite
        exact ((hsame written).symm.trans (if_pos rfl))
      · intro hheld key
        dsimp only
        split
        · next heq => exact heq ▸ (hheld written value rfl).symm
        · rfl

/-- A write changes no image exactly if it is idle. -/
theorem apply_same_iff : store.Same (action.apply store) ↔ action.Idle store := by
  have hdisk (key : String) : (action.apply store).disk[key]? =
      if action.flushes = true then (action.apply store).memory[key]? else store.disk[key]? := by
    rw [apply_disk]
    split <;> rfl
  constructor
  · intro hsame
    refine ⟨memory_same_iff.mp hsame.memory, fun hflushes key => ?_⟩
    rw [← hsame.disk key, hdisk, if_pos hflushes, hsame.memory key]
  · intro hidle
    have hmemory := memory_same_iff.mpr hidle.written
    refine ⟨hmemory, fun key => ?_⟩
    rw [hdisk]
    split
    · next hflushes => rw [hmemory key, hidle.flushed hflushes key]
    · rfl

end StoreAction

theorem insert_same_iff {flags : Std.TreeMap UserId Int} {userId : UserId} {reasonFlag : Int} :
    (∀ other : UserId, (flags.insert userId reasonFlag)[other]? = flags[other]?) ↔
      flags[userId]? = some reasonFlag := by
  simp only [Std.TreeMap.getElem?_insert, Std.compare_eq_iff_eq]
  constructor
  · intro hsame
    exact (hsame userId).symm.trans (if_pos rfl)
  · intro hheld other
    split
    · next heq => exact heq ▸ hheld.symm
    · rfl

namespace StrongAuthManger

variable (manager : StrongAuthManger) (env : Environment) (userId : UserId) (reasonFlag : Int)

theorem setStrongAuthStat_eq :
    manager.setStrongAuthStat env userId reasonFlag =
      if manager.strongAuthStateInfo[userId]? = some StrongAuthReasonFlags.afterBoot ∧
          reasonFlag ≠ StrongAuthReasonFlags.none then manager
      else (manager.storeFlag userId reasonFlag).notifyStrongAuthChange env userId reasonFlag := by
  unfold setStrongAuthStat
  cases manager.strongAuthStateInfo[userId]? with
  | none => simp
  | some oldFlag => simp only [Option.some.injEq]

theorem notifyStrongAuthChange_eq :
    manager.notifyStrongAuthChange env userId reasonFlag =
      { manager with
        changes := manager.changes ++
          if reasonFlag = StrongAuthReasonFlags.none ∧
            env.isOsAccountUnlocked userId = false then []
          else [(userId, reasonFlag)] } := by
  unfold notifyStrongAuthChange
  by_cases hnone : reasonFlag = StrongAuthReasonFlags.none
  · cases hunlocked : env.isOsAccountUnlocked userId <;> simp [hnone]
  · simp [hnone]

end StrongAuthManger

namespace ScreenLockSystemAbility

open Foundation

/-- No part of the state has changed, and nobody has been sent anything. The
settings and the flags are compared by what a lookup finds. -/
structure Untouched (before after : ScreenLockSystemAbility) : Prop where
  settings : before.preferences.Same after.preferences
  flags : ∀ userId : UserId, after.strongAuth.strongAuthStateInfo[userId]? =
    before.strongAuth.strongAuthStateInfo[userId]?
  rest : after =
    { before with
      preferences := after.preferences
      strongAuth :=
        { before.strongAuth with strongAuthStateInfo := after.strongAuth.strongAuthStateInfo }
      sent := after.sent }
  silent : ∀ effect ∈ after.sent, ¬ effect.Reaches

variable (ability : ScreenLockSystemAbility)

/-- The state between two entries: what was sent and announced has gone out. -/
def settled : ScreenLockSystemAbility :=
  { ability.readied with strongAuth := { ability.strongAuth with changes := [] } }

theorem untouched_iff (store : Preferences) (flags : Std.TreeMap UserId Int)
    (effects : List Effect) :
    ability.settled.Untouched
        { ability.settled with
          preferences := store
          strongAuth := { ability.settled.strongAuth with strongAuthStateInfo := flags }
          sent := effects } ↔
      ability.preferences.Same store ∧
        (∀ userId : UserId, flags[userId]? = ability.strongAuth.strongAuthStateInfo[userId]?) ∧
          ∀ effect ∈ effects, ¬ effect.Reaches :=
  ⟨fun huntouched => ⟨huntouched.settings, huntouched.flags, huntouched.silent⟩,
    fun ⟨hsettings, hflags, hsilent⟩ => ⟨hsettings, hflags, rfl, hsilent⟩⟩

theorem settled_untouched : ability.settled.Untouched ability.settled :=
  ⟨⟨fun _ => rfl, fun _ => rfl⟩, fun _ => rfl, rfl, by simp [settled, readied]⟩

section Reaching

theorem systemEventCallBack_silent_iff (event : SystemEvent) :
    (∀ effect ∈ ability.systemEventCallBack event, ¬ effect.Reaches) ↔
      ability.systemEventListener = none := by
  unfold systemEventCallBack
  cases ability.systemEventListener <;> simp [Effect.Reaches]

theorem strongAuthChanged_silent_iff (userId : UserId) (reasonFlag : Int) :
    (∀ effect ∈ ability.strongAuthChanged userId reasonFlag, ¬ effect.Reaches) ↔
      (ability.currentUser = userId → ability.systemEventListener = none) := by
  unfold strongAuthChanged
  by_cases hcurrent : ability.currentUser = userId
  · rw [if_neg (not_not.mpr hcurrent), systemEventCallBack_silent_iff]
    simp [hcurrent]
  · simp [hcurrent]

theorem onStateChanged_silent_iff (userId : UserId) (state : Int) (listenType : ListenType) :
    (∀ effect ∈ ability.onStateChanged userId state listenType, ¬ effect.Reaches) ↔
      ability.innerListeners.onStateChanged userId listenType = [] := by
  simp [onStateChanged, Effect.Reaches]

end Reaching

section Requests

variable (env : Environment) (caller : Caller)

theorem handle_untouched_iff {request : Request} {harmless : Prop}
    (hperform : ability.settled.Untouched (ability.settled.perform env caller request) ↔
      harmless) :
    ability.settled.Untouched (ability.settled.handle env caller request).2 ↔
      accepts env caller ability request = false ∨ harmless := by
  have haccepts : accepts env caller ability.settled request =
      accepts env caller ability request := by
    cases request <;> rfl
  rw [handle_eq, haccepts]
  cases accepts env caller ability request with
  | false => simp [settled_untouched]
  | true => simp [hperform]

theorem lockUser_untouched_iff (userId : UserId) :
    ability.settled.Untouched (ability.settled.handle env caller (.lockUser userId)).2 ↔
      accepts env caller ability (.lockUser userId) = false ∨
        ability.systemEventListener = none := by
  refine ability.handle_untouched_iff env caller ?_
  refine (ability.untouched_iff ability.preferences ability.strongAuth.strongAuthStateInfo
    (ability.systemEventCallBack { eventType := SystemEvent.lockscreen })).trans ?_
  rw [systemEventCallBack_silent_iff]
  exact ⟨fun hall => hall.2.2, fun hnone => ⟨⟨fun _ => rfl, fun _ => rfl⟩, fun _ => rfl, hnone⟩⟩

theorem setScreenLockDisabled_untouched_iff (disable : Bool) (userId : UserId) :
    ability.settled.Untouched
        (ability.settled.handle env caller (.setScreenLockDisabled disable userId)).2 ↔
      accepts env caller ability (.setScreenLockDisabled disable userId) = false ∨
        (ability.freshAction env disable userId).Idle ability.preferences := by
  refine ability.handle_untouched_iff env caller ?_
  obtain ⟨store, heq⟩ := ability.settled.freshDisabledState_touches env disable userId
  have hstore : store = (ability.freshAction env disable userId).apply ability.preferences := by
    have hpreferences := ability.settled.freshDisabledState_preferences env disable userId
    rw [heq] at hpreferences
    exact hpreferences
  rw [perform, heq]
  refine (ability.untouched_iff store ability.strongAuth.strongAuthStateInfo []).trans ?_
  rw [hstore, StoreAction.apply_same_iff]
  simp

theorem setUnlockPolicy_untouched_iff (userId : UserId) (policy : Int) :
    ability.settled.Untouched
        (ability.settled.handle env caller (.setUnlockPolicy userId policy)).2 ↔
      accepts env caller ability (.setUnlockPolicy userId policy) = false ∨
        ability.preferences.obtainInt (env.preferences 0) (unlockPolicyKey userId) 0 = policy ∨
        (ability.policyAction env userId policy).Idle ability.preferences ∧
          ability.systemEventListener = none := by
  refine ability.handle_untouched_iff env caller ?_
  rw [perform, storeUnlockPolicy, policyAction]
  by_cases hsame :
      ability.preferences.obtainInt (env.preferences 0) (unlockPolicyKey userId) 0 = policy
  · have hsettled : ability.settled.preferences.obtainInt (env.preferences 0)
        (unlockPolicyKey userId) 0 = policy := hsame
    rw [if_pos hsettled]
    exact iff_of_true ability.settled_untouched (Or.inl hsame)
  · have hsettled : ¬ ability.settled.preferences.obtainInt (env.preferences 0)
        (unlockPolicyKey userId) 0 = policy := hsame
    rw [if_neg hsettled, if_neg hsame]
    refine (ability.untouched_iff ((StoreAction.save (env.preferences 1) (env.preferences 2)
      (unlockPolicyKey userId) (.int policy)).apply ability.preferences)
      ability.strongAuth.strongAuthStateInfo (ability.unlockPolicyChanged userId policy)).trans ?_
    rw [StoreAction.apply_same_iff, unlockPolicyChanged, systemEventCallBack_silent_iff]
    simp [hsame]

/-- A change of the flag of the account to this one would reach nobody. -/
def Unheard (env : Environment) (userId : UserId) (reasonFlag : Int) : Prop :=
  (reasonFlag = StrongAuthReasonFlags.none ∧ env.isOsAccountUnlocked userId = false) ∨
    (ability.innerListeners.onStateChanged userId ListenType.strongAuth = [] ∧
      (ability.currentUser = userId → ability.systemEventListener = none))

/-- The flag of the account gives way to no other, or it is this one already
and nobody is told of it again. -/
def HoldsFlag (env : Environment) (userId : UserId) (reasonFlag : Int) : Prop :=
  (ability.strongAuth.strongAuthStateInfo[userId]? = some StrongAuthReasonFlags.afterBoot ∧
      reasonFlag ≠ StrongAuthReasonFlags.none) ∨
    (ability.strongAuth.strongAuthStateInfo[userId]? = some reasonFlag ∧
      ability.Unheard env userId reasonFlag)

/-- What the change of a flag sends. -/
def announced (env : Environment) (userId : UserId) (reasonFlag : Int) : List Effect :=
  if reasonFlag = StrongAuthReasonFlags.none ∧ env.isOsAccountUnlocked userId = false then []
  else ability.strongAuthChanged userId reasonFlag ++
    ability.onStateChanged userId reasonFlag ListenType.strongAuth

theorem announced_silent_iff (userId : UserId) (reasonFlag : Int) :
    (∀ effect ∈ ability.announced env userId reasonFlag, ¬ effect.Reaches) ↔
      ability.Unheard env userId reasonFlag := by
  unfold announced Unheard
  split
  · next hquiet => simp [hquiet]
  · next hloud =>
      rw [List.forall_mem_append, strongAuthChanged_silent_iff, onStateChanged_silent_iff]
      simp only [hloud, false_or]
      exact and_comm

theorem enterStrongAuth_settled (userId : UserId) (reasonFlag : Int) :
    ability.settled.enterStrongAuth env (.setStrongAuthStat userId reasonFlag) =
      if ability.strongAuth.strongAuthStateInfo[userId]? = some StrongAuthReasonFlags.afterBoot ∧
          reasonFlag ≠ StrongAuthReasonFlags.none then ability.settled
      else
        { ability.settled with
          preferences := ability.preferences
          strongAuth :=
            { ability.settled.strongAuth with
              strongAuthStateInfo :=
                ability.strongAuth.strongAuthStateInfo.insert userId reasonFlag }
          sent := ability.announced env userId reasonFlag } := by
  have hafter : ability.settled.strongAuth.enter env (.setStrongAuthStat userId reasonFlag) =
      if ability.strongAuth.strongAuthStateInfo[userId]? = some StrongAuthReasonFlags.afterBoot ∧
          reasonFlag ≠ StrongAuthReasonFlags.none then ability.settled.strongAuth
      else
        { ability.settled.strongAuth with
          strongAuthStateInfo := ability.strongAuth.strongAuthStateInfo.insert userId reasonFlag
          changes :=
            if reasonFlag = StrongAuthReasonFlags.none ∧
              env.isOsAccountUnlocked userId = false then []
            else [(userId, reasonFlag)] } := by
    rw [StrongAuthManger.enter, StrongAuthManger.setStrongAuthStat_eq,
      StrongAuthManger.notifyStrongAuthChange_eq]
    rfl
  unfold enterStrongAuth
  rw [hafter]
  split
  · rfl
  · unfold announced
    split
    · rfl
    · simp [settled, readied, send, strongAuthChanged, systemEventCallBack, onStateChanged]

theorem requestStrongAuth_untouched_iff (reasonFlag : Int) (userId : UserId) :
    ability.settled.Untouched
        (ability.settled.handle env caller (.requestStrongAuth reasonFlag userId)).2 ↔
      accepts env caller ability (.requestStrongAuth reasonFlag userId) = false ∨
        ability.HoldsFlag env userId reasonFlag := by
  refine ability.handle_untouched_iff env caller ?_
  rw [perform, enterStrongAuth_settled]
  by_cases hkept : ability.strongAuth.strongAuthStateInfo[userId]? =
      some StrongAuthReasonFlags.afterBoot ∧ reasonFlag ≠ StrongAuthReasonFlags.none
  · rw [if_pos hkept]
    exact iff_of_true ability.settled_untouched (Or.inl hkept)
  · rw [if_neg hkept, untouched_iff, insert_same_iff, announced_silent_iff, HoldsFlag]
    simp only [hkept, false_or]
    exact and_iff_right ⟨fun _ => rfl, fun _ => rfl⟩

end Requests

end ScreenLockSystemAbility

end Screenlock
