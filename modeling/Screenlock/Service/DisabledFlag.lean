import Screenlock.Service.SettingKeys
import Screenlock.Service.Steps

/-! # Disabling the lock screen of an account

Accounts enrol PINs and are switched while callers set the disabled flag. The
platform answers truthfully and no call fails. The flag is meant never to be
true for an account with a PIN. The check made before it is set looks at the
caller's account, so the law holds exactly while that account tells the truth
about the account named in the call.
-/

namespace Screenlock

open Foundation

/-- The service among the accounts of the device. -/
structure AccountWorld where
  ability : ScreenLockSystemAbility
  /-- The first active account. -/
  active : UserId
  /-- The accounts with a PIN. -/
  enrolled : List UserId

/-- The answers are those of this world, and no call fails. -/
structure Truthful (world : AccountWorld) (env : Environment) : Prop where
  active : ∃ others, env.activeOsAccountIds = some (world.active :: others)
  credentials : ∀ userId, ((env.credentialInfoSync userId).1 = .success ∧
    0 < (env.credentialInfoSync userId).2.length) ↔ userId ∈ world.enrolled
  util : env.preferencesUtil = true
  works : ∀ access, env.preferences access = PreferencesAccess.works

namespace ScreenLockSystemAbility

/-- What `IsScreenLockDisabled` reads for the account. -/
def disabledFlag (ability : ScreenLockSystemAbility) (userId : UserId) : Bool :=
  ability.preferences.obtainBool .works (disabledKey userId) false

section Flag

variable (ability : ScreenLockSystemAbility) {env : Environment}
  (hutil : env.preferencesUtil = true)
  (hworks : ∀ access, env.preferences access = PreferencesAccess.works)

theorem disabledFlag_eq (userId : UserId) :
    ability.disabledFlag userId =
      ((ability.preferences.memory[disabledKey userId]?).bind PreferencesValue.bool?).getD false :=
  rfl

/-- The flag of every account after a value is saved under one account's key. -/
theorem disabledFlag_saved (disable : Bool) (userId other : UserId) :
    { ability with
      preferences := ((ability.preferences.saveBool .works (disabledKey userId) disable).2).refresh
        .works }.disabledFlag other =
      if userId = other then disable else ability.disabledFlag other := by
  rw [disabledFlag_eq, disabledFlag_eq, Preferences.refresh_memory, Preferences.saveBool,
    Preferences.save_memory]
  by_cases hsame : userId = other
  · subst hsame
    simp [PreferencesAccess.works, PreferencesValue.bool?]
  · have hkey : disabledKey userId ≠ disabledKey other := fun heq =>
      hsame (disabledKey_injective heq)
    simp [PreferencesAccess.works, Std.TreeMap.getElem?_insert, hsame, hkey]

include hutil hworks

theorem disabledFlag_freshDisabledState (disable : Bool) (userId other : UserId) :
    (ability.freshDisabledState env disable userId).2.disabledFlag other =
      if userId = other then disable else ability.disabledFlag other := by
  unfold freshDisabledState
  simp only [hutil, hworks, Bool.true_eq_false, if_false]
  split
  · exact ability.disabledFlag_saved disable userId other
  · next hkept =>
      split
      next heq =>
        subst heq
        exact (not_not.mp hkept).symm
      next => rfl

theorem disabledFlag_initDisabledState (userId other : UserId) :
    (ability.initDisabledState env userId).disabledFlag other = ability.disabledFlag other := by
  unfold initDisabledState
  simp only [hutil, hworks, Bool.true_eq_false, if_false]
  split
  · rfl
  · next hclear =>
      rw [disabledFlag_saved]
      split
      next heq =>
        subst heq
        exact (Bool.eq_false_of_not_eq_true hclear).symm
      next => rfl

theorem disabledFlag_onReceiveEvent (userId other : UserId) {credentialCount : String}
    (hcount : credentialCount ≠ "0") :
    (ability.onReceiveEvent env (toString userId) "1" credentialCount).disabledFlag other =
      if userId = other then false else ability.disabledFlag other := by
  unfold onReceiveEvent
  simp only [hutil, hworks, hcount, ne_eq, not_false_eq_true, and_self, if_true,
    Bool.true_eq_false, if_false]
  rw [disabledFlag_eq, disabledFlag_eq, Preferences.refresh_memory, Preferences.removeKey_memory]
  change ((((if _ then ability.preferences.memory.erase (disabledKey userId)
    else _)[disabledKey other]?).bind _).getD false) = _
  by_cases hsame : userId = other
  · subst hsame
    simp [PreferencesAccess.works]
  · have hkey : disabledKey userId ≠ disabledKey other := fun heq =>
      hsame (disabledKey_injective heq)
    simp [PreferencesAccess.works, Std.TreeMap.getElem?_erase, hsame, hkey]

theorem disabledFlag_setScreenLockDisabled (caller : Caller) (disable : Bool)
    (userId other : UserId) :
    (ability.step (.call env caller
      (.setScreenLockDisabled disable userId))).disabledFlag other =
      if accepts env caller ability (.setScreenLockDisabled disable userId) = true ∧
          userId = other then disable
      else ability.disabledFlag other := by
  change (ability.readied.handle env caller
    (.setScreenLockDisabled disable userId)).2.disabledFlag other = _
  rw [handle_eq]
  change (if accepts env caller ability (.setScreenLockDisabled disable userId) = true then _
    else _ : ScreenLockSystemAbility).disabledFlag other = _
  by_cases haccepts : accepts env caller ability (.setScreenLockDisabled disable userId) = true
  · rw [if_pos haccepts, perform, ability.readied.disabledFlag_freshDisabledState hutil hworks]
    simp only [haccepts, true_and]
    rfl
  · rw [if_neg haccepts, if_neg fun hboth => haccepts hboth.1]
    rfl

theorem disabledFlag_activeUser (targetUser other : UserId) :
    (ability.step (.notify env (.activeUser targetUser))).disabledFlag other =
      ability.disabledFlag other :=
  disabledFlag_initDisabledState _ hutil hworks targetUser other

theorem disabledFlag_credentialUpdated (userId other : UserId) {credentialCount : String}
    (hcount : credentialCount ≠ "0") :
    (ability.step (.notify env
      (.credentialUpdated (toString userId) "1" credentialCount))).disabledFlag other =
      if userId = other then false else ability.disabledFlag other :=
  ability.readied.disabledFlag_onReceiveEvent hutil hworks userId other hcount

/-- A PIN that is added clears the flag of its account at most. -/
theorem disabledFlag_addCred (userId other : UserId) (isSilentCredChange : Bool) :
    (ability.step (.notify env (.credChange idmUid userId .pin .addCred
      isSilentCredChange))).disabledFlag other =
      if env.currentActiveOsAccountId = userId ∧ userId = other then false
      else ability.disabledFlag other := by
  change (ability.readied.onNotifyCredChangeEvent env idmUid userId .pin .addCred
    isSilentCredChange).disabledFlag other = _
  unfold onNotifyCredChangeEvent
  rw [if_neg (not_not.mpr rfl)]
  by_cases hactive : env.currentActiveOsAccountId = userId
  · have hfresh := ability.readied.disabledFlag_freshDisabledState hutil hworks false userId other
    simp only [hactive, true_and, and_self, if_true]
    exact hfresh
  · simp only [hactive, false_and, if_false]
    rfl

end Flag

end ScreenLockSystemAbility

/-- The steps of the accounts and of the callers that set the flag. Enrolling a
PIN delivers two notifications, in either order. -/
inductive AccountEvent where
  | setScreenLockDisabled (env : Environment) (caller : Caller) (disable : Bool)
      (userId : UserId)
  | switchAccount (active : UserId)
  | activeUser (env : Environment) (targetUser : UserId)
  | enrolPin (env : Environment) (userId : UserId) (isSilentCredChange : Bool)
      (credentialCount : String) (credChangeFirst : Bool)

namespace AccountWorld

def step (world : AccountWorld) : AccountEvent → AccountWorld
  | .setScreenLockDisabled env caller disable userId =>
      { world with
        ability := world.ability.step
          (.call env caller (.setScreenLockDisabled disable userId)) }
  | .switchAccount active => { world with active := active }
  | .activeUser env targetUser =>
      { world with ability := world.ability.step (.notify env (.activeUser targetUser)) }
  | .enrolPin env userId isSilentCredChange credentialCount credChangeFirst =>
      let credChange := ServiceEvent.notify env
        (.credChange ScreenLockSystemAbility.idmUid userId .pin .addCred isSilentCredChange)
      let updated := ServiceEvent.notify env
        (.credentialUpdated (toString userId) "1" credentialCount)
      { world with
        enrolled := userId :: world.enrolled
        ability :=
          if credChangeFirst then (world.ability.step credChange).step updated
          else (world.ability.step updated).step credChange }

def machine : Machine AccountWorld AccountEvent where
  enabled world event := match event with
    | .setScreenLockDisabled env _ _ _ => Truthful world env
    | .switchAccount _ => True
    | .activeUser env _ => Truthful world env
    | .enrolPin env userId _ credentialCount _ =>
        Truthful { world with enrolled := userId :: world.enrolled } env ∧ credentialCount ≠ "0"
  step := step

/-- No account with a PIN has its lock screen disabled. -/
def Protected (world : AccountWorld) : Prop :=
  ∀ userId, world.ability.disabledFlag userId = true → userId ∉ world.enrolled

/-- A permitted caller that disables the lock screen of the active account
belongs to an account with a PIN if the active account has one. -/
def CallerTells (world : AccountWorld) : AccountEvent → Prop
  | .setScreenLockDisabled env caller disable userId =>
      disable = true → userId = world.active → caller.checkPermission accessScreenLock = true →
        userId ∈ world.enrolled → env.userIdFromCallingUid caller ∈ world.enrolled
  | _ => True

section Runs

variable {world : AccountWorld} {env : Environment}

theorem truthful_active (htruth : Truthful world env) :
    env.currentActiveOsAccountId = world.active := by
  obtain ⟨others, hactive⟩ := htruth.active
  simp [Environment.currentActiveOsAccountId, hactive]

theorem truthful_getSecure (htruth : Truthful world env) (caller : Caller) :
    ScreenLockSystemAbility.getSecure env caller = true ↔
      env.userIdFromCallingUid caller ∈ world.enrolled := by
  rw [← htruth.credentials]
  simp [ScreenLockSystemAbility.getSecure]

theorem truthful_accepts (htruth : Truthful world env) (caller : Caller) (disable : Bool)
    (userId : UserId) :
    ScreenLockSystemAbility.accepts env caller world.ability
        (.setScreenLockDisabled disable userId) = true ↔
      userId = world.active ∧
        (disable = true → env.userIdFromCallingUid caller ∉ world.enrolled) ∧
        caller.checkPermission accessScreenLock = true := by
  have hsecure := truthful_getSecure htruth caller
  simp only [ScreenLockSystemAbility.accepts, truthful_active htruth, Bool.and_eq_true,
    decide_eq_true_eq, Bool.not_eq_true', Bool.and_eq_false_iff, ← hsecure, and_assoc]
  constructor
  · rintro ⟨rfl, hcheck, hpermission⟩
    refine ⟨rfl, fun hdisable => ?_, hpermission⟩
    rcases hcheck with hkeep | hopen
    · simp [hdisable] at hkeep
    · simp [hopen]
  · rintro ⟨rfl, hcheck, hpermission⟩
    refine ⟨rfl, ?_, hpermission⟩
    cases hdisable : disable with
    | false => exact Or.inl rfl
    | true => exact Or.inr (by simpa using hcheck hdisable)

theorem protected_setScreenLockDisabled (htruth : Truthful world env)
    (hprotected : world.Protected) (caller : Caller) (disable : Bool) (userId : UserId) :
    (world.step (.setScreenLockDisabled env caller disable userId)).Protected ↔
      world.CallerTells (.setScreenLockDisabled env caller disable userId) := by
  have hflag := world.ability.disabledFlag_setScreenLockDisabled htruth.util htruth.works caller
    disable userId
  have haccepts := truthful_accepts htruth caller disable userId
  constructor
  · intro hafter hdisable hactive hpermission henrolled
    by_contra hother
    refine hafter userId ?_ henrolled
    refine (hflag userId).trans ?_
    rw [if_pos ⟨haccepts.mpr ⟨hactive, fun _ => hother, hpermission⟩, rfl⟩, hdisable]
  · intro htells other hset henrolled
    have hnow := (hflag other).symm.trans hset
    split at hnow
    next hchanged =>
      obtain ⟨haccepted, rfl⟩ := hchanged
      obtain ⟨hactive, hcheck, hpermission⟩ := haccepts.mp haccepted
      exact hcheck hnow (htells hnow hactive hpermission henrolled)
    next => exact hprotected other hnow henrolled

/-- Both notifications of an enrolment are needed: the first acts for the
active account only, the second for the account it names. -/
theorem disabledFlag_enrolPin (world : AccountWorld) (hutil : env.preferencesUtil = true)
    (hworks : ∀ access, env.preferences access = PreferencesAccess.works) (userId other : UserId)
    (isSilentCredChange : Bool) {credentialCount : String} (hcount : credentialCount ≠ "0")
    (credChangeFirst : Bool) :
    (world.step (.enrolPin env userId isSilentCredChange credentialCount
        credChangeFirst)).ability.disabledFlag other =
      if userId = other then false else world.ability.disabledFlag other := by
  have hupdated := fun ability : ScreenLockSystemAbility =>
    ability.disabledFlag_credentialUpdated hutil hworks userId other hcount
  have hadded := fun ability : ScreenLockSystemAbility =>
    ability.disabledFlag_addCred hutil hworks userId other isSilentCredChange
  cases credChangeFirst with
  | true =>
      simp only [step, if_true, hupdated, hadded]
      by_cases hsame : userId = other <;> simp [hsame]
  | false =>
      simp only [step, Bool.false_eq_true, if_false, hupdated, hadded]
      by_cases hsame : userId = other <;> simp [hsame]

theorem protected_step (event : AccountEvent) (henabled : machine.enabled world event)
    (hprotected : world.Protected) : (world.step event).Protected ↔ world.CallerTells event := by
  cases event with
  | setScreenLockDisabled env caller disable userId =>
      exact protected_setScreenLockDisabled henabled hprotected caller disable userId
  | switchAccount active => exact iff_of_true hprotected trivial
  | activeUser env targetUser =>
      refine iff_of_true (fun other hset => ?_) trivial
      have hsame := world.ability.disabledFlag_activeUser henabled.util henabled.works targetUser
        other
      exact hprotected other (hsame.symm.trans hset)
  | enrolPin env userId isSilentCredChange credentialCount credChangeFirst =>
      refine iff_of_true (fun other hset henrolled => ?_) trivial
      have hflag := disabledFlag_enrolPin world henabled.1.util henabled.1.works userId
        other isSilentCredChange henabled.2 credChangeFirst
      have hnow := hflag.symm.trans hset
      split at hnow
      next => cases hnow
      next hne =>
        cases List.mem_cons.mp henrolled with
        | inl heq => exact hne heq.symm
        | inr hbefore => exact hprotected other hnow hbefore

/-- From a world without a disabled lock screen over a PIN, a run stays free of
one exactly if every caller that disables the active account's lock screen
tells by its own account that there is a PIN. -/
theorem protected_throughout_iff {events : List AccountEvent}
    (hadmits : machine.Admits world events) (hprotected : world.Protected) :
    machine.Throughout Protected world events ↔ machine.Steps CallerTells world events :=
  machine.throughout_iff_steps (fun _ => True) (fun _ _ _ _ => trivial)
    (fun _ event henabled _ hheld => protected_step event henabled hheld) hadmits trivial hprotected

end Runs

section Background

/-- Account 100 is active and has a PIN; other accounts have none. -/
def pinned : Environment :=
  { Environment.single 100 with
    credentialInfoSync := fun userId =>
      if userId = 100 then (.success, [⟨1⟩]) else (.notEnrolled, []) }

/-- An application of account 101. -/
def background : Caller := ⟨7, 20200007, .hap, false, [accessScreenLock]⟩

/-- An application of account 100. -/
def own : Caller := ⟨8, 20000008, .hap, false, [accessScreenLock]⟩

/-- A first start without accounts that have a PIN. -/
def fresh : AccountWorld := ⟨.started ∅, 100, []⟩

theorem fresh_protected : fresh.Protected :=
  fun _ _ => List.not_mem_nil

theorem pinned_truthful {world : AccountWorld} (hactive : world.active = 100)
    (henrolled : world.enrolled = [100]) : Truthful world pinned where
  active := ⟨[], by rw [hactive]; rfl⟩
  credentials := by
    intro userId
    by_cases huser : userId = 100 <;> simp [pinned, henrolled, huser]
  util := rfl
  works _ := rfl

theorem fresh_admits (caller : Caller) :
    machine.Admits fresh
      [.enrolPin pinned 100 false "1" true, .setScreenLockDisabled pinned caller true 100] :=
  ⟨⟨pinned_truthful rfl rfl, by decide⟩, pinned_truthful rfl rfl, trivial⟩

theorem own_caller_refused :
    machine.Throughout Protected fresh
      [.enrolPin pinned 100 false "1" true, .setScreenLockDisabled pinned own true 100] :=
  (protected_throughout_iff (fresh_admits own) fresh_protected).mpr
    ⟨trivial, fun _ _ _ _ => List.mem_singleton.mpr (by decide), trivial⟩

/-- A caller of an account without a PIN disables the lock screen of the active
account, which has one. -/
theorem background_caller_disables :
    machine.Admits fresh
        [.enrolPin pinned 100 false "1" true, .setScreenLockDisabled pinned background true 100] ∧
      ¬ machine.Throughout Protected fresh
        [.enrolPin pinned 100 false "1" true,
          .setScreenLockDisabled pinned background true 100] := by
  refine ⟨fresh_admits background, fun hall => ?_⟩
  refine hall _ (List.prefix_refl _) 100 ?_ List.mem_cons_self
  refine (ScreenLockSystemAbility.disabledFlag_setScreenLockDisabled _ rfl (fun _ => rfl) _ _ _
    _).trans ?_
  exact if_pos ⟨by decide, rfl⟩

end Background

end AccountWorld

end Screenlock
