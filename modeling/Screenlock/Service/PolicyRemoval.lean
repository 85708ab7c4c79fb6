import Screenlock.Service.Lifetimes
import Screenlock.Service.SettingKeys

/-! # Removing an unlock policy for good

A removal deletes the policy from the memory image and leaves the disk image to
a later flush. The policy stays removed over restarts exactly while no restart
overtakes that flush.
-/

namespace Screenlock.ScreenLockSystemAbility

open Foundation

/-- The number a stored value holds, 0 by default. -/
def policyValue (value : Option PreferencesValue) : Int :=
  (value.bind PreferencesValue.int?).getD 0

/-- What `ObtainInt` yields for the policy of the account. -/
def policyOf (ability : ScreenLockSystemAbility) (userId : UserId) : Int :=
  ability.preferences.obtainInt .works (unlockPolicyKey userId) 0

/-- What it would yield after a restart. -/
def diskPolicyOf (ability : ScreenLockSystemAbility) (userId : UserId) : Int :=
  policyValue ability.preferences.disk[unlockPolicyKey userId]?

theorem policyOf_eq (ability : ScreenLockSystemAbility) (userId : UserId) :
    ability.policyOf userId =
      policyValue ability.preferences.memory[unlockPolicyKey userId]? := rfl

/-- `SetUnlockPolicy` for the account. -/
def setsPolicy (userId : UserId) : ServiceEvent → Bool
  | .call _ _ (.setUnlockPolicy user _) => user = userId
  | _ => false

/-- `OnRemoveUser` for the account, run to its end. -/
def removesUser (userId : UserId) : LifeEvent → Bool
  | .serve (.notify _ (.removeUser user)) => user = userId
  | _ => false

/-- A `SetUnlockPolicy` for the account stores a new value. -/
def storesPolicy (userId : UserId) (ability : ScreenLockSystemAbility) (event : LifeEvent) :
    Bool :=
  event.entry.any (setsPolicy userId) && (ability.lifeWrite event).isSome

/-- The entry can change what is kept under the policy's key. -/
def WritesPolicy (userId : UserId) : ServiceEvent → Prop
  | .call _ _ (.setUnlockPolicy user _) | .notify _ (.removeUser user) => user = userId
  | .notify _ (.credentialUpdated text _ _) => text = unlockPolicyKey userId
  | _ => False

/-- `Delete` is reached and does not fail. -/
def deletes (env : Environment) : Bool :=
  env.preferencesUtil && (env.preferences 0).handle && (env.preferences 0).writes

section Writes

variable {userId : UserId} {ability : ScreenLockSystemAbility}

theorem writesPolicy_of_key {event : ServiceEvent}
    (hkey : (ability.storeAction event).key = some (unlockPolicyKey userId)) :
    WritesPolicy userId event := by
  have hdisabled : ∀ user, disabledKey user ≠ unlockPolicyKey userId :=
    fun user => (unlockPolicyKey_ne_disabledKey userId user).symm
  generalize hpolicy : unlockPolicyKey userId = written at hkey hdisabled
  cases writes_of_key hkey with
  | setUnlockPolicy env caller user policy => exact (unlockPolicyKey_injective hpolicy).symm
  | removeUser env user => exact (unlockPolicyKey_injective hpolicy).symm
  | credentialUpdated env text authType credentialCount => exact hpolicy.symm
  | _ => exact absurd rfl (hdisabled _)

theorem write_removeUser (env : Environment) :
    (ability.storeAction (.notify env (.removeUser userId))).write =
      if deletes env then some (unlockPolicyKey userId, none) else none := by
  simp only [storeAction, noticeAction]
  by_cases hutil : env.preferencesUtil = false
  · have hlost : deletes env = false := by simp [deletes, hutil]
    rw [if_pos hutil, hlost]
    rfl
  · have hreached : deletes env = ((env.preferences 0).handle && (env.preferences 0).writes) := by
      simp [deletes, hutil]
    rw [if_neg hutil, hreached]
    rfl

/-- Only `SetUnlockPolicy` puts a value under the policy's key. -/
theorem setsPolicy_of_write {event : ServiceEvent} {value : PreferencesValue}
    (hwrite : (ability.storeAction event).write = some (unlockPolicyKey userId, some value)) :
    setsPolicy userId event = true := by
  have hwrites := writesPolicy_of_key (StoreAction.key_of_write hwrite)
  cases event with
  | call env caller request =>
      cases request with
      | setUnlockPolicy user policy => exact decide_eq_true hwrites
      | _ => cases hwrites
  | notify env notification =>
      cases notification with
      | removeUser user =>
          obtain rfl : user = userId := hwrites
          rw [write_removeUser] at hwrite
          split at hwrite
          · cases (Prod.mk.inj (Option.some.inj hwrite)).2
          · cases hwrite
      | credentialUpdated text authType credentialCount =>
          simp only [storeAction, noticeAction] at hwrite
          split at hwrite
          · simp only [StoreAction.write] at hwrite
            split at hwrite <;> cases hwrite
          · cases hwrite
      | _ => cases hwrites
  | _ => cases hwrites

/-- The write an event leaves behind is one of its entry, and the entry reaches a
flush if it puts a value. -/
theorem write_of_lifeWrite {event : LifeEvent} {key : String} {update : Option PreferencesValue}
    (hwrite : ability.lifeWrite event = some (key, update)) :
    ∃ entry, event.entry = some entry ∧ (ability.storeAction entry).write = some (key, update) ∧
      (update.isSome → ability.lifeFlushes event = true) := by
  cases event with
  | serve event =>
      refine ⟨event, rfl, hwrite, fun hput => ?_⟩
      obtain ⟨value, rfl⟩ := Option.isSome_iff_exists.mp hput
      exact StoreAction.flushes_of_put hwrite
  | dieIn event reached =>
      simp only [lifeWrite] at hwrite
      split at hwrite
      next hflushes => exact ⟨event, rfl, hwrite, fun _ => hflushes⟩
      next => cases hwrite
  | restart => cases hwrite

/-- Without a new value the policy stays what it was or becomes 0. -/
theorem policyValue_written {event : LifeEvent} (hkept : storesPolicy userId ability event = false)
    {value : Option PreferencesValue} (hzero : policyValue value = 0) :
    policyValue (written (ability.lifeWrite event) (unlockPolicyKey userId) value) = 0 := by
  cases hwrite : ability.lifeWrite event with
  | none => exact hzero
  | some change =>
      obtain ⟨target, update⟩ := change
      by_cases htarget : target = unlockPolicyKey userId
      · subst htarget
        rw [written, if_pos rfl]
        cases update with
        | none => rfl
        | some value =>
            obtain ⟨entry, hentry, hput, _⟩ := write_of_lifeWrite hwrite
            have hsets := setsPolicy_of_write hput
            simp [storesPolicy, hentry, hsets, hwrite] at hkept
      · rw [written, if_neg htarget]
        exact hzero

theorem write_of_setsPolicy {event : ServiceEvent} (hsets : setsPolicy userId event = true)
    {key : String} {update : Option PreferencesValue}
    (hwrite : (ability.storeAction event).write = some (key, update)) :
    key = unlockPolicyKey userId ∧ update.isSome := by
  cases event with
  | call env caller request =>
      cases request with
      | setUnlockPolicy user policy =>
          obtain rfl : user = userId := of_decide_eq_true hsets
          simp only [storeAction, performAction, policyAction] at hwrite
          split at hwrite
          · split at hwrite
            · cases hwrite
            · simp only [StoreAction.write] at hwrite
              split at hwrite
              · cases hwrite
                exact ⟨rfl, rfl⟩
              · cases hwrite
          · cases hwrite
      | _ => cases hsets
  | _ => cases hsets

/-- A removal leaves a policy behind only if the deletion does not get through. -/
theorem policyValue_removeUser (env : Environment) :
    policyValue (written (ability.lifeWrite (.serve (.notify env (.removeUser userId))))
      (unlockPolicyKey userId) ability.preferences.memory[unlockPolicyKey userId]?) = 0 ↔
      deletes env = true ∨ ability.policyOf userId = 0 := by
  rw [lifeWrite, write_removeUser, policyOf_eq]
  cases deletes env with
  | true => simp [written, policyValue]
  | false => simp [written]

/-- A new value is flushed by the call that stores it. -/
theorem lifeFlushes_of_storesPolicy {event : LifeEvent}
    (hstores : storesPolicy userId ability event = true) :
    ability.lifeFlushes event = true := by
  rw [storesPolicy, Bool.and_eq_true, Option.isSome_iff_exists] at hstores
  obtain ⟨hsets, ⟨key, update⟩, hwrite⟩ := hstores
  obtain ⟨entry, hentry, hput, hflushes⟩ := write_of_lifeWrite hwrite
  rw [hentry, Option.any_some] at hsets
  exact hflushes (write_of_setsPolicy hsets hput).2

end Writes

section Histories

variable (userId : UserId) (disk : Std.TreeMap String PreferencesValue) (past : List LifeEvent)

/-- The account was removed, and no new policy has been stored for it since. -/
def RemovedSince : Prop :=
  lifetimes.Since (fun _ event => removesUser userId event = true)
    (fun ability event => storesPolicy userId ability event = true) (started disk) past

/-- A removal found a policy on disk, and the store has not been flushed since. -/
def Unflushed : Prop :=
  lifetimes.Since
    (fun ability event => removesUser userId event = true ∧ ability.diskPolicyOf userId ≠ 0)
    (fun ability event => ability.lifeFlushes event = true) (started disk) past

/-- A removed policy reads 0. -/
def RemovalLasts : Prop :=
  RemovedSince userId disk past → (lifetimes.run (started disk) past).policyOf userId = 0

/-- A removal of a policy gets its deletion through, and a restart finds no
removal that has not been flushed, or flushes before it dies. -/
def RemovalFlushed : LifeEvent → Prop
  | .serve (.notify env (.removeUser user)) =>
      user = userId → deletes env = true ∨
        (lifetimes.run (started disk) past).policyOf userId = 0
  | .serve _ => True
  | .dieIn event reached =>
      ((lifetimes.run (started disk) past).storeAction event).flushesWithin reached = true ∨
        ¬ Unflushed userId disk past
  | .restart => ¬ Unflushed userId disk past

/-- What an unflushed removal says about the disk, and the disk about it. -/
structure DiskKnown : Prop where
  unflushed : Unflushed userId disk past → RemovedSince userId disk past ∧
    (lifetimes.run (started disk) past).diskPolicyOf userId ≠ 0
  flushed : RemovedSince userId disk past →
    (lifetimes.run (started disk) past).diskPolicyOf userId ≠ 0 → Unflushed userId disk past

variable {userId disk past}

theorem removedSince_concat (event : LifeEvent) :
    RemovedSince userId disk (past ++ [event]) ↔ removesUser userId event = true ∨
      (RemovedSince userId disk past ∧
        storesPolicy userId (lifetimes.run (started disk) past) event = false) := by
  rw [RemovedSince, Machine.since_concat, Bool.not_eq_true]
  rfl

theorem unflushed_concat (event : LifeEvent) :
    Unflushed userId disk (past ++ [event]) ↔
      (removesUser userId event = true ∧
        (lifetimes.run (started disk) past).diskPolicyOf userId ≠ 0) ∨
      (Unflushed userId disk past ∧
        (lifetimes.run (started disk) past).lifeFlushes event = false) := by
  rw [Unflushed, Machine.since_concat, Bool.not_eq_true]
  rfl

/-- A removal writes nothing to disk. -/
theorem lifeFlushes_of_removesUser {event : LifeEvent} (ability : ScreenLockSystemAbility)
    (hremoves : removesUser userId event = true) : ability.lifeFlushes event = false := by
  cases event with
  | serve event =>
      cases event with
      | notify env notification =>
          cases notification with
          | removeUser user =>
              simp only [lifeFlushes, storeAction, noticeAction]
              split
              · rfl
              · simp only [StoreAction.flushes, StoreAction.ops]
                split <;> rfl
          | _ => cases hremoves
      | _ => cases hremoves
  | _ => cases hremoves

theorem diskPolicyOf_live {event : LifeEvent} {ability : ScreenLockSystemAbility}
    (hkept : ability.lifeFlushes event = false) :
    (ability.live event).diskPolicyOf userId = ability.diskPolicyOf userId := by
  rw [diskPolicyOf, live_disk, if_neg (by simp [hkept])]
  rfl

theorem diskKnown_nil : DiskKnown userId disk [] :=
  ⟨fun hsince => absurd hsince Machine.not_since_nil,
    fun hsince => absurd hsince Machine.not_since_nil⟩

theorem diskKnown_concat {event : LifeEvent} (hknown : DiskKnown userId disk past)
    (hlasts : RemovalLasts userId disk (past ++ [event])) :
    DiskKnown userId disk (past ++ [event]) := by
  rw [RemovalLasts, lifetimes.run_concat] at hlasts
  constructor
  · rw [unflushed_concat, removedSince_concat, lifetimes.run_concat]
    change _ → _ ∧ (live _ event).diskPolicyOf userId ≠ 0
    rintro (⟨hremoves, hdisk⟩ | ⟨hunflushed, hkept⟩)
    · rw [diskPolicyOf_live (lifeFlushes_of_removesUser _ hremoves)]
      exact ⟨Or.inl hremoves, hdisk⟩
    · obtain ⟨hremoved, hdisk⟩ := hknown.unflushed hunflushed
      rw [diskPolicyOf_live hkept]
      refine ⟨Or.inr ⟨hremoved, Bool.eq_false_of_not_eq_true fun hstores => ?_⟩, hdisk⟩
      rw [lifeFlushes_of_storesPolicy hstores] at hkept
      cases hkept
  · intro hremoved hdisk
    rw [lifetimes.run_concat] at hdisk
    change (live _ event).diskPolicyOf userId ≠ 0 at hdisk
    cases hflushes : (lifetimes.run (started disk) past).lifeFlushes event with
    | true =>
        -- a flush puts the policy of the memory image on disk, which reads 0
        rw [diskPolicyOf, live_images_agree _ hflushes] at hdisk
        exact absurd (hlasts hremoved) hdisk
    | false =>
        rw [diskPolicyOf_live hflushes] at hdisk
        rw [unflushed_concat]
        rcases (removedSince_concat event).mp hremoved with hremoves | ⟨hearlier, _⟩
        · exact Or.inl ⟨hremoves, hdisk⟩
        · exact Or.inr ⟨hknown.flushed hearlier hdisk, hflushes⟩

/-- After a restart the policy is the one on disk. -/
theorem removalLasts_reloaded {event : LifeEvent} (hknown : DiskKnown userId disk past)
    (hkept : (lifetimes.run (started disk) past).lifeFlushes event = false)
    (hdies : ∀ entry, event ≠ .serve entry) :
    RemovalLasts userId disk (past ++ [event]) ↔ ¬ Unflushed userId disk past := by
  have hremoves : removesUser userId event = false := by
    cases event with
    | serve entry => exact absurd rfl (hdies entry)
    | _ => rfl
  have hstores : storesPolicy userId (lifetimes.run (started disk) past) event = false := by
    refine Bool.eq_false_of_not_eq_true fun hstores => ?_
    rw [lifeFlushes_of_storesPolicy hstores] at hkept
    cases hkept
  have hreloaded : (lifetimes.run (started disk) (past ++ [event])).policyOf userId =
      (lifetimes.run (started disk) past).diskPolicyOf userId := by
    rw [lifetimes.run_concat, ← diskPolicyOf_live hkept]
    cases event with
    | serve entry => exact absurd rfl (hdies entry)
    | _ => rfl
  rw [RemovalLasts, removedSince_concat, hreloaded, hremoves, hstores]
  constructor
  · intro hlasts hunflushed
    obtain ⟨hremoved, hdisk⟩ := hknown.unflushed hunflushed
    exact hdisk (hlasts (Or.inr ⟨hremoved, rfl⟩))
  · rintro hflushed (hnever | ⟨hremoved, _⟩)
    · cases hnever
    · exact not_not.mp fun hdisk => hflushed (hknown.flushed hremoved hdisk)

/-- While the service runs on, only a failed deletion leaves a policy behind. -/
theorem removalLasts_served {event : ServiceEvent} (hlasts : RemovalLasts userId disk past) :
    RemovalLasts userId disk (past ++ [.serve event]) ↔
      RemovalFlushed userId disk past (.serve event) := by
  have hmemory : (lifetimes.run (started disk) (past ++ [.serve event])).policyOf userId =
      policyValue (written ((lifetimes.run (started disk) past).lifeWrite (.serve event))
        (unlockPolicyKey userId)
        (lifetimes.run (started disk) past).preferences.memory[unlockPolicyKey userId]?) := by
    rw [lifetimes.run_concat, policyOf_eq]
    exact congrArg policyValue (step_memory _ event _)
  rw [RemovalLasts, removedSince_concat, hmemory]
  cases hremoves : removesUser userId (.serve event) with
  | true =>
      cases event with
      | notify env notification =>
          cases notification with
          | removeUser user =>
              obtain rfl : user = userId := of_decide_eq_true hremoves
              rw [policyValue_removeUser]
              exact ⟨fun hall _ => hall (Or.inl rfl), fun hguard _ => hguard rfl⟩
          | _ => cases hremoves
      | _ => cases hremoves
  | false =>
      have hflushed : RemovalFlushed userId disk past (.serve event) := by
        cases event with
        | notify env notification =>
            cases notification with
            | removeUser user => exact fun heq => absurd heq (of_decide_eq_false hremoves)
            | _ => trivial
        | _ => trivial
      refine iff_of_true ?_ hflushed
      rintro (hnever | ⟨hremoved, hstores⟩)
      · cases hnever
      · exact policyValue_written hstores (hlasts hremoved)

theorem removalLasts_concat {event : LifeEvent} (hknown : DiskKnown userId disk past)
    (hlasts : RemovalLasts userId disk past) :
    RemovalLasts userId disk (past ++ [event]) ↔ RemovalFlushed userId disk past event := by
  cases event with
  | serve event => exact removalLasts_served hlasts
  | restart => exact removalLasts_reloaded hknown rfl fun _ heq => by cases heq
  | dieIn event reached =>
      cases hflushes : (lifetimes.run (started disk) past).lifeFlushes (.dieIn event reached) with
      | true =>
          refine iff_of_true (fun hremoved => ?_) (Or.inl hflushes)
          rw [lifetimes.run_concat, policyOf_eq]
          change policyValue (live (lifetimes.run (started disk) past)
            (.dieIn event reached)).preferences.disk[unlockPolicyKey userId]? = 0
          rw [live_disk, if_pos hflushes]
          rcases (removedSince_concat _).mp hremoved with hnever | ⟨hearlier, hstores⟩
          · cases hnever
          · exact policyValue_written hstores (hlasts hearlier)
      | false =>
          rw [removalLasts_reloaded hknown hflushes fun _ heq => by cases heq]
          refine ⟨Or.inr, fun hguard => hguard.resolve_left fun hflushed => ?_⟩
          rw [lifeFlushes, hflushed] at hflushes
          cases hflushes

/-- A removed policy reads 0 in every state, over all restarts, until a new one
is stored, exactly if each removal is flushed before the service restarts. -/
theorem removalLasts_throughout_iff (userId : UserId)
    (disk : Std.TreeMap String PreferencesValue) (events : List LifeEvent) :
    (∀ past, past <+: events → RemovalLasts userId disk past) ↔
      ∀ past event, past ++ [event] <+: events → RemovalFlushed userId disk past event := by
  have hboth := @prefixes_iff _
    (fun past => DiskKnown userId disk past ∧ RemovalLasts userId disk past)
    (RemovalFlushed userId disk) events
    ⟨diskKnown_nil, fun hsince => absurd hsince Machine.not_since_nil⟩
    fun past event _ hpast =>
      ⟨fun hnext => (removalLasts_concat hpast.1 hpast.2).mp hnext.2, fun hguard =>
        have hlasts := (removalLasts_concat hpast.1 hpast.2).mpr hguard
        ⟨diskKnown_concat hpast.1 hlasts, hlasts⟩⟩
  rw [← hboth]
  refine ⟨fun hall past => ?_, fun hall past hpast => (hall past hpast).2⟩
  induction past using List.reverseRecOn with
  | nil => exact fun hnil => ⟨diskKnown_nil, hall [] hnil⟩
  | append_singleton past event ih =>
      intro hpart
      have hlasts := hall _ hpart
      have hknown := (ih ((List.prefix_append _ _).trans hpart)).1
      exact ⟨diskKnown_concat hknown hlasts, hlasts⟩

/-- A policy is set and its account removed; the restart brings the policy back. -/
theorem removed_policy_returns :
    ¬ ∀ past, past <+: [LifeEvent.serve (.notify (.single 100) (.activeUser 100)),
        .serve (.call (.single 100) ⟨1, 20000000, .native, true, [accessScreenLock]⟩
          (.setUnlockPolicy 100 3)),
        .serve (.notify (.single 100) (.removeUser 100)), .restart] →
      RemovalLasts 100 ∅ past := by
  intro hall
  have hlasts := hall _ (List.prefix_refl _)
    ⟨[_, _], _, [.restart], rfl, rfl, by simp [Machine.Steps, storesPolicy, LifeEvent.entry]⟩
  revert hlasts
  decide

end Histories

end Screenlock.ScreenLockSystemAbility
