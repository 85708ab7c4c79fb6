import Screenlock.Service.Steps

/-! # What one entry asks of the preference store

Each entry into the service writes one key at most. Saving flushes the store,
and so do the callers of a save; a key that is deleted stays on disk until the
store is flushed by something else.
-/

namespace Screenlock

/-- No preference call of the entry fails. -/
structure Environment.Working (env : Environment) : Prop where
  util : env.preferencesUtil = true
  works : ∀ access, env.preferences access = PreferencesAccess.works

theorem Environment.Working.single (active : UserId) : (Environment.single active).Working :=
  ⟨rfl, fun _ => rfl⟩

/-- The writes of one entry, with the accesses they meet. -/
inductive StoreAction where
  | keep
  /-- A save and the refresh that follows it. -/
  | save (put refresh : PreferencesAccess) (key : String) (value : PreferencesValue)
  | remove (delete : PreferencesAccess) (key : String)
  | removeAndRefresh (delete refresh : PreferencesAccess) (key : String)

/-- One access to the store that changes an image. -/
inductive StoreOp where
  | put (key : String) (value : PreferencesValue)
  | delete (key : String)
  | flush
  deriving DecidableEq, Repr

def StoreOp.apply (store : Preferences) : StoreOp → Preferences
  | put key value => { store with memory := store.memory.insert key value }
  | delete key => { store with memory := store.memory.erase key }
  | flush => store.flush

namespace StoreAction

def apply (store : Preferences) : StoreAction → Preferences
  | keep => store
  | save put refresh key value => (store.save put key value).2.refresh refresh
  | remove delete key => (store.removeKey delete key).2
  | removeAndRefresh delete refresh key => (store.removeKey delete key).2.refresh refresh

/-- The key the action is about. -/
def key : StoreAction → Option String
  | keep => none
  | save _ _ key _ | remove _ key | removeAndRefresh _ _ key => some key

/-- The value the key gets, if its value changes in memory: none when it is deleted. -/
def write : StoreAction → Option (String × Option PreferencesValue)
  | keep => none
  | save put _ key value =>
      if put.handle && put.writes then some (key, some value) else none
  | remove delete key | removeAndRefresh delete _ key =>
      if delete.handle && delete.writes then some (key, none) else none

def flushOps (access : PreferencesAccess) : List StoreOp :=
  if access.handle then [.flush] else []

/-- The accesses that change an image, in their order. -/
def ops : StoreAction → List StoreOp
  | keep => []
  | save put refresh key value =>
      (if put.handle && put.writes then [.put key value] else []) ++ flushOps put ++
        flushOps refresh
  | remove delete key => if delete.handle && delete.writes then [.delete key] else []
  | removeAndRefresh delete refresh key =>
      (if delete.handle && delete.writes then [.delete key] else []) ++ flushOps refresh

/-- Among the first accesses one makes the disk image the memory image. -/
def flushesWithin (reached : Nat) (action : StoreAction) : Bool :=
  (action.ops.take reached).contains .flush

def flushes (action : StoreAction) : Bool := action.ops.contains .flush

theorem apply_eq_ops (action : StoreAction) (store : Preferences) :
    action.apply store = action.ops.foldl StoreOp.apply store := by
  cases action with
  | keep => rfl
  | save put refresh key value =>
      rcases put with ⟨_ | _, _ | _⟩ <;> rcases refresh with ⟨_ | _, _⟩ <;> rfl
  | remove delete key => rcases delete with ⟨_ | _, _ | _⟩ <;> rfl
  | removeAndRefresh delete refresh key =>
      rcases delete with ⟨_ | _, _ | _⟩ <;> rcases refresh with ⟨_ | _, _⟩ <;> rfl

theorem key_of_write {action : StoreAction} {written : String}
    {value : Option PreferencesValue} (hwrite : action.write = some (written, value)) :
    action.key = some written := by
  cases action with
  | keep => cases hwrite
  | _ =>
      simp only [write] at hwrite
      split at hwrite
      · cases hwrite
        rfl
      · cases hwrite

/-- Only a save puts a value. -/
theorem eq_save_of_put {action : StoreAction} {written : String} {value : PreferencesValue}
    (hwrite : action.write = some (written, some value)) :
    ∃ put refresh, action = .save put refresh written value ∧ put.handle = true := by
  cases action with
  | keep => cases hwrite
  | save put refresh key value =>
      simp only [write] at hwrite
      split at hwrite
      next hput =>
        rw [Bool.and_eq_true] at hput
        cases hwrite
        exact ⟨put, refresh, rfl, hput.1⟩
      next => cases hwrite
  | _ =>
      simp only [write] at hwrite
      split at hwrite <;> cases hwrite

/-- A value that is put is flushed by the same save. -/
theorem flushes_of_put {action : StoreAction} {written : String} {value : PreferencesValue}
    (hwrite : action.write = some (written, some value)) : action.flushes = true := by
  obtain ⟨put, refresh, rfl, hhandle⟩ := eq_save_of_put hwrite
  simp [flushes, ops, flushOps, hhandle]

theorem apply_memory (action : StoreAction) (store : Preferences) (key : String) :
    (action.apply store).memory[key]? =
      match action.write with
      | none => store.memory[key]?
      | some (written, value) => if written = key then value else store.memory[key]? := by
  cases action with
  | keep => rfl
  | save put refresh written value =>
      rw [apply, Preferences.refresh_memory, Preferences.save_memory, write]
      cases put.handle && put.writes with
      | false => rfl
      | true => simp [Std.TreeMap.getElem?_insert]
  | remove delete written =>
      rw [apply, Preferences.removeKey_memory, write]
      cases delete.handle && delete.writes with
      | false => rfl
      | true => simp [Std.TreeMap.getElem?_erase]
  | removeAndRefresh delete refresh written =>
      rw [apply, Preferences.refresh_memory, Preferences.removeKey_memory, write]
      cases delete.handle && delete.writes with
      | false => rfl
      | true => simp [Std.TreeMap.getElem?_erase]

/-- Wherever an entry is cut off, the disk holds the image before the entry or
the one it leaves in memory. -/
theorem ops_take_disk (reached : Nat) (action : StoreAction) (store : Preferences) :
    ((action.ops.take reached).foldl StoreOp.apply store).disk =
      if action.flushesWithin reached then (action.apply store).memory else store.disk := by
  cases action with
  | keep => simp [ops, flushesWithin]
  | save put refresh key value =>
      rcases put with ⟨_ | _, _ | _⟩ <;> rcases refresh with ⟨_ | _, _⟩ <;>
        rcases reached with _ | _ | _ | reached <;>
        simp [ops, flushOps, flushesWithin, StoreOp.apply, apply, Preferences.save,
          Preferences.refresh, Preferences.flush]
  | remove delete key =>
      rcases delete with ⟨_ | _, _ | _⟩ <;> rcases reached with _ | reached <;>
        simp [ops, flushesWithin, StoreOp.apply]
  | removeAndRefresh delete refresh key =>
      rcases delete with ⟨_ | _, _ | _⟩ <;> rcases refresh with ⟨_ | _, _⟩ <;>
        rcases reached with _ | _ | reached <;>
        simp [ops, flushOps, flushesWithin, StoreOp.apply, apply, Preferences.removeKey,
          Preferences.refresh, Preferences.flush]

theorem apply_disk (action : StoreAction) (store : Preferences) :
    (action.apply store).disk =
      if action.flushes then (action.apply store).memory else store.disk := by
  have hwhole := ops_take_disk action.ops.length action store
  rwa [flushesWithin, List.take_length, ← apply_eq_ops] at hwhole

end StoreAction

namespace ScreenLockSystemAbility

variable (ability : ScreenLockSystemAbility) (env : Environment)

/-- The write of `FreshDisabledState`. -/
def freshAction (disable : Bool) (userId : UserId) : StoreAction :=
  if env.preferencesUtil = false ∨
      disable = ability.preferences.obtainBool (env.preferences 0) (disabledKey userId) false then
    .keep
  else .save (env.preferences 1) (env.preferences 2) (disabledKey userId) (.bool disable)

/-- The write of `OnActiveUser` and `InitUserId`. -/
def initAction (userId : UserId) : StoreAction :=
  if env.preferencesUtil = false ∨
      ability.preferences.obtainBool (env.preferences 0) (disabledKey userId) false = true then
    .keep
  else .save (env.preferences 1) (env.preferences 2) (disabledKey userId) (.bool false)

/-- The write of `SetUnlockPolicy`. -/
def policyAction (userId : UserId) (policy : Int) : StoreAction :=
  if ability.preferences.obtainInt (env.preferences 0) (unlockPolicyKey userId) 0 = policy then
    .keep
  else .save (env.preferences 1) (env.preferences 2) (unlockPolicyKey userId) (.int policy)

/-- The write of an accepted request. -/
def performAction : Request → StoreAction
  | .setScreenLockDisabled disable userId => ability.freshAction env disable userId
  | .setUnlockPolicy userId policy => ability.policyAction env userId policy
  | _ => .keep

def noticeAction : Notification → StoreAction
  | .activeUser targetUser => ability.initAction env targetUser
  | .initUserId => ability.initAction env env.currentActiveOsAccountId
  | .removeUser userId =>
      if env.preferencesUtil = false then .keep
      else .remove (env.preferences 0) (unlockPolicyKey userId)
  | .credChange callingUid userId authType eventType _ =>
      if callingUid = idmUid ∧ env.currentActiveOsAccountId = userId ∧ authType = .pin ∧
          eventType = .addCred then ability.freshAction env false userId
      else .keep
  | .credentialUpdated userId authType credentialCount =>
      if authType = "1" ∧ credentialCount ≠ "0" ∧ env.preferencesUtil = true then
        .removeAndRefresh (env.preferences 0) (env.preferences 1) userId
      else .keep
  | _ => .keep

def storeAction : ServiceEvent → StoreAction
  | .call env caller request =>
      if accepts env caller ability request then ability.performAction env request else .keep
  | .notify env notification => ability.noticeAction env notification
  | .runLockTask _ | .runUnlockTask _ => .keep

section Keys

variable {ability : ScreenLockSystemAbility} {env : Environment} {written : String}

theorem freshAction_key {disable : Bool} {userId : UserId}
    (hkey : (ability.freshAction env disable userId).key = some written) :
    disabledKey userId = written := by
  unfold freshAction at hkey
  split at hkey
  · cases hkey
  · exact Option.some.inj hkey

theorem initAction_key {userId : UserId}
    (hkey : (ability.initAction env userId).key = some written) : disabledKey userId = written := by
  unfold initAction at hkey
  split at hkey
  · cases hkey
  · exact Option.some.inj hkey

theorem policyAction_key {userId : UserId} {policy : Int}
    (hkey : (ability.policyAction env userId policy).key = some written) :
    unlockPolicyKey userId = written := by
  unfold policyAction at hkey
  split at hkey
  · cases hkey
  · exact Option.some.inj hkey

end Keys

/-- The entries that can write a key. -/
inductive Writes : ServiceEvent → String → Prop where
  | setScreenLockDisabled (env : Environment) (caller : Caller) (disable : Bool)
      (userId : UserId) :
      Writes (.call env caller (.setScreenLockDisabled disable userId)) (disabledKey userId)
  | setUnlockPolicy (env : Environment) (caller : Caller) (userId : UserId) (policy : Int) :
      Writes (.call env caller (.setUnlockPolicy userId policy)) (unlockPolicyKey userId)
  | activeUser (env : Environment) (targetUser : UserId) :
      Writes (.notify env (.activeUser targetUser)) (disabledKey targetUser)
  | initUserId (env : Environment) :
      Writes (.notify env .initUserId) (disabledKey env.currentActiveOsAccountId)
  | removeUser (env : Environment) (userId : UserId) :
      Writes (.notify env (.removeUser userId)) (unlockPolicyKey userId)
  | credChange (env : Environment) (callingUid : Int) (userId : UserId) (authType : AuthType)
      (eventType : CredChangeEventType) (isSilentCredChange : Bool) :
      Writes (.notify env (.credChange callingUid userId authType eventType isSilentCredChange))
        (disabledKey userId)
  | credentialUpdated (env : Environment) (userId authType credentialCount : String) :
      Writes (.notify env (.credentialUpdated userId authType credentialCount)) userId

theorem writes_of_key {ability : ScreenLockSystemAbility} {event : ServiceEvent} {written : String}
    (hkey : (ability.storeAction event).key = some written) : Writes event written := by
  cases event with
  | call env caller request =>
      simp only [storeAction] at hkey
      split at hkey
      · cases request with
        | setScreenLockDisabled disable userId =>
            exact freshAction_key hkey ▸ .setScreenLockDisabled env caller disable userId
        | setUnlockPolicy userId policy =>
            exact policyAction_key hkey ▸ .setUnlockPolicy env caller userId policy
        | _ => cases hkey
      · cases hkey
  | notify env notification =>
      simp only [storeAction] at hkey
      cases notification with
      | activeUser targetUser => exact initAction_key hkey ▸ .activeUser env targetUser
      | initUserId => exact initAction_key hkey ▸ .initUserId env
      | removeUser userId =>
          simp only [noticeAction] at hkey
          split at hkey
          · cases hkey
          · exact Option.some.inj hkey ▸ .removeUser env userId
      | credChange callingUid userId authType eventType isSilentCredChange =>
          simp only [noticeAction] at hkey
          split at hkey
          · exact freshAction_key hkey ▸
              .credChange env callingUid userId authType eventType isSilentCredChange
          · cases hkey
      | credentialUpdated userId authType credentialCount =>
          simp only [noticeAction] at hkey
          split at hkey
          · exact Option.some.inj hkey ▸ .credentialUpdated env userId authType credentialCount
          · cases hkey
      | _ => cases hkey
  | _ => cases hkey

theorem freshDisabledState_preferences (disable : Bool) (userId : UserId) :
    (ability.freshDisabledState env disable userId).2.preferences =
      (ability.freshAction env disable userId).apply ability.preferences := by
  unfold freshDisabledState freshAction
  by_cases hutil : env.preferencesUtil = false
  · rw [if_pos hutil, if_pos (Or.inl hutil)]
    rfl
  · rw [if_neg hutil]
    split
    · next hchange => rw [if_neg (not_or.mpr ⟨hutil, hchange⟩)]; rfl
    · next hsame => rw [if_pos (Or.inr (not_not.mp hsame))]; rfl

theorem initDisabledState_preferences (userId : UserId) :
    (ability.initDisabledState env userId).preferences =
      (ability.initAction env userId).apply ability.preferences := by
  unfold initDisabledState initAction
  by_cases hutil : env.preferencesUtil = false
  · rw [if_pos hutil, if_pos (Or.inl hutil)]
    rfl
  · rw [if_neg hutil]
    split
    · next hset => rw [if_pos (Or.inr hset)]; rfl
    · next hclear => rw [if_neg (not_or.mpr ⟨hutil, hclear⟩)]; rfl

theorem storeUnlockPolicy_preferences (userId : UserId) (policy : Int) :
    (ability.storeUnlockPolicy env userId policy).preferences =
      (ability.policyAction env userId policy).apply ability.preferences := by
  unfold storeUnlockPolicy policyAction
  split <;> rfl

theorem perform_preferences (caller : Caller) (request : Request) :
    (ability.perform env caller request).preferences =
      (ability.performAction env request).apply ability.preferences := by
  cases request with
  | setScreenLockDisabled disable userId =>
      exact ability.freshDisabledState_preferences env disable userId
  | setUnlockPolicy userId policy => exact ability.storeUnlockPolicy_preferences env userId policy
  | sendScreenLockEvent event param =>
      obtain ⟨queue, effects, _, heq⟩ := ability.screenLockEvent_touches env caller event param
      rw [perform, heq]
      rfl
  | _ => rfl

theorem onNotification_preferences (notification : Notification) :
    (ability.onNotification env notification).preferences =
      (ability.noticeAction env notification).apply ability.preferences := by
  cases notification with
  | activeUser targetUser => exact initDisabledState_preferences _ env targetUser
  | initUserId => exact ability.initDisabledState_preferences env _
  | removeUser userId =>
      simp only [onNotification, onRemoveUser, deleteUnlockPolicyForUser, noticeAction]
      split <;> rfl
  | credChange callingUid userId authType eventType isSilentCredChange =>
      simp only [onNotification, onNotifyCredChangeEvent, noticeAction]
      by_cases hidm : callingUid = idmUid
      · rw [if_neg (not_not.mpr hidm)]
        simp only [hidm, true_and]
        split
        · exact ability.freshDisabledState_preferences env false userId
        · rfl
      · rw [if_pos hidm, if_neg fun hall => hidm hall.1]
        rfl
  | credentialUpdated userId authType credentialCount =>
      simp only [onNotification, onReceiveEvent, noticeAction]
      by_cases hpin : authType = "1" ∧ credentialCount ≠ "0"
      · rw [if_pos hpin]
        cases hutil : env.preferencesUtil with
        | false => simp [StoreAction.apply]
        | true => simp [hpin, StoreAction.apply]
      · rw [if_neg hpin, if_neg fun hall => hpin ⟨hall.1, hall.2.1⟩]
        rfl
  | _ => rfl

/-- What one entry does to the store. -/
theorem step_preferences (event : ServiceEvent) :
    (ability.step event).preferences = (ability.storeAction event).apply ability.preferences := by
  cases event with
  | call env caller request =>
      have haction : ability.storeAction (.call env caller request) =
          if accepts env caller ability.readied request then ability.performAction env request
          else .keep := rfl
      change (ability.readied.handle env caller request).2.preferences = _
      rw [handle_eq, haction]
      split
      · exact ability.readied.perform_preferences env caller request
      · rfl
  | notify env notification =>
      exact ability.readied.onNotification_preferences env notification
  | _ => rfl

end ScreenLockSystemAbility

end Screenlock
