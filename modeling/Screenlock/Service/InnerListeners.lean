import Screenlock.InnerListener.Coherence
import Screenlock.Service.Calls

/-! # Inner listeners at the service

Who may register and unregister inner listeners, and what the two requests do to
the tables, told by their answers.
-/

namespace Screenlock

open Foundation

namespace InnerListenerManager

/-- A remote object enters the tables under a type and an account, if `done`. -/
structure Enters (before after : InnerListenerManager) (done : Prop) (remote : RemoteObject)
    (listenType : ListenType) (account : UserId) : Prop where
  formed : after.WellFormed
  registered : ∀ other kind userId, after.Registered other kind userId ↔
    before.Registered other kind userId ∨
      (done ∧ other = remote ∧ kind = listenType ∧ userId = account)
  watched : ∀ other, after.Watched other ↔ before.Watched other ∨ (done ∧ other = remote)

/-- A remote object leaves the first set of a type that holds it, if `done`. -/
structure Leaves (before after : InnerListenerManager) (done : Prop) (remote : RemoteObject)
    (listenType : ListenType) : Prop where
  formed : after.WellFormed
  registered : ∀ other kind userId, after.Registered other kind userId ↔
    before.Registered other kind userId ∧
      ¬ (done ∧ other = remote ∧ kind = listenType ∧
        before.firstHolder (some remote) listenType = some userId)
  watched : ∀ other, after.Watched other ↔ before.Watched other ∧ ¬ (done ∧ other = remote)

variable {manager : InnerListenerManager} {remote : RemoteObject} {listenType : ListenType}
  {done : Prop}

theorem Enters.not_done (hformed : manager.WellFormed) (hnot : ¬ done) (account : UserId) :
    Enters manager manager done remote listenType account :=
  ⟨hformed, fun _ _ _ => (or_iff_left fun hdone => hnot hdone.1).symm,
    fun _ => (or_iff_left fun hdone => hnot hdone.1).symm⟩

theorem Leaves.not_done (hformed : manager.WellFormed) (hnot : ¬ done) :
    Leaves manager manager done remote listenType :=
  ⟨hformed, fun _ _ _ => (and_iff_left fun hdone => hnot hdone.1).symm,
    fun _ => (and_iff_left fun hdone => hnot hdone.1).symm⟩

theorem Enters.congr {after : InnerListenerManager} {account : UserId} {performed : Prop}
    (henters : Enters manager after done remote listenType account) (hdone : performed ↔ done) :
    Enters manager after performed remote listenType account := by
  rwa [propext hdone]

theorem Leaves.congr {after : InnerListenerManager} {performed : Prop}
    (hleaves : Leaves manager after done remote listenType) (hdone : performed ↔ done) :
    Leaves manager after performed remote listenType := by
  rwa [propext hdone]

variable (callingUser : UserId) (attaches : Bool) (userId : UserId) (listener : InnerListener)

theorem registerInnerListener_result (manager : InnerListenerManager) (listenType : ListenType)
    (hlive : listener.asObject = some remote) :
    (manager.registerInnerListener callingUser attaches userId listenType (some listener)).1 = .ok ↔
      manager.Watched remote ∨ attaches = true := by
  rw [registerInnerListener_ok_iff_accepts]
  constructor
  · rintro ⟨obj, hobj, hwatch⟩
    obtain rfl := Option.some.inj (hlive.symm.trans hobj)
    exact hwatch
  · exact fun hwatch => ⟨remote, hlive, hwatch⟩

theorem registerInnerListener_enters (hformed : manager.WellFormed)
    (hlive : listener.asObject = some remote) :
    Enters manager
      (manager.registerInnerListener callingUser attaches userId listenType (some listener)).2
      (manager.Watched remote ∨ attaches = true) remote listenType
      (listenedAccount callingUser userId) where
  formed := registerInnerListener_wellFormed hformed callingUser attaches userId listenType _
  registered other kind account := by
    rw [registered_registerInnerListener]
    unfold Accepts
    rw [hlive]
    constructor
    · rintro (hold | ⟨⟨heq, hwatch⟩, hplace⟩)
      · exact Or.inl hold
      · obtain rfl := Option.some.inj heq
        exact Or.inr ⟨hwatch, rfl, hplace⟩
    · rintro (hold | ⟨hwatch, rfl, hplace⟩)
      · exact Or.inl hold
      · exact Or.inr ⟨⟨rfl, hwatch⟩, hplace⟩
  watched other := by
    rw [watched_registerInnerListener, hlive]
    constructor
    · rintro (hold | ⟨heq, hattaches⟩)
      · exact Or.inl hold
      · exact Or.inr ⟨Or.inr hattaches, (Option.some.inj heq).symm⟩
    · rintro (hold | ⟨hwatch | hattaches, rfl⟩)
      · exact Or.inl hold
      · exact Or.inl hwatch
      · exact Or.inr ⟨rfl, hattaches⟩

theorem unRegisterInnerListener_leaves (hformed : manager.WellFormed)
    (hlive : listener.asObject = some remote) :
    Leaves manager (manager.unRegisterInnerListener listenType (some listener)).2 True remote
      listenType where
  formed := unRegisterInnerListener_wellFormed hformed listenType _
  registered other kind account := by
    rw [registered_unRegisterInnerListener hformed listenType listener hlive]
    simp only [true_and]
  watched other := by
    rw [watched_unRegisterInnerListener hformed listenType listener hlive]
    simp only [true_and, ne_eq]

theorem unRegisterInnerListener_result (manager : InnerListenerManager) (listenType : ListenType)
    (hlive : listener.asObject = some remote) :
    (manager.unRegisterInnerListener listenType (some listener)).1 = .ok := by
  have hresult := manager.removeDeathRecipient_result listener remote hlive
  unfold unRegisterInnerListener
  dsimp only
  rw [if_neg (not_not.mpr hresult)]

end InnerListenerManager

namespace ScreenLockSystemAbility

open InnerListenerManager

/-- The service lets the caller change the listeners of the type. -/
def Permitted (caller : Caller) (listenType : ListenType) : Prop :=
  caller.checkSystemPermission = false ∧
    (listenType = ListenType.strongAuth → caller.checkPermission accessScreenLock = true)

instance (caller : Caller) (listenType : ListenType) : Decidable (Permitted caller listenType) :=
  inferInstanceAs (Decidable (_ ∧ _))

variable {ability : ScreenLockSystemAbility} {env : Environment} {caller : Caller}
  {attaches : Bool} {userId : UserId} {listenType : ListenType} {listener : InnerListener}
  {remote : RemoteObject}

theorem registerInnerListener_permitted (hpermitted : Permitted caller listenType) :
    ability.registerInnerListener env caller attaches userId listenType (some listener) =
      (ability.innerListeners.registerInnerListener (env.userIdFromCallingUid caller) attaches
        userId listenType (some listener)).map id fun registered =>
          { ability with innerListeners := registered } := by
  unfold registerInnerListener
  rw [if_neg (by simp [hpermitted.1]),
    if_neg fun hlacks => by simp [hpermitted.2 hlacks.1] at hlacks]

theorem unRegisterInnerListener_permitted (hpermitted : Permitted caller listenType) :
    ability.unRegisterInnerListener caller userId listenType (some listener) =
      (ability.innerListeners.unRegisterInnerListener listenType (some listener)).map id
        fun unregistered => { ability with innerListeners := unregistered } := by
  unfold unRegisterInnerListener
  rw [if_neg (by simp [hpermitted.1]),
    if_neg fun hlacks => by simp [hpermitted.2 hlacks.1] at hlacks]

/-- A caller that is not permitted fails one of the two checks. -/
theorem refused_cases (hrefused : ¬ Permitted caller listenType) :
    caller.checkSystemPermission = true ∨
      (caller.checkSystemPermission = false ∧ listenType = ListenType.strongAuth ∧
        caller.checkPermission accessScreenLock = false) := by
  unfold Permitted at hrefused
  cases hsystem : caller.checkSystemPermission with
  | true => exact Or.inl rfl
  | false => simpa [hsystem] using hrefused

section Refusals

variable (ability : ScreenLockSystemAbility) (env : Environment) (attaches : Bool)
  (userId : UserId) (listener : InnerListener)

theorem registerInnerListener_refused (hrefused : ¬ Permitted caller listenType) :
    ∃ code, code ≠ ScreenLockError.ok ∧
      ability.registerInnerListener env caller attaches userId listenType (some listener) =
        (code, ability) := by
  unfold registerInnerListener
  rcases refused_cases hrefused with hsystem | ⟨hsystem, hlacks⟩
  · exact ⟨.notSystemApp, ScreenLockError.noConfusion, if_pos hsystem⟩
  · rw [if_neg (by simp [hsystem]), if_pos hlacks]
    exact ⟨.noPermission, ScreenLockError.noConfusion, rfl⟩

theorem unRegisterInnerListener_refused (hrefused : ¬ Permitted caller listenType) :
    ∃ code, code ≠ ScreenLockError.ok ∧
      ability.unRegisterInnerListener caller userId listenType (some listener) =
        (code, ability) := by
  unfold unRegisterInnerListener
  rcases refused_cases hrefused with hsystem | ⟨hsystem, hlacks⟩
  · exact ⟨.notSystemApp, ScreenLockError.noConfusion, if_pos hsystem⟩
  · rw [if_neg (by simp [hsystem]), if_pos hlacks]
    exact ⟨.noPermission, ScreenLockError.noConfusion, rfl⟩

end Refusals

theorem registerInnerListener_ok_iff (hlive : listener.asObject = some remote) :
    (ability.registerInnerListener env caller attaches userId listenType (some listener)).1 = .ok ↔
      Permitted caller listenType ∧
        (ability.innerListeners.Watched remote ∨ attaches = true) := by
  by_cases hpermitted : Permitted caller listenType
  · rw [registerInnerListener_permitted hpermitted]
    simp only [hpermitted, true_and]
    exact InnerListenerManager.registerInnerListener_result _ _ _ _ _ _ hlive
  · obtain ⟨code, hcode, heq⟩ :=
      registerInnerListener_refused ability env attaches userId listener hpermitted
    rw [heq]
    exact iff_of_false hcode fun hall => hpermitted hall.1

theorem unRegisterInnerListener_ok_iff (hlive : listener.asObject = some remote) :
    (ability.unRegisterInnerListener caller userId listenType (some listener)).1 = .ok ↔
      Permitted caller listenType := by
  by_cases hpermitted : Permitted caller listenType
  · rw [unRegisterInnerListener_permitted hpermitted]
    refine iff_of_true ?_ hpermitted
    exact InnerListenerManager.unRegisterInnerListener_result _ _ _ hlive
  · obtain ⟨code, hcode, heq⟩ :=
      unRegisterInnerListener_refused ability userId listener hpermitted
    rw [heq]
    exact iff_of_false hcode hpermitted

/-- The tables after a request to register, told by its answer. -/
theorem registerInnerListener_enters (hformed : ability.innerListeners.WellFormed)
    (hlive : listener.asObject = some remote) :
    Enters ability.innerListeners
      (ability.registerInnerListener env caller attaches userId listenType
        (some listener)).2.innerListeners
      ((ability.registerInnerListener env caller attaches userId listenType
        (some listener)).1 = .ok)
      remote listenType (listenedAccount (env.userIdFromCallingUid caller) userId) := by
  have hok := @registerInnerListener_ok_iff ability env caller attaches userId listenType listener
    remote hlive
  by_cases hpermitted : Permitted caller listenType
  · refine Enters.congr ?_ (hok.trans (and_iff_right hpermitted))
    rw [registerInnerListener_permitted hpermitted]
    exact InnerListenerManager.registerInnerListener_enters _ _ _ _ hformed hlive
  · obtain ⟨code, hcode, heq⟩ :=
      registerInnerListener_refused ability env attaches userId listener hpermitted
    rw [heq]
    exact Enters.not_done hformed hcode _

/-- The tables after a request to unregister, told by its answer. -/
theorem unRegisterInnerListener_leaves (hformed : ability.innerListeners.WellFormed)
    (hlive : listener.asObject = some remote) :
    Leaves ability.innerListeners
      (ability.unRegisterInnerListener caller userId listenType (some listener)).2.innerListeners
      ((ability.unRegisterInnerListener caller userId listenType (some listener)).1 = .ok)
      remote listenType := by
  have hok := @unRegisterInnerListener_ok_iff ability caller userId listenType listener remote
    hlive
  by_cases hpermitted : Permitted caller listenType
  · refine Leaves.congr ?_ (hok.trans (iff_true_intro hpermitted))
    rw [unRegisterInnerListener_permitted hpermitted]
    exact InnerListenerManager.unRegisterInnerListener_leaves _ hformed hlive
  · obtain ⟨code, hcode, heq⟩ :=
      unRegisterInnerListener_refused ability userId listener hpermitted
    rw [heq]
    exact Leaves.not_done hformed hcode

end ScreenLockSystemAbility

end Screenlock
