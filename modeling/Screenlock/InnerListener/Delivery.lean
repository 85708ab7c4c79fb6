import Screenlock.InnerListener.Coherence

/-! # Whom a state change reaches

`OnStateChanged` walks the set of the account and then the set of all accounts.
Each set holds a remote object once, but nothing compares the two sets.
-/

namespace Screenlock.InnerListenerManager

open Foundation

/-- What one state change hands to the remote object, in order. -/
def delivered (userId : UserId) (state : Int) (listenType : ListenType) (remote : RemoteObject)
    (manager : InnerListenerManager) : List (UserId × Int) :=
  (manager.onStateChanged userId listenType).filterMap fun listener =>
    if listener.asObject = some remote then some (userId, state) else none

/-- The remote objects a change of the account's state is meant for. -/
def Interested (manager : InnerListenerManager) (userId : UserId) (listenType : ListenType)
    (remote : RemoteObject) : Prop :=
  manager.Registered remote listenType userId ∨
    manager.Registered remote listenType SpecialUserId.userAll

instance (manager : InnerListenerManager) (userId : UserId) (listenType : ListenType)
    (remote : RemoteObject) : Decidable (manager.Interested userId listenType remote) :=
  inferInstanceAs (Decidable (_ ∨ _))

/-- Each interested remote object gets the change once, and no other gets it. -/
def DeliversOnce (manager : InnerListenerManager) (userId : UserId) (state : Int)
    (listenType : ListenType) : Prop :=
  ∀ remote, manager.delivered userId state listenType remote =
    if manager.Interested userId listenType remote then [(userId, state)] else []

variable {manager : InnerListenerManager}

theorem delivered_eq (hformed : manager.WellFormed) (userId : UserId) (state : Int)
    (listenType : ListenType) (remote : RemoteObject) :
    manager.delivered userId state listenType remote =
      (if manager.Registered remote listenType userId then [(userId, state)] else []) ++
        if manager.Registered remote listenType SpecialUserId.userAll then [(userId, state)]
        else [] := by
  unfold delivered onStateChanged
  rw [List.filterMap_append, KeyedList.filterMap_key (hformed.sets userId listenType),
    KeyedList.filterMap_key (hformed.sets SpecialUserId.userAll listenType)]
  unfold Registered
  congr

/-- A state change is delivered once exactly if no remote object stands both for
the account and for all accounts. -/
theorem deliversOnce_iff (hreach : machine.Reachable empty manager) (userId : UserId)
    (state : Int) (listenType : ListenType) :
    manager.DeliversOnce userId state listenType ↔
      ¬ ∃ remote, manager.Registered remote listenType userId ∧
        manager.Registered remote listenType SpecialUserId.userAll := by
  have hformed := reachable_wellFormed hreach
  constructor
  · rintro honce ⟨remote, hown, hall⟩
    have hinterested : manager.Interested userId listenType remote := Or.inl hown
    have htwice := honce remote
    rw [delivered_eq hformed, if_pos hown, if_pos hall, if_pos hinterested] at htwice
    simp at htwice
  · intro hapart remote
    rw [delivered_eq hformed]
    by_cases hown : manager.Registered remote listenType userId
    · have hinterested : manager.Interested userId listenType remote := Or.inl hown
      have hall : ¬ manager.Registered remote listenType SpecialUserId.userAll :=
        fun hall => hapart ⟨remote, hown, hall⟩
      rw [if_pos hown, if_neg hall, if_pos hinterested, List.append_nil]
    -- not in the account's own set: only the set of all accounts can hand it over
    · have hinterested : manager.Interested userId listenType remote ↔
          manager.Registered remote listenType SpecialUserId.userAll := or_iff_right hown
      rw [if_neg hown, List.nil_append]
      simp only [hinterested]

/-- For `USER_ALL` itself the two sets are one, so every delivery is made twice. -/
theorem delivered_userAll (hreach : machine.Reachable empty manager) (state : Int)
    (listenType : ListenType) (remote : RemoteObject)
    (hregistered : manager.Registered remote listenType SpecialUserId.userAll) :
    manager.delivered SpecialUserId.userAll state listenType remote =
      [(SpecialUserId.userAll, state), (SpecialUserId.userAll, state)] := by
  rw [delivered_eq (reachable_wellFormed hreach), if_pos hregistered]
  rfl

theorem deliversOnce_iff_for_one_account :
    (machine.run empty
      [.register 100 true 100 ListenType.strongAuth (some ⟨1, some 7⟩)]).DeliversOnce 100 4
        ListenType.strongAuth ↔
      ¬ ∃ remote, (machine.run empty
          [.register 100 true 100 ListenType.strongAuth (some ⟨1, some 7⟩)]).Registered remote
            ListenType.strongAuth 100 ∧
        (machine.run empty
          [.register 100 true 100 ListenType.strongAuth (some ⟨1, some 7⟩)]).Registered remote
            ListenType.strongAuth SpecialUserId.userAll :=
  deliversOnce_iff ⟨_, admits _ _, rfl⟩ 100 4 ListenType.strongAuth

/-- One listener for all accounts is told twice of a request for account -1. -/
theorem delivered_twice_for_userAll :
    machine.Reachable empty (machine.run empty
      [.register 100 true SpecialUserId.userAll ListenType.strongAuth (some ⟨1, some 7⟩)]) ∧
      ¬ (machine.run empty
        [.register 100 true SpecialUserId.userAll ListenType.strongAuth
          (some ⟨1, some 7⟩)]).DeliversOnce SpecialUserId.userAll 4 ListenType.strongAuth := by
  refine ⟨⟨_, admits _ _, rfl⟩, fun honce => ?_⟩
  have htwice := honce 7
  revert htwice
  decide

end Screenlock.InnerListenerManager
