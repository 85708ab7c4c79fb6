import Screenlock.Foundation.KeyedList
import Screenlock.InnerListener.Manager

/-! # What the inner-listener tables hold

Membership is told by remote object: which remotes stand in the set of a type
and an account, and which have a death recipient. Each operation is described
once by what it does to both.
-/

namespace Screenlock.InnerListenerManager

open Foundation

/-- The remote object stands in the set of the account under the type. -/
def Registered (manager : InnerListenerManager) (remote : RemoteObject) (listenType : ListenType)
    (userId : UserId) : Prop :=
  some remote ∈ (manager.getListenerSet userId listenType).map InnerListener.asObject

/-- The remote object has a death recipient. -/
def Watched (manager : InnerListenerManager) (remote : RemoteObject) : Prop :=
  some remote ∈ manager.deathRecipientMap.map fun entry => entry.listener.asObject

instance (manager : InnerListenerManager) (remote : RemoteObject) (listenType : ListenType)
    (userId : UserId) : Decidable (manager.Registered remote listenType userId) :=
  inferInstanceAs (Decidable (_ ∈ _))

instance (manager : InnerListenerManager) (remote : RemoteObject) :
    Decidable (manager.Watched remote) :=
  inferInstanceAs (Decidable (_ ∈ _))

/-- Neither a set nor the table of recipients holds a remote object twice. -/
structure WellFormed (manager : InnerListenerManager) : Prop where
  sets : ∀ userId listenType,
    KeyedList.Distinct InnerListener.asObject (manager.getListenerSet userId listenType)
  records : KeyedList.Distinct (fun entry : DeathRecord => entry.listener.asObject)
    manager.deathRecipientMap

section Watched

variable {manager : InnerListenerManager}

theorem not_watched_iff (remote : RemoteObject) :
    ¬ manager.Watched remote ↔
      ∀ entry ∈ manager.deathRecipientMap, entry.listener.asObject ≠ some remote := by
  simp [Watched]

/-- The search for a recipient fails exactly if there is none. -/
theorem find_recipient_eq_none {remote : RemoteObject} :
    manager.deathRecipientMap.find? (fun entry => finder (some remote) entry.listener) = none ↔
      ¬ manager.Watched remote := by
  rw [not_watched_iff, List.find?_eq_none]
  simp [finder]

theorem find_recipient_eq_some {remote : RemoteObject} {found : DeathRecord}
    (hfound : manager.deathRecipientMap.find?
      (fun entry => finder (some remote) entry.listener) = some found) :
    found ∈ manager.deathRecipientMap ∧ found.listener.asObject = some remote := by
  refine ⟨List.mem_of_find?_eq_some hfound, ?_⟩
  simpa [finder] using List.find?_some hfound

end Watched

section DeathRecipients

variable (manager : InnerListenerManager) (attaches : Bool) (listenType : ListenType)
  (listener : InnerListener)

/-- What adding a recipient can do: a remote object is dead, is watched already,
accepts the recipient or refuses it. -/
theorem addDeathRecipient_cases :
    (listener.asObject = none ∧
      manager.addDeathRecipient attaches listenType listener = (.nullptr, manager)) ∨
    ∃ obj, listener.asObject = some obj ∧
      ((manager.Watched obj ∧
          manager.addDeathRecipient attaches listenType listener = (.ok, manager)) ∨
        (¬ manager.Watched obj ∧ attaches = true ∧
          manager.addDeathRecipient attaches listenType listener = (.ok, { manager with
            deathRecipientMap := manager.deathRecipientMap ++
              [⟨listener, listenType, manager.nextRecipient⟩]
            attached := manager.attached ++ [(obj, manager.nextRecipient)]
            nextRecipient := manager.nextRecipient + 1 })) ∨
        (¬ manager.Watched obj ∧ attaches = false ∧
          manager.addDeathRecipient attaches listenType listener = (.nullptr, manager))) := by
  unfold addDeathRecipient
  cases hlive : listener.asObject with
  | none => exact Or.inl ⟨rfl, rfl⟩
  | some obj =>
      have hfound : manager.deathRecipientMap.any (fun entry => finder (some obj) entry.listener) =
          true ↔ manager.Watched obj := KeyedList.any_key_iff
      refine Or.inr ⟨obj, rfl, ?_⟩
      by_cases hwatched : manager.Watched obj
      · exact Or.inl ⟨hwatched, if_pos (hfound.mpr hwatched)⟩
      · refine Or.inr ?_
        dsimp only
        rw [if_neg (mt hfound.mp hwatched)]
        cases attaches with
        | false => exact Or.inr ⟨hwatched, rfl, rfl⟩
        | true => exact Or.inl ⟨hwatched, rfl, rfl⟩

@[simp] theorem addDeathRecipient_innerListenMap :
    (manager.addDeathRecipient attaches listenType listener).2.innerListenMap =
      manager.innerListenMap := by
  rcases manager.addDeathRecipient_cases attaches listenType listener with ⟨-, heq⟩ |
    ⟨obj, -, ⟨-, heq⟩ | ⟨-, -, heq⟩ | ⟨-, -, heq⟩⟩ <;> rw [heq]

@[simp] theorem removeDeathRecipient_innerListenMap :
    (manager.removeDeathRecipient listener).2.innerListenMap = manager.innerListenMap := by
  unfold removeDeathRecipient
  split
  · rfl
  · split <;> rfl

theorem addDeathRecipient_distinct (hformed : manager.WellFormed) :
    KeyedList.Distinct (fun entry : DeathRecord => entry.listener.asObject)
      (manager.addDeathRecipient attaches listenType listener).2.deathRecipientMap := by
  rcases manager.addDeathRecipient_cases attaches listenType listener with ⟨-, heq⟩ |
    ⟨obj, hlive, ⟨-, heq⟩ | ⟨hunwatched, -, heq⟩ | ⟨-, -, heq⟩⟩
  · exact heq ▸ hformed.records
  · exact heq ▸ hformed.records
  · have hinserted := KeyedList.distinct_insertAbsent
      (⟨listener, listenType, manager.nextRecipient⟩ : DeathRecord) hformed.records
    have hfresh : listener.asObject ∉
        manager.deathRecipientMap.map fun entry => entry.listener.asObject := by
      rw [hlive]
      exact hunwatched
    unfold KeyedList.insertAbsent at hinserted
    rw [if_neg (mt KeyedList.any_key_iff.mp hfresh)] at hinserted
    exact heq ▸ hinserted
  · exact heq ▸ hformed.records

/-- Adding a recipient succeeds exactly for a live remote that is watched
already or accepts the recipient, and then the remote is watched. -/
theorem addDeathRecipient_result :
    (manager.addDeathRecipient attaches listenType listener).1 = .ok ↔
      ∃ remote, listener.asObject = some remote ∧ (manager.Watched remote ∨ attaches = true) := by
  rcases manager.addDeathRecipient_cases attaches listenType listener with ⟨hdead, heq⟩ |
    ⟨obj, hlive, ⟨hwatched, heq⟩ | ⟨-, hattaches, heq⟩ | ⟨hunwatched, hrefuses, heq⟩⟩ <;> rw [heq]
  · simp [hdead]
  · exact iff_of_true rfl ⟨obj, hlive, Or.inl hwatched⟩
  · exact iff_of_true rfl ⟨obj, hlive, Or.inr hattaches⟩
  · simp [hlive, hunwatched, hrefuses]

theorem watched_addDeathRecipient (remote : RemoteObject) :
    (manager.addDeathRecipient attaches listenType listener).2.Watched remote ↔
      manager.Watched remote ∨ (listener.asObject = some remote ∧ attaches = true) := by
  rcases manager.addDeathRecipient_cases attaches listenType listener with ⟨hdead, heq⟩ |
    ⟨obj, hlive, ⟨hwatched, heq⟩ | ⟨-, hattaches, heq⟩ | ⟨-, hrefuses, heq⟩⟩ <;> rw [heq]
  · simp [hdead]
  · refine (or_iff_left_of_imp ?_).symm
    rintro ⟨hremote, -⟩
    exact Option.some.inj (hlive.symm.trans hremote) ▸ hwatched
  · simp [Watched, hlive, hattaches, eq_comm]
  · simp [hrefuses]

theorem removeDeathRecipient_result (remote : RemoteObject)
    (hlive : listener.asObject = some remote) :
    (manager.removeDeathRecipient listener).1 = .ok := by
  unfold removeDeathRecipient
  rw [hlive]
  dsimp only
  split <;> rfl

theorem removeDeathRecipient_distinct (hformed : manager.WellFormed) :
    KeyedList.Distinct (fun entry : DeathRecord => entry.listener.asObject)
      (manager.removeDeathRecipient listener).2.deathRecipientMap := by
  unfold removeDeathRecipient
  split
  · exact hformed.records
  · next obj _ =>
      split
      · exact hformed.records
      · exact KeyedList.distinct_eraseP (some obj) hformed.records

theorem watched_removeDeathRecipient (hformed : manager.WellFormed) (gone remote : RemoteObject)
    (hlive : listener.asObject = some gone) :
    (manager.removeDeathRecipient listener).2.Watched remote ↔
      manager.Watched remote ∧ remote ≠ gone := by
  unfold removeDeathRecipient
  rw [hlive]
  dsimp only
  split
  · next hnone =>
      refine ⟨fun hwatched => ⟨hwatched, ?_⟩, And.left⟩
      rintro rfl
      exact find_recipient_eq_none.mp hnone hwatched
  · have herased := KeyedList.mem_keys_eraseP (some gone) hformed.records (some remote)
    simpa [Watched, finder] using herased

end DeathRecipients

section ListenerSets

variable (manager : InnerListenerManager) (userId other : UserId)
  (listenType otherType : ListenType) (listener : InnerListener)

theorem getListenerSet_addInnerListener :
    (manager.addInnerListener userId listenType listener).getListenerSet other otherType =
      if otherType = listenType ∧ other = userId then
        KeyedList.insertAbsent InnerListener.asObject listener
          (manager.getListenerSet userId listenType)
      else manager.getListenerSet other otherType := by
  unfold addInnerListener getListenerSet
  dsimp only
  by_cases htype : otherType = listenType
  · subst htype
    by_cases huser : other = userId
    · subst huser
      cases manager.innerListenMap[otherType]? <;> simp [KeyedList.insertAbsent, finder]
    · cases manager.innerListenMap[otherType]? <;>
        simp [huser, Std.TreeMap.getElem?_insert, Ne.symm huser]
  · simp [Std.TreeMap.getElem?_insert, htype, Ne.symm htype]

/-- The account whose set the loop of `RemoveInnerListener` changes: the least
one that holds the remote object. -/
def firstHolder (remoteObject : Option RemoteObject) (listenType : ListenType)
    (manager : InnerListenerManager) : Option UserId :=
  (manager.innerListenMap[listenType]?).bind fun byUser =>
    byUser.keys.find? fun userId =>
      ((byUser[userId]?).getD []).any (finder remoteObject)

theorem eraseFirst_get (remoteObject : Option RemoteObject) (userIds : List UserId)
    (byUser : Std.TreeMap UserId (List InnerListener)) :
    ((eraseFirst remoteObject userIds byUser)[other]?).getD [] =
      if userIds.find? (fun userId => ((byUser[userId]?).getD []).any (finder remoteObject)) =
          some other then
        ((byUser[other]?).getD []).eraseP (finder remoteObject)
      else (byUser[other]?).getD [] := by
  induction userIds with
  | nil => simp [eraseFirst]
  | cons first rest ih =>
      unfold eraseFirst
      dsimp only
      by_cases hholds : ((byUser[first]?).getD []).any (finder remoteObject) = true
      · rw [if_pos hholds]
        simp only [List.find?_cons, hholds]
        by_cases hfirst : first = other
        · subst hfirst
          simp
        · simp [Std.TreeMap.getElem?_insert, hfirst]
      · rw [if_neg hholds, ih]
        simp only [List.find?_cons, hholds]

theorem getListenerSet_removeInnerListener :
    (manager.removeInnerListener listenType listener).getListenerSet other otherType =
      if otherType = listenType ∧ manager.firstHolder listener.asObject listenType = some other then
        (manager.getListenerSet other listenType).eraseP (finder listener.asObject)
      else manager.getListenerSet other otherType := by
  unfold removeInnerListener firstHolder getListenerSet
  cases hbyUser : manager.innerListenMap[listenType]? with
  | none => simp
  | some byUser =>
      by_cases htype : otherType = listenType
      · subst htype
        simp [hbyUser, eraseFirst_get]
      · simp [Std.TreeMap.getElem?_insert, htype, Ne.symm htype]

theorem registered_iff_any (remote : RemoteObject) :
    manager.Registered remote listenType userId ↔
      (manager.getListenerSet userId listenType).any (finder (some remote)) = true :=
  KeyedList.any_key_iff.symm

theorem firstHolder_registered {remote : RemoteObject} {userId : UserId}
    (hfirst : manager.firstHolder (some remote) listenType = some userId) :
    manager.Registered remote listenType userId := by
  rw [registered_iff_any]
  unfold firstHolder at hfirst
  unfold getListenerSet
  cases hbyUser : manager.innerListenMap[listenType]? with
  | none => simp [hbyUser] at hfirst
  | some byUser =>
      rw [hbyUser, Option.bind_some] at hfirst
      simpa using List.find?_some hfirst

theorem firstHolder_isSome {remote : RemoteObject} {userId : UserId}
    (hregistered : manager.Registered remote listenType userId) :
    ∃ first, manager.firstHolder (some remote) listenType = some first := by
  rw [registered_iff_any] at hregistered
  unfold getListenerSet at hregistered
  unfold firstHolder
  cases hbyUser : manager.innerListenMap[listenType]? with
  | none => simp [hbyUser] at hregistered
  | some byUser =>
      rw [hbyUser] at hregistered
      have hholds : ((byUser[userId]?).getD []).any (finder (some remote)) = true := by
        simpa using hregistered
      have hkey : userId ∈ byUser.keys := by
        rw [Std.TreeMap.mem_keys, Std.TreeMap.mem_iff_isSome_getElem?]
        cases hset : byUser[userId]? with
        | none => simp [hset] at hholds
        | some listenSet => rfl
      cases hfind : byUser.keys.find? fun userId =>
          ((byUser[userId]?).getD []).any (finder (some remote)) with
      | none => exact absurd hholds (List.find?_eq_none.mp hfind userId hkey)
      | some first => exact ⟨first, by simp [hfind]⟩

end ListenerSets

end Screenlock.InnerListenerManager
