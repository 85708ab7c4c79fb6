import Screenlock.InnerListener.Coherence

/-! # The death of a listener's process

A remote object that dies tells every recipient still attached to it. There is
one, or none: the attached recipients are those of the recipient table. The
cleanup it starts acts on one type and one account, those it finds first.
-/

namespace Screenlock.InnerListenerManager

open Foundation

/-- The remote object dies: each recipient attached to it at that time is told once. -/
def remoteDies (remote : RemoteObject) (manager : InnerListenerManager) : InnerListenerManager :=
  (manager.attached.filter fun entry => entry.1 = remote).foldl
    (fun current _ => current.onRemoteDied (some remote)) manager

/-- The recipients attached to remote objects are those on record. -/
structure Attended (manager : InnerListenerManager) : Prop where
  recorded : ∀ remote recipient, (remote, recipient) ∈ manager.attached ↔
    ∃ entry ∈ manager.deathRecipientMap,
      entry.listener.asObject = some remote ∧ entry.recipient = recipient
  once : manager.attached.Nodup

section Recipients

variable {manager : InnerListenerManager}

theorem entry_unique (hformed : manager.WellFormed) {first second : DeathRecord}
    (hfirst : first ∈ manager.deathRecipientMap) (hsecond : second ∈ manager.deathRecipientMap)
    (hsame : first.listener.asObject = second.listener.asObject) : first = second :=
  List.inj_on_of_nodup_map hformed.records hfirst hsecond hsame

theorem mem_deathRecipientMap_removeDeathRecipient (hformed : manager.WellFormed)
    (listener : InnerListener) {gone : RemoteObject} (hlive : listener.asObject = some gone)
    (entry : DeathRecord) :
    entry ∈ (manager.removeDeathRecipient listener).2.deathRecipientMap ↔
      entry ∈ manager.deathRecipientMap ∧ entry.listener.asObject ≠ some gone := by
  unfold removeDeathRecipient
  rw [hlive]
  dsimp only
  split
  · next hnone =>
      refine ⟨fun hentry => ⟨hentry, ?_⟩, And.left⟩
      exact (not_watched_iff gone).mp (find_recipient_eq_none.mp hnone) entry hentry
  · exact KeyedList.mem_eraseP_iff (some gone) hformed.records entry

theorem mem_attached_removeDeathRecipient (hformed : manager.WellFormed)
    (hattended : manager.Attended) (listener : InnerListener) {gone : RemoteObject}
    (hlive : listener.asObject = some gone) (pair : RemoteObject × DeathRecipient) :
    pair ∈ (manager.removeDeathRecipient listener).2.attached ↔
      pair ∈ manager.attached ∧ pair.1 ≠ gone := by
  obtain ⟨remote, recipient⟩ := pair
  unfold removeDeathRecipient
  rw [hlive]
  dsimp only
  split
  · next hnone =>
      refine ⟨fun hpair => ⟨hpair, ?_⟩, And.left⟩
      rintro rfl
      obtain ⟨entry, hentry, hobj, _⟩ := (hattended.recorded _ _).mp hpair
      exact (not_watched_iff remote).mp (find_recipient_eq_none.mp hnone) entry hentry hobj
  · next found hfound =>
      obtain ⟨hentry, hobj⟩ := find_recipient_eq_some hfound
      simp only [List.mem_filter, decide_eq_true_eq, ne_eq, Prod.mk.injEq, not_and]
      constructor
      · rintro ⟨hpair, hother⟩
        refine ⟨hpair, ?_⟩
        rintro rfl
        obtain ⟨entry, hmem, hsame, rfl⟩ := (hattended.recorded _ _).mp hpair
        rw [entry_unique hformed hmem hentry (hsame.trans hobj.symm)] at hother
        exact hother rfl rfl
      · rintro ⟨hpair, hother⟩
        exact ⟨hpair, fun heq => absurd heq hother⟩

theorem attended_addDeathRecipient (hattended : manager.Attended) (attaches : Bool)
    (listenType : ListenType) (listener : InnerListener) :
    (manager.addDeathRecipient attaches listenType listener).2.Attended := by
  rcases manager.addDeathRecipient_cases attaches listenType listener with ⟨-, heq⟩ |
    ⟨obj, hlive, ⟨-, heq⟩ | ⟨hunwatched, -, heq⟩ | ⟨-, -, heq⟩⟩ <;> rw [heq]
  · exact hattended
  · exact hattended
  · constructor
    · intro remote recipient
      simp only [List.mem_append, List.mem_singleton, Prod.mk.injEq, hattended.recorded]
      constructor
      · rintro (⟨entry, hentry, hsame⟩ | ⟨rfl, rfl⟩)
        · exact ⟨entry, Or.inl hentry, hsame⟩
        · exact ⟨_, Or.inr rfl, hlive, rfl⟩
      · rintro ⟨entry, hentry | rfl, hsame, rfl⟩
        · exact Or.inl ⟨entry, hentry, hsame, rfl⟩
        · exact Or.inr ⟨(Option.some.inj (hlive.symm.trans hsame)).symm, rfl⟩
    · refine List.nodup_append.mpr ⟨hattended.once, by simp, ?_⟩
      rintro ⟨remote, recipient⟩ hpair last hlast heq
      obtain ⟨entry, hentry, hsame, _⟩ := (hattended.recorded _ _).mp hpair
      rw [List.mem_singleton] at hlast
      obtain ⟨rfl, _⟩ := Prod.mk.inj (heq.trans hlast)
      exact (not_watched_iff remote).mp hunwatched entry hentry hsame
  · exact hattended

theorem attended_removeDeathRecipient (hformed : manager.WellFormed)
    (hattended : manager.Attended) (listener : InnerListener) :
    (manager.removeDeathRecipient listener).2.Attended := by
  cases hlive : listener.asObject with
  | none =>
      unfold removeDeathRecipient
      rw [hlive]
      exact hattended
  | some gone =>
      constructor
      · intro remote recipient
        rw [mem_attached_removeDeathRecipient hformed hattended listener hlive,
          hattended.recorded]
        simp only [mem_deathRecipientMap_removeDeathRecipient hformed listener hlive]
        constructor
        · rintro ⟨⟨entry, hentry, hsame, hrecipient⟩, hother⟩
          refine ⟨entry, ⟨hentry, fun hgone => hother ?_⟩, hsame, hrecipient⟩
          exact Option.some.inj (hsame.symm.trans hgone)
        · rintro ⟨entry, ⟨hentry, hgone⟩, hsame, hrecipient⟩
          exact ⟨⟨entry, hentry, hsame, hrecipient⟩, fun heq => hgone (heq ▸ hsame)⟩
      · unfold removeDeathRecipient
        rw [hlive]
        dsimp only
        split
        · exact hattended.once
        · exact hattended.once.filter _

theorem attended_unRegisterInnerListener (hformed : manager.WellFormed)
    (hattended : manager.Attended) (listenType : ListenType) (listener : Option InnerListener) :
    (manager.unRegisterInnerListener listenType listener).2.Attended := by
  unfold unRegisterInnerListener
  cases listener with
  | none => exact hattended
  | some listener =>
      have hremoved := attended_removeDeathRecipient hformed hattended listener
      dsimp only
      split
      · exact hremoved
      · refine ⟨fun remote recipient => ?_, ?_⟩
        · rw [removeInnerListener_deathRecipientMap, removeInnerListener_attached]
          exact hremoved.recorded remote recipient
        · rw [removeInnerListener_attached]
          exact hremoved.once

theorem attended_registerInnerListener (hattended : manager.Attended) (callingUser : UserId)
    (attaches : Bool) (userId : UserId) (listenType : ListenType)
    (listener : Option InnerListener) :
    (manager.registerInnerListener callingUser attaches userId listenType listener).2.Attended := by
  unfold registerInnerListener
  cases listener with
  | none => exact hattended
  | some listener =>
      have hadded := attended_addDeathRecipient hattended attaches listenType listener
      dsimp only
      split
      · exact hadded
      · exact ⟨hadded.recorded, hadded.once⟩

theorem attended_step (hformed : manager.WellFormed) (hattended : manager.Attended)
    (event : InnerListenerEvent) : (manager.step event).Attended := by
  cases event with
  | register callingUser attaches userId listenType listener =>
      exact attended_registerInnerListener hattended callingUser attaches userId listenType listener
  | unRegister listenType listener =>
      exact attended_unRegisterInnerListener hformed hattended listenType listener
  | remoteDied remote =>
      cases remote with
      | none => exact hattended
      | some gone =>
          rw [step, onRemoteDied_eq hformed]
          split
          · exact hattended
          · exact attended_unRegisterInnerListener hformed hattended _ _

theorem empty_attended : empty.Attended where
  recorded := by simp [empty]
  once := List.nodup_nil

theorem reachable_attended (hreach : machine.Reachable empty manager) : manager.Attended := by
  have hboth : manager.WellFormed ∧ manager.Attended := by
    refine @Machine.Reachable.invariant _ _ machine
      (fun manager => manager.WellFormed ∧ manager.Attended) _ _ hreach ?_
      ⟨empty_wellFormed, empty_attended⟩
    intro before event _ hheld
    exact ⟨step_wellFormed hheld.1 event, attended_step hheld.1 hheld.2 event⟩
  exact hboth.2

/-- A remote object has one recipient of this manager at most. -/
theorem attached_distinct (hformed : manager.WellFormed) (hattended : manager.Attended) :
    KeyedList.Distinct Prod.fst manager.attached := by
  refine List.Nodup.map_on ?_ hattended.once
  rintro ⟨remote, first⟩ hfirst ⟨other, second⟩ hsecond hsame
  obtain rfl : remote = other := hsame
  obtain ⟨one, hone, honeobj, rfl⟩ := (hattended.recorded _ _).mp hfirst
  obtain ⟨two, htwo, htwoobj, rfl⟩ := (hattended.recorded _ _).mp hsecond
  rw [entry_unique hformed hone htwo (honeobj.trans htwoobj.symm)]

theorem attached_iff_watched (hattended : manager.Attended) (remote : RemoteObject) :
    remote ∈ manager.attached.map Prod.fst ↔ manager.Watched remote := by
  constructor
  · intro hmem
    obtain ⟨⟨other, recipient⟩, hpair, rfl⟩ := List.mem_map.mp hmem
    obtain ⟨entry, hentry, hobj, -⟩ := (hattended.recorded _ _).mp hpair
    exact List.mem_map.mpr ⟨entry, hentry, hobj⟩
  · intro hwatched
    obtain ⟨entry, hentry, hobj⟩ := List.mem_map.mp hwatched
    have hpair := (hattended.recorded remote entry.recipient).mpr ⟨entry, hentry, hobj, rfl⟩
    exact List.mem_map.mpr ⟨_, hpair, rfl⟩

end Recipients

section Cleanup

variable {manager : InnerListenerManager}

/-- At most one recipient is attached to a remote object, so a death runs the cleanup once. -/
theorem remoteDies_eq (hformed : manager.WellFormed) (hattended : manager.Attended)
    (remote : RemoteObject) : manager.remoteDies remote = manager.onRemoteDied (some remote) := by
  have hcount := KeyedList.countP_key_le_one (attached_distinct hformed hattended) remote
  rw [List.countP_eq_length_filter] at hcount
  unfold remoteDies
  match hlist : manager.attached.filter (fun entry => decide (entry.1 = remote)) with
  | [] =>
      have hnone : ¬ manager.Watched remote := by
        rw [← attached_iff_watched hattended, ← KeyedList.countP_key_pos,
          List.countP_eq_length_filter, hlist]
        exact Nat.lt_irrefl 0
      rw [hlist, List.foldl_nil, onRemoteDied_eq hformed, find_recipient_eq_none.mpr hnone]
  | [_] => rw [hlist, List.foldl_cons, List.foldl_nil]
  | first :: second :: rest =>
      rw [hlist] at hcount
      simp at hcount

theorem mem_getListenerSet_unRegisterInnerListener (hformed : manager.WellFormed)
    (listenType : ListenType) (listener : InnerListener) {gone : RemoteObject}
    (hlive : listener.asObject = some gone) {other : InnerListener}
    (hother : other.asObject ≠ some gone) (kind : ListenType) (userId : UserId) :
    other ∈ (manager.unRegisterInnerListener listenType (some listener)).2.getListenerSet userId
        kind ↔ other ∈ manager.getListenerSet userId kind := by
  have hsame := manager.removeDeathRecipient_innerListenMap listener
  have hresult := manager.removeDeathRecipient_result listener gone hlive
  unfold unRegisterInnerListener
  dsimp only
  rw [if_neg (not_not.mpr hresult), getListenerSet_removeInnerListener, getListenerSet_congr hsame,
    getListenerSet_congr hsame, hlive]
  split
  · next hplace =>
      have herased := KeyedList.mem_eraseP_iff (some gone) (hformed.sets userId listenType) other
      rw [hplace.1]
      exact herased.trans (and_iff_left hother)
  · rfl

theorem mem_deathRecipientMap_unRegisterInnerListener (hformed : manager.WellFormed)
    (listenType : ListenType) (listener : InnerListener) {gone : RemoteObject}
    (hlive : listener.asObject = some gone) {entry : DeathRecord}
    (hother : entry.listener.asObject ≠ some gone) :
    entry ∈ (manager.unRegisterInnerListener listenType (some listener)).2.deathRecipientMap ↔
      entry ∈ manager.deathRecipientMap := by
  have hresult := manager.removeDeathRecipient_result listener gone hlive
  unfold unRegisterInnerListener
  dsimp only
  rw [if_neg (not_not.mpr hresult), removeInnerListener_deathRecipientMap,
    mem_deathRecipientMap_removeDeathRecipient hformed listener hlive]
  exact and_iff_left hother

/-- What a death must leave behind: nothing of the remote object, and all of the others. -/
def ForgetsDead (manager : InnerListenerManager) (remote : RemoteObject) : Prop :=
  let after := manager.remoteDies remote
  (∀ listenType userId, ¬ after.Registered remote listenType userId) ∧
    ¬ after.Watched remote ∧
    (∀ listener listenType userId, listener.asObject ≠ some remote →
      (listener ∈ after.getListenerSet userId listenType ↔
        listener ∈ manager.getListenerSet userId listenType)) ∧
    (∀ entry, entry.listener.asObject ≠ some remote →
      (entry ∈ after.deathRecipientMap ↔ entry ∈ manager.deathRecipientMap))

/-- The remote object stands for one account at most, under the type its death
recipient was recorded with. -/
def StandsAsRecorded (manager : InnerListenerManager) (remote : RemoteObject) : Prop :=
  ∀ listenType userId, manager.Registered remote listenType userId →
    (∃ entry ∈ manager.deathRecipientMap,
      entry.listener.asObject = some remote ∧ entry.listenType = listenType) ∧
    ∀ other, manager.Registered remote listenType other → other = userId

section Recipient

variable (hformed : manager.WellFormed) (hattended : manager.Attended) {remote : RemoteObject}

include hformed hattended

/-- Without a recipient on record nothing is cleaned up. -/
theorem forgetsDead_iff_of_none
    (hfound : (manager.deathRecipientMap.find? fun entry =>
      finder (some remote) entry.listener) = none) :
    manager.ForgetsDead remote ↔ manager.StandsAsRecorded remote := by
  have hnone := (not_watched_iff remote).mp (find_recipient_eq_none.mp hfound)
  unfold ForgetsDead
  rw [remoteDies_eq hformed hattended, onRemoteDied_eq hformed, hfound]
  constructor
  · rintro ⟨hgone, _⟩ listenType userId hregistered
    exact absurd hregistered (hgone listenType userId)
  · intro hstands
    refine ⟨fun listenType userId hregistered => ?_, (not_watched_iff remote).mpr hnone,
      fun _ _ _ _ => Iff.rfl, fun _ _ => Iff.rfl⟩
    obtain ⟨⟨entry, hentry, hobj, _⟩, _⟩ := hstands listenType userId hregistered
    exact hnone entry hentry hobj

/-- The recipient on record unregisters its listener once, under its own type. -/
theorem forgetsDead_iff_of_some {found : DeathRecord}
    (hfound : (manager.deathRecipientMap.find? fun entry =>
      finder (some remote) entry.listener) = some found) :
    manager.ForgetsDead remote ↔ manager.StandsAsRecorded remote := by
  obtain ⟨hmem, hlive⟩ := find_recipient_eq_some hfound
  have hafter := registered_unRegisterInnerListener hformed found.listenType found.listener hlive
  unfold ForgetsDead
  rw [remoteDies_eq hformed hattended, onRemoteDied_eq hformed, hfound]
  dsimp only
  constructor
  · rintro ⟨hgone, _⟩ listenType userId hregistered
    -- what is gone afterwards stood in the one place the recipient empties
    have hplace : ∀ kind account, manager.Registered remote kind account →
        kind = found.listenType ∧
          manager.firstHolder (some remote) found.listenType = some account := by
      intro kind account hheld
      by_contra hkept
      exact hgone kind account ((hafter _ _ _).mpr ⟨hheld, fun hall => hkept hall.2⟩)
    obtain ⟨rfl, hfirst⟩ := hplace listenType userId hregistered
    refine ⟨⟨found, hmem, hlive, rfl⟩, fun other hother => ?_⟩
    exact Option.some.inj ((hplace _ other hother).2.symm.trans hfirst)
  · intro hstands
    refine ⟨fun listenType userId hregistered => ?_, ?_,
      fun listener listenType userId hother =>
        mem_getListenerSet_unRegisterInnerListener hformed _ _ hlive hother listenType userId,
      fun entry hother =>
        mem_deathRecipientMap_unRegisterInnerListener hformed _ _ hlive hother⟩
    · obtain ⟨hheld, hkept⟩ := (hafter _ _ _).mp hregistered
      obtain ⟨⟨entry, hentry, hobj, rfl⟩, honly⟩ := hstands listenType userId hheld
      obtain rfl := entry_unique hformed hentry hmem (hobj.trans hlive.symm)
      obtain ⟨first, hfirst⟩ := firstHolder_isSome manager entry.listenType hheld
      have hholder := firstHolder_registered manager entry.listenType hfirst
      exact hkept ⟨rfl, rfl, honly first hholder ▸ hfirst⟩
    · rw [watched_unRegisterInnerListener hformed _ _ hlive]
      exact fun hwatched => hwatched.2 rfl

end Recipient

/-- A death cleans up after a remote object exactly if the object stands in no
set beside the one its recipient leads to. -/
theorem forgetsDead_iff (hreach : machine.Reachable empty manager) (remote : RemoteObject) :
    manager.ForgetsDead remote ↔ manager.StandsAsRecorded remote := by
  have hformed := reachable_wellFormed hreach
  have hattended := reachable_attended hreach
  cases hfound : manager.deathRecipientMap.find? fun entry =>
      finder (some remote) entry.listener with
  | none => exact forgetsDead_iff_of_none hformed hattended hfound
  | some found => exact forgetsDead_iff_of_some hformed hattended hfound

theorem forgetsDead_iff_under_one_type :
    (machine.run empty
      [.register 100 true 100 ListenType.deviceLock (some ⟨1, some 7⟩)]).ForgetsDead 7 ↔
      (machine.run empty
        [.register 100 true 100 ListenType.deviceLock (some ⟨1, some 7⟩)]).StandsAsRecorded 7 :=
  forgetsDead_iff ⟨_, admits _ _, rfl⟩ 7

/-- Registered under both types, a dead remote object stays under the second one. -/
theorem not_forgetsDead_under_second_type :
    machine.Reachable empty (machine.run empty
      [.register 100 true 100 ListenType.strongAuth (some ⟨1, some 7⟩),
        .register 100 true 100 ListenType.deviceLock (some ⟨1, some 7⟩)]) ∧
      ¬ (machine.run empty
        [.register 100 true 100 ListenType.strongAuth (some ⟨1, some 7⟩),
          .register 100 true 100 ListenType.deviceLock (some ⟨1, some 7⟩)]).ForgetsDead 7 := by
  refine ⟨⟨_, admits _ _, rfl⟩, ?_⟩
  rintro ⟨hgone, _⟩
  exact hgone ListenType.deviceLock 100 (by decide)

end Cleanup

end Screenlock.InnerListenerManager
