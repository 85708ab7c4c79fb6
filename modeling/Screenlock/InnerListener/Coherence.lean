import Screenlock.InnerListener.Registry

/-! # When the two tables agree

A registration is keyed by type, account and remote, a death recipient by
remote alone, and unregistering names a type but no account. Both tables stay
well formed in every run. They stay in agreement exactly while a remote is
unregistered, or dies, in its only place.
-/

namespace Screenlock.InnerListenerManager

open Foundation

section Operations

variable {manager : InnerListenerManager} (hformed : manager.WellFormed)

/-- Registration succeeds for a live remote that has a recipient or accepts one. -/
def Accepts (manager : InnerListenerManager) (attaches : Bool) (listener : InnerListener)
    (remote : RemoteObject) : Prop :=
  listener.asObject = some remote ∧ (manager.Watched remote ∨ attaches = true)

theorem getListenerSet_congr {first second : InnerListenerManager}
    (hsame : first.innerListenMap = second.innerListenMap) (userId : UserId)
    (listenType : ListenType) :
    first.getListenerSet userId listenType = second.getListenerSet userId listenType := by
  unfold getListenerSet
  rw [hsame]

theorem registered_congr {first second : InnerListenerManager}
    (hsame : first.innerListenMap = second.innerListenMap) (remote : RemoteObject)
    (listenType : ListenType) (userId : UserId) :
    first.Registered remote listenType userId ↔ second.Registered remote listenType userId := by
  unfold Registered
  rw [getListenerSet_congr hsame]

theorem watched_congr {first second : InnerListenerManager}
    (hsame : first.deathRecipientMap = second.deathRecipientMap) (remote : RemoteObject) :
    first.Watched remote ↔ second.Watched remote := by
  unfold Watched
  rw [hsame]

@[simp] theorem removeInnerListener_deathRecipientMap (manager : InnerListenerManager)
    (listenType : ListenType) (listener : InnerListener) :
    (manager.removeInnerListener listenType listener).deathRecipientMap =
      manager.deathRecipientMap := by
  unfold removeInnerListener
  split <;> rfl

@[simp] theorem removeInnerListener_attached (manager : InnerListenerManager)
    (listenType : ListenType) (listener : InnerListener) :
    (manager.removeInnerListener listenType listener).attached = manager.attached := by
  unfold removeInnerListener
  split <;> rfl

include hformed

theorem registerInnerListener_wellFormed (callingUser : UserId) (attaches : Bool) (userId : UserId)
    (listenType : ListenType) (listener : Option InnerListener) :
    (manager.registerInnerListener callingUser attaches userId listenType
      listener).2.WellFormed := by
  unfold registerInnerListener
  cases listener with
  | none => exact hformed
  | some listener =>
      have hsets : ∀ user kind, KeyedList.Distinct InnerListener.asObject
          ((manager.addDeathRecipient attaches listenType listener).2.getListenerSet user
            kind) := by
        intro user kind
        rw [getListenerSet_congr (manager.addDeathRecipient_innerListenMap attaches listenType
          listener)]
        exact hformed.sets user kind
      have hrecords := manager.addDeathRecipient_distinct attaches listenType listener hformed
      dsimp only
      split
      · exact ⟨hsets, hrecords⟩
      · refine ⟨fun user kind => ?_, hrecords⟩
        rw [getListenerSet_addInnerListener]
        split
        · exact KeyedList.distinct_insertAbsent listener (hsets _ _)
        · exact hsets _ _

theorem unRegisterInnerListener_wellFormed (listenType : ListenType)
    (listener : Option InnerListener) :
    (manager.unRegisterInnerListener listenType listener).2.WellFormed := by
  unfold unRegisterInnerListener
  cases listener with
  | none => exact hformed
  | some listener =>
      have hsets : ∀ user kind, KeyedList.Distinct InnerListener.asObject
          ((manager.removeDeathRecipient listener).2.getListenerSet user kind) := by
        intro user kind
        rw [getListenerSet_congr (manager.removeDeathRecipient_innerListenMap listener)]
        exact hformed.sets user kind
      have hrecords := manager.removeDeathRecipient_distinct listener hformed
      dsimp only
      split
      · exact ⟨hsets, hrecords⟩
      · refine ⟨fun user kind => ?_, ?_⟩
        · rw [getListenerSet_removeInnerListener]
          split
          · exact KeyedList.distinct_eraseP _ (hsets _ _)
          · exact hsets _ _
        · rw [removeInnerListener_deathRecipientMap]
          exact hrecords

/-- A death unregisters the one listener recorded for the remote, under the
type of its first registration. -/
theorem onRemoteDied_eq (remote : RemoteObject) :
    manager.onRemoteDied (some remote) =
      match manager.deathRecipientMap.find? (fun entry => finder (some remote) entry.listener) with
      | none => manager
      | some entry =>
          (manager.unRegisterInnerListener entry.listenType (some entry.listener)).2 := by
  have hwalk : ∀ (entries : List DeathRecord) (current : InnerListenerManager),
      KeyedList.Distinct (fun entry : DeathRecord => entry.listener.asObject) entries →
      entries.foldl (fun current entry =>
          if entry.listener.asObject = some remote then
            (current.unRegisterInnerListener entry.listenType (some entry.listener)).2
          else current) current =
        match entries.find? (fun entry => finder (some remote) entry.listener) with
        | none => current
        | some entry =>
            (current.unRegisterInnerListener entry.listenType (some entry.listener)).2 := by
    intro entries
    induction entries with
    | nil => intro current _; rfl
    | cons first rest ih =>
        intro current hdistinct
        obtain ⟨hfresh, hrest⟩ := List.nodup_cons.mp hdistinct
        by_cases hfirst : first.listener.asObject = some remote
        · have hnone : rest.find? (fun entry => finder (some remote) entry.listener) = none := by
            refine List.find?_eq_none.mpr fun entry hentry hfound => hfresh ?_
            exact List.mem_map.mpr ⟨entry, hentry, (of_decide_eq_true hfound).trans hfirst.symm⟩
          rw [List.foldl_cons, if_pos hfirst, ih _ hrest, hnone]
          simp [finder, hfirst]
        · rw [List.foldl_cons, if_neg hfirst, ih _ hrest]
          simp [finder, hfirst]
  exact hwalk manager.deathRecipientMap manager hformed.records

theorem onRemoteDied_wellFormed (remote : Option RemoteObject) :
    (manager.onRemoteDied remote).WellFormed := by
  cases remote with
  | none => exact hformed
  | some remote =>
      rw [onRemoteDied_eq hformed]
      split
      · exact hformed
      · exact unRegisterInnerListener_wellFormed hformed _ _

theorem step_wellFormed (event : InnerListenerEvent) : (manager.step event).WellFormed := by
  cases event with
  | register callingUser attaches userId listenType listener =>
      exact registerInnerListener_wellFormed hformed callingUser attaches userId listenType listener
  | unRegister listenType listener =>
      exact unRegisterInnerListener_wellFormed hformed listenType listener
  | remoteDied remote => exact onRemoteDied_wellFormed hformed remote

omit hformed in
theorem registerInnerListener_ok_iff_accepts (callingUser : UserId) (attaches : Bool)
    (account : UserId) (listenType : ListenType) (listener : InnerListener) :
    (manager.registerInnerListener callingUser attaches account listenType
        (some listener)).1 = .ok ↔
      ∃ remote, manager.Accepts attaches listener remote := by
  have hresult := manager.addDeathRecipient_result attaches listenType listener
  unfold registerInnerListener
  dsimp only
  split
  · next hrefused => exact iff_of_false hrefused (mt hresult.mpr hrefused)
  · next haccepted => exact iff_of_true rfl (hresult.mp (not_not.mp haccepted))

omit hformed in
theorem registered_registerInnerListener (callingUser : UserId) (attaches : Bool)
    (account : UserId) (listenType : ListenType) (listener : InnerListener)
    (remote : RemoteObject) (kind : ListenType) (userId : UserId) :
    (manager.registerInnerListener callingUser attaches account listenType
        (some listener)).2.Registered remote kind userId ↔
      manager.Registered remote kind userId ∨
        (manager.Accepts attaches listener remote ∧ kind = listenType ∧
          userId = listenedAccount callingUser account) := by
  have hsame := manager.addDeathRecipient_innerListenMap attaches listenType listener
  have hresult := manager.addDeathRecipient_result attaches listenType listener
  unfold registerInnerListener Accepts
  dsimp only
  split
  · next hrefused =>
      rw [registered_congr hsame]
      constructor
      · exact Or.inl
      · rintro (hold | ⟨haccepts, _⟩)
        · exact hold
        · exact absurd (hresult.mpr ⟨remote, haccepts⟩) hrefused
  · next haccepted =>
      obtain ⟨obj, hlive, hwatch⟩ := hresult.mp (not_not.mp haccepted)
      unfold Registered
      rw [getListenerSet_addInnerListener, getListenerSet_congr hsame, getListenerSet_congr hsame]
      split
      · next hplace =>
          obtain ⟨rfl, rfl⟩ := hplace
          rw [KeyedList.mem_keys_insertAbsent, hlive]
          constructor
          · rintro (hold | heq)
            · exact Or.inl hold
            · obtain rfl := Option.some.inj heq
              exact Or.inr ⟨⟨rfl, hwatch⟩, rfl, rfl⟩
          · rintro (hold | ⟨⟨heq, _⟩, _⟩)
            · exact Or.inl hold
            · exact Or.inr heq.symm
      · next hplace =>
          constructor
          · exact Or.inl
          · rintro (hold | ⟨_, hsameplace⟩)
            · exact hold
            · exact absurd hsameplace hplace

omit hformed in
theorem watched_registerInnerListener (callingUser : UserId) (attaches : Bool)
    (account : UserId) (listenType : ListenType) (listener : InnerListener)
    (remote : RemoteObject) :
    (manager.registerInnerListener callingUser attaches account listenType
        (some listener)).2.Watched remote ↔
      manager.Watched remote ∨ (listener.asObject = some remote ∧ attaches = true) := by
  rw [← manager.watched_addDeathRecipient attaches listenType listener remote]
  unfold registerInnerListener
  dsimp only
  split <;> rfl

theorem registered_unRegisterInnerListener (listenType : ListenType) (listener : InnerListener)
    {gone : RemoteObject} (hlive : listener.asObject = some gone)
    (remote : RemoteObject) (kind : ListenType) (userId : UserId) :
    (manager.unRegisterInnerListener listenType (some listener)).2.Registered remote kind userId ↔
      manager.Registered remote kind userId ∧
        ¬ (remote = gone ∧ kind = listenType ∧
          manager.firstHolder (some gone) listenType = some userId) := by
  have hsame := manager.removeDeathRecipient_innerListenMap listener
  have hresult := manager.removeDeathRecipient_result listener gone hlive
  have hholder : (manager.removeDeathRecipient listener).2.firstHolder (some gone) listenType =
      manager.firstHolder (some gone) listenType := by
    unfold firstHolder
    rw [hsame]
  unfold unRegisterInnerListener
  dsimp only
  rw [if_neg (not_not.mpr hresult)]
  unfold Registered
  rw [getListenerSet_removeInnerListener, getListenerSet_congr hsame, getListenerSet_congr hsame,
    hlive, hholder]
  split
  · next hplace =>
      obtain ⟨rfl, hfirst⟩ := hplace
      have herased := KeyedList.mem_keys_eraseP (some gone) (hformed.sets userId kind)
        (some remote)
      have hother : (some remote ≠ some gone) ↔ ¬ (remote = gone ∧ kind = kind ∧
          manager.firstHolder (some gone) kind = some userId) := by
        simp [hfirst]
      rw [← hother]
      exact herased
  · next hplace =>
      exact ⟨fun hold => ⟨hold, fun hall => hplace hall.2⟩, And.left⟩

theorem watched_unRegisterInnerListener (listenType : ListenType) (listener : InnerListener)
    {gone : RemoteObject} (hlive : listener.asObject = some gone) (remote : RemoteObject) :
    (manager.unRegisterInnerListener listenType (some listener)).2.Watched remote ↔
      manager.Watched remote ∧ remote ≠ gone := by
  rw [← manager.watched_removeDeathRecipient listener hformed gone remote hlive]
  have hresult := manager.removeDeathRecipient_result listener gone hlive
  unfold unRegisterInnerListener
  dsimp only
  rw [if_neg (not_not.mpr hresult)]
  exact watched_congr (removeInnerListener_deathRecipientMap _ _ _) remote

end Operations

section Agreement

/-- Exactly the remotes that stand in some set have a death recipient. -/
def Coherent (manager : InnerListenerManager) : Prop :=
  ∀ remote, (∃ listenType userId, manager.Registered remote listenType userId) ↔
    manager.Watched remote

/-- The remote stands under no type but this one, and there for one account at most. -/
def Sole (manager : InnerListenerManager) (remote : RemoteObject) (listenType : ListenType) :
    Prop :=
  ∀ kind userId, manager.Registered remote kind userId →
    kind = listenType ∧ ∀ other, manager.Registered remote listenType other → other = userId

/-- A remote is unregistered, or dies, in its only place. A death acts under
the type its recipient was recorded with. -/
def InOnlyPlace (manager : InnerListenerManager) : InnerListenerEvent → Prop
  | .register .. => True
  | .unRegister listenType listener =>
      ∀ remote, listener.bind InnerListener.asObject = some remote → manager.Sole remote listenType
  | .remoteDied remote =>
      ∀ obj, remote = some obj → ∀ entry ∈ manager.deathRecipientMap,
        entry.listener.asObject = some obj → manager.Sole obj entry.listenType

variable {manager : InnerListenerManager}

theorem unRegisterInnerListener_dead (manager : InnerListenerManager)
    (listenType : ListenType) (listener : InnerListener)
    (hdead : listener.asObject = none) :
    (manager.unRegisterInnerListener listenType (some listener)).2 = manager := by
  simp [unRegisterInnerListener, removeDeathRecipient, hdead]

theorem coherent_unRegister (hformed : manager.WellFormed) (hcoherent : manager.Coherent)
    (listenType : ListenType) (listener : InnerListener) {gone : RemoteObject}
    (hlive : listener.asObject = some gone) :
    (manager.unRegisterInnerListener listenType (some listener)).2.Coherent ↔
      manager.Sole gone listenType := by
  constructor
  · intro hafter kind userId hregistered
    have hremoved : ∀ kind userId, manager.Registered gone kind userId →
        kind = listenType ∧ manager.firstHolder (some gone) listenType = some userId := by
      intro kind userId hold
      by_contra hkept
      have hstays := (registered_unRegisterInnerListener hformed listenType listener hlive
        gone kind userId).mpr ⟨hold, fun hall => hkept hall.2⟩
      have hwatched := (hafter gone).mp ⟨kind, userId, hstays⟩
      exact ((watched_unRegisterInnerListener hformed listenType listener hlive gone).mp
        hwatched).2 rfl
    obtain ⟨hkind, hfirst⟩ := hremoved kind userId hregistered
    refine ⟨hkind, fun other hother => ?_⟩
    have hsecond := (hremoved listenType other hother).2
    exact Option.some.inj (hsecond.symm.trans hfirst)
  · intro hsole remote
    rw [watched_unRegisterInnerListener hformed listenType listener hlive]
    simp only [registered_unRegisterInnerListener hformed listenType listener hlive]
    constructor
    · rintro ⟨kind, userId, hold, hkept⟩
      refine ⟨(hcoherent remote).mp ⟨kind, userId, hold⟩, ?_⟩
      rintro rfl
      obtain ⟨rfl, honly⟩ := hsole kind userId hold
      obtain ⟨first, hfirst⟩ := firstHolder_isSome manager kind hold
      have hheld := firstHolder_registered manager kind hfirst
      exact hkept ⟨rfl, rfl, honly first hheld ▸ hfirst⟩
    · rintro ⟨hwatched, hne⟩
      obtain ⟨kind, userId, hold⟩ := (hcoherent remote).mpr hwatched
      exact ⟨kind, userId, hold, fun hall => hne hall.1⟩

theorem coherent_register (hcoherent : manager.Coherent)
    (callingUser : UserId) (attaches : Bool) (account : UserId) (listenType : ListenType)
    (listener : Option InnerListener) :
    (manager.registerInnerListener callingUser attaches account listenType
      listener).2.Coherent := by
  cases listener with
  | none => exact hcoherent
  | some listener =>
      intro remote
      simp only [watched_registerInnerListener,
        registered_registerInnerListener callingUser attaches account listenType listener]
      constructor
      · rintro ⟨kind, userId, hold | ⟨⟨hlive, hwatched | hattached⟩, _⟩⟩
        · exact Or.inl ((hcoherent remote).mp ⟨kind, userId, hold⟩)
        · exact Or.inl hwatched
        · exact Or.inr ⟨hlive, hattached⟩
      · rintro (hwatched | ⟨hlive, hattached⟩)
        · obtain ⟨kind, userId, hold⟩ := (hcoherent remote).mpr hwatched
          exact ⟨kind, userId, Or.inl hold⟩
        · exact ⟨listenType, listenedAccount callingUser account,
            Or.inr ⟨⟨hlive, Or.inr hattached⟩, rfl, rfl⟩⟩

theorem coherent_step (hformed : manager.WellFormed) (hcoherent : manager.Coherent)
    (event : InnerListenerEvent) :
    (manager.step event).Coherent ↔ manager.InOnlyPlace event := by
  cases event with
  | register callingUser attaches account listenType listener =>
      exact iff_of_true (coherent_register hcoherent callingUser attaches account
        listenType listener) trivial
  | unRegister listenType listener =>
      cases listener with
      | none => exact iff_of_true hcoherent (by simp [InOnlyPlace])
      | some listener =>
          cases hlive : listener.asObject with
          | none =>
              -- without an object no account holds it and no recipient is found
              have hsame := manager.unRegisterInnerListener_dead listenType listener hlive
              refine iff_of_true ?_ (by simp [InOnlyPlace, hlive])
              rw [step, hsame]
              exact hcoherent
          | some gone =>
              rw [step, coherent_unRegister hformed hcoherent listenType listener hlive]
              simp [InOnlyPlace, hlive]
  | remoteDied remote =>
      cases remote with
      | none => exact iff_of_true hcoherent (by simp [InOnlyPlace])
      | some gone =>
          rw [step, onRemoteDied_eq hformed]
          split
          · next hnone =>
              refine iff_of_true hcoherent fun obj hobj entry hentry hlive => ?_
              obtain rfl := Option.some.inj hobj
              exact absurd hlive
                ((not_watched_iff gone).mp (find_recipient_eq_none.mp hnone) entry hentry)
          · next entry hfound =>
              obtain ⟨hentry, hlive⟩ := find_recipient_eq_some hfound
              rw [coherent_unRegister hformed hcoherent entry.listenType entry.listener hlive]
              constructor
              -- the search stops at the first recipient; there is only one of the object
              · intro hsole obj hobj other hother hsame
                obtain rfl := Option.some.inj hobj
                have heq := List.inj_on_of_nodup_map hformed.records hother hentry
                  (hsame.trans hlive.symm)
                rw [heq]
                exact hsole
              · intro hplace
                exact hplace gone rfl entry hentry hlive

end Agreement

section Runs

theorem admits (manager : InnerListenerManager) (events : List InnerListenerEvent) :
    machine.Admits manager events :=
  machine.admits_of_enabled (fun _ _ => trivial) manager events

theorem empty_wellFormed : empty.WellFormed where
  sets := by simp [KeyedList.Distinct, getListenerSet, empty]
  records := List.nodup_nil

theorem reachable_wellFormed {manager : InnerListenerManager}
    (hreach : machine.Reachable empty manager) : manager.WellFormed :=
  hreach.invariant (fun _ event _ hformed => step_wellFormed hformed event) empty_wellFormed

theorem empty_coherent : empty.Coherent := by
  intro remote
  simp [Registered, Watched, getListenerSet, empty]

/-- Registrations and death recipients agree in every state of a run exactly
if each remote is unregistered, or dies, in its only place. -/
theorem coherent_throughout_iff (events : List InnerListenerEvent) :
    machine.Throughout Coherent empty events ↔ machine.Steps InOnlyPlace empty events :=
  machine.throughout_iff_steps WellFormed
    (fun _ event _ hformed => step_wellFormed hformed event)
    (fun _ event _ hformed hcoherent => coherent_step hformed hcoherent event)
    (admits empty events) empty_wellFormed empty_coherent

/-- One listener under both types, unregistered from the first only: it can
still be notified and has no recipient. -/
theorem coherent_broken_by_second_type :
    ¬ machine.Throughout Coherent empty
      [.register 100 true 100 ListenType.strongAuth (some ⟨1, some 7⟩),
        .register 100 true 100 ListenType.deviceLock (some ⟨1, some 7⟩),
        .unRegister ListenType.strongAuth (some ⟨1, some 7⟩)] := by
  intro hall
  have hlast := hall _ (List.prefix_refl _) 7
  have hregistered : (machine.run empty
      [.register 100 true 100 ListenType.strongAuth (some ⟨1, some 7⟩),
        .register 100 true 100 ListenType.deviceLock (some ⟨1, some 7⟩),
        .unRegister ListenType.strongAuth (some ⟨1, some 7⟩)]).Registered 7
          ListenType.deviceLock 100 := by decide
  exact absurd (hlast.mp ⟨_, _, hregistered⟩) (by decide)

/-- What unregistering promises when it reports success: the remote has left
the type, no change of the type reaches it, and nothing else moved. -/
def Unregisters (manager : InnerListenerManager) (listenType : ListenType)
    (listener : InnerListener) (remote : RemoteObject) : Prop :=
  let answer := manager.unRegisterInnerListener listenType (some listener)
  answer.1 = .ok →
    (∀ userId, ¬ answer.2.Registered remote listenType userId) ∧
    (∀ userId, ∀ receiver ∈ answer.2.onStateChanged userId listenType,
      receiver.asObject ≠ some remote) ∧
    (∀ other kind userId, other ≠ remote ∨ kind ≠ listenType →
      (answer.2.Registered other kind userId ↔ manager.Registered other kind userId))

/-- The scan stops at the first account, so unregistering keeps its promise
exactly if the remote stands for one account at most. -/
theorem unregisters_iff {manager : InnerListenerManager}
    (hreach : machine.Reachable empty manager) (listenType : ListenType)
    (listener : InnerListener) {remote : RemoteObject} (hlive : listener.asObject = some remote) :
    manager.Unregisters listenType listener remote ↔
      ∀ first second, manager.Registered remote listenType first →
        manager.Registered remote listenType second → first = second := by
  have hformed := reachable_wellFormed hreach
  have hafter := registered_unRegisterInnerListener hformed listenType listener hlive
  constructor
  · intro hunregisters first second hfirst hsecond
    have hresult : (manager.unRegisterInnerListener listenType (some listener)).1 = .ok := by
      have hremoved := manager.removeDeathRecipient_result listener remote hlive
      simp [unRegisterInnerListener, hremoved]
    have hgone := (hunregisters hresult).1
    have hheld : ∀ userId, manager.Registered remote listenType userId →
        manager.firstHolder (some remote) listenType = some userId := by
      intro userId hregistered
      by_contra hkept
      exact hgone userId ((hafter _ _ _).mpr ⟨hregistered, fun hall => hkept hall.2.2⟩)
    exact Option.some.inj ((hheld first hfirst).symm.trans (hheld second hsecond))
  · intro honly _
    have hgone : ∀ userId, ¬ (manager.unRegisterInnerListener listenType
        (some listener)).2.Registered remote listenType userId := by
      intro userId hregistered
      obtain ⟨hold, hkept⟩ := (hafter _ _ _).mp hregistered
      obtain ⟨first, hfirst⟩ := firstHolder_isSome manager listenType hold
      have hheld := firstHolder_registered manager listenType hfirst
      exact hkept ⟨rfl, rfl, honly first userId hheld hold ▸ hfirst⟩
    refine ⟨hgone, fun userId receiver hreceiver hremote => ?_, fun other kind userId hne => ?_⟩
    · cases List.mem_append.mp hreceiver with
      | inl hown => exact hgone userId (List.mem_map.mpr ⟨receiver, hown, hremote⟩)
      | inr hshared =>
          exact hgone SpecialUserId.userAll (List.mem_map.mpr ⟨receiver, hshared, hremote⟩)
    · rw [hafter]
      refine ⟨And.left, fun hold => ⟨hold, fun hall => ?_⟩⟩
      rcases hne with hother | hkind
      · exact hother hall.1
      · exact hkind hall.2.1

theorem unregisters_iff_for_one_account :
    (machine.run empty
      [.register 100 true 100 ListenType.deviceLock (some ⟨1, some 7⟩)]).Unregisters
        ListenType.deviceLock ⟨2, some 7⟩ 7 ↔
      ∀ first second,
        (machine.run empty
          [.register 100 true 100 ListenType.deviceLock (some ⟨1, some 7⟩)]).Registered 7
            ListenType.deviceLock first →
        (machine.run empty
          [.register 100 true 100 ListenType.deviceLock (some ⟨1, some 7⟩)]).Registered 7
            ListenType.deviceLock second → first = second :=
  unregisters_iff ⟨_, admits _ _, rfl⟩ ListenType.deviceLock ⟨2, some 7⟩ rfl

/-- Registered for an account and for all accounts, the listener loses only
the registration for all. -/
theorem unregisters_stops_at_first_account :
    ¬ (machine.run empty
      [.register 100 true 100 ListenType.deviceLock (some ⟨1, some 7⟩),
        .register 100 true SpecialUserId.userAll ListenType.deviceLock
          (some ⟨1, some 7⟩)]).Unregisters ListenType.deviceLock ⟨1, some 7⟩ 7 := by
  intro hunregisters
  exact (hunregisters (by decide)).1 100 (by decide)

end Runs

end Screenlock.InnerListenerManager
