import Screenlock.InnerListener.Death

/-! # Registering the same remote object again

Listeners are kept by address and told apart by remote object. No set and not
the recipient table holds a remote object twice, the recipients attached to it
are those on record, and a registration that is repeated finds all it would add.
-/

namespace Screenlock.InnerListenerManager

open Foundation

/-- Each remote object stands once at most wherever it can stand. -/
structure DuplicateFree (manager : InnerListenerManager) (remote : RemoteObject) : Prop where
  sets : ∀ listenType userId,
    (manager.getListenerSet userId listenType).countP (finder (some remote)) ≤ 1
  records :
    manager.deathRecipientMap.countP (fun entry => finder (some remote) entry.listener) ≤ 1
  /-- As many recipients of this manager are attached to it as it has entries. -/
  attached : manager.attached.countP (fun pair => pair.1 = remote) =
    manager.deathRecipientMap.countP (fun entry => finder (some remote) entry.listener)

/-- The set under a type and an account, if there is one. -/
def listenerSet? (manager : InnerListenerManager) (userId : UserId) (listenType : ListenType) :
    Option (List InnerListener) :=
  (manager.innerListenMap[listenType]?).bind fun byUser => byUser[userId]?

/-- Both managers hold the same tables, and the same recipients are attached. -/
structure SameTables (first second : InnerListenerManager) : Prop where
  types : ∀ listenType, listenType ∈ first.innerListenMap ↔ listenType ∈ second.innerListenMap
  sets : ∀ userId listenType,
    first.listenerSet? userId listenType = second.listenerSet? userId listenType
  records : first.deathRecipientMap = second.deathRecipientMap
  attached : first.attached = second.attached
  recipients : first.nextRecipient = second.nextRecipient

/-- The call unregisters a listener of the remote object, or cleans up after its death. -/
def Drops (remote : Option RemoteObject) : InnerListenerEvent → Prop
  | .register .. => False
  | .unRegister _ listener => listener.bind InnerListener.asObject = remote
  | .remoteDied gone => gone = remote

/-- A registration that succeeded can be repeated with any listener of the same
remote object, at once or after calls that do not drop it, and changes nothing. -/
def RepeatsIdly (manager : InnerListenerManager) : Prop :=
  ∀ callingUser attaches userId listenType listener,
    (manager.registerInnerListener callingUser attaches userId listenType (some listener)).1 =
        .ok →
      ∀ between, (∀ event ∈ between, ¬ Drops listener.asObject event) →
        ∀ again attachesAgain account repeated, repeated.asObject = listener.asObject →
          listenedAccount again account = listenedAccount callingUser userId →
          let registered := machine.run (manager.registerInnerListener callingUser attaches userId
            listenType (some listener)).2 between
          let second := registered.registerInnerListener again attachesAgain account listenType
            (some repeated)
          second.1 = .ok ∧ second.2.SameTables registered

section Counts

variable {manager : InnerListenerManager}

theorem duplicateFree (hformed : manager.WellFormed) (hattended : manager.Attended)
    (remote : RemoteObject) : manager.DuplicateFree remote := by
  have hrecords := KeyedList.countP_key_le_one hformed.records (some remote)
  refine ⟨fun listenType userId => ?_, hrecords, ?_⟩
  · exact KeyedList.countP_key_le_one (hformed.sets userId listenType) (some remote)
  · have hattached := KeyedList.countP_key_le_one (attached_distinct hformed hattended) remote
    have hpos : 0 < manager.attached.countP (fun pair => pair.1 = remote) ↔
        0 < manager.deathRecipientMap.countP
          (fun entry => finder (some remote) entry.listener) :=
      KeyedList.countP_key_pos.trans
        ((attached_iff_watched hattended remote).trans KeyedList.countP_key_pos.symm)
    change manager.deathRecipientMap.countP
      (fun entry => finder (some remote) entry.listener) ≤ 1 at hrecords
    omega

end Counts

section Repetition

variable {manager : InnerListenerManager}

theorem addDeathRecipient_of_watched {listener : InnerListener} {remote : RemoteObject}
    (hlive : listener.asObject = some remote) (hwatched : manager.Watched remote)
    (attaches : Bool) (listenType : ListenType) :
    manager.addDeathRecipient attaches listenType listener = (.ok, manager) := by
  rcases manager.addDeathRecipient_cases attaches listenType listener with ⟨hdead, -⟩ |
    ⟨obj, hobj, hcases⟩
  · rw [hdead] at hlive
    cases hlive
  · obtain rfl := Option.some.inj (hobj.symm.trans hlive)
    rcases hcases with ⟨-, heq⟩ | ⟨hunwatched, -⟩ | ⟨hunwatched, -⟩
    · exact heq
    · exact absurd hwatched hunwatched
    · exact absurd hwatched hunwatched

/-- A listener whose remote object stands in the set already leaves it as it is. -/
theorem sameTables_addInnerListener {listener : InnerListener} {remote : RemoteObject}
    {userId : UserId} {listenType : ListenType} (hlive : listener.asObject = some remote)
    (hregistered : manager.Registered remote listenType userId) :
    (manager.addInnerListener userId listenType listener).SameTables manager := by
  unfold Registered getListenerSet at hregistered
  unfold addInnerListener
  cases hbyUser : manager.innerListenMap[listenType]? with
  | none => simp [hbyUser] at hregistered
  | some byUser =>
      cases hset : byUser[userId]? with
      | none => simp [hbyUser, hset] at hregistered
      | some listenSet =>
          have hpresent : listenSet.any (finder listener.asObject) = true := by
            rw [hlive]
            simpa [hbyUser, hset, finder] using hregistered
          have hkey : listenType ∈ manager.innerListenMap := by
            rw [Std.TreeMap.mem_iff_isSome_getElem?, hbyUser]
            rfl
          refine ⟨fun other => ?_, fun account other => ?_, rfl, rfl, rfl⟩
          · simp only [Std.TreeMap.mem_insert]
            constructor
            · rintro (hsame | hmem)
              · rwa [← Std.LawfulEqCmp.eq_of_compare hsame]
              · exact hmem
            · exact Or.inr
          · simp only [listenerSet?, Option.getD_some, hset, hpresent, if_true]
            by_cases htype : listenType = other
            · subst htype
              by_cases haccount : userId = account
              · subst haccount
                simp [hbyUser, hset]
              · simp [hbyUser, Std.TreeMap.getElem?_insert, haccount]
            · simp [Std.TreeMap.getElem?_insert, htype]

/-- A registration of a remote object that is watched and stands in the set adds nothing. -/
theorem registerInnerListener_of_standing {listener : InnerListener} {remote : RemoteObject}
    {callingUser userId : UserId} {listenType : ListenType}
    (hlive : listener.asObject = some remote) (hwatched : manager.Watched remote)
    (hregistered :
      manager.Registered remote listenType (listenedAccount callingUser userId))
    (attaches : Bool) :
    (manager.registerInnerListener callingUser attaches userId listenType (some listener)).1 =
        .ok ∧
      (manager.registerInnerListener callingUser attaches userId listenType
        (some listener)).2.SameTables manager := by
  unfold registerInnerListener
  simp only [addDeathRecipient_of_watched hlive hwatched, ne_eq, not_true_eq_false, if_false,
    true_and]
  exact sameTables_addInnerListener hlive hregistered

/-- The remote object has a recipient and stands in the set. -/
def Standing (manager : InnerListenerManager) (remote : RemoteObject) (listenType : ListenType)
    (account : UserId) : Prop :=
  manager.Watched remote ∧ manager.Registered remote listenType account

section Standing

variable {remote : RemoteObject} {listenType : ListenType} {account : UserId}

theorem standing_unRegisterInnerListener (hformed : manager.WellFormed)
    (hstanding : manager.Standing remote listenType account) (kind : ListenType)
    (listener : InnerListener) (hother : listener.asObject ≠ some remote) :
    (manager.unRegisterInnerListener kind (some listener)).2.Standing remote listenType
      account := by
  cases hlive : listener.asObject with
  | none => rwa [unRegisterInnerListener_dead manager kind listener hlive]
  | some gone =>
      have hne : remote ≠ gone := by
        rintro rfl
        exact hother hlive
      unfold Standing
      rw [watched_unRegisterInnerListener hformed kind listener hlive,
        registered_unRegisterInnerListener hformed kind listener hlive]
      exact ⟨⟨hstanding.1, hne⟩, hstanding.2, fun hall => hne hall.1⟩

/-- Only a call that drops the remote object takes it away. -/
theorem standing_step (hformed : manager.WellFormed)
    (hstanding : manager.Standing remote listenType account) {event : InnerListenerEvent}
    (hkept : ¬ Drops (some remote) event) :
    (manager.step event).Standing remote listenType account := by
  cases event with
  | register callingUser attaches userId kind listener =>
      cases listener with
      | none => exact hstanding
      | some listener =>
          unfold Standing step
          dsimp only
          rw [watched_registerInnerListener, registered_registerInnerListener]
          exact ⟨Or.inl hstanding.1, Or.inl hstanding.2⟩
  | unRegister kind listener =>
      cases listener with
      | none => exact hstanding
      | some listener =>
          exact standing_unRegisterInnerListener hformed hstanding kind listener hkept
  | remoteDied gone =>
      cases gone with
      | none => exact hstanding
      | some gone =>
          rw [step, onRemoteDied_eq hformed]
          split
          next => exact hstanding
          next entry hfound =>
            obtain ⟨-, hlive⟩ := find_recipient_eq_some hfound
            refine standing_unRegisterInnerListener hformed hstanding _ _ ?_
            rw [hlive]
            exact hkept

theorem standing_run (hformed : manager.WellFormed)
    (hstanding : manager.Standing remote listenType account) {events : List InnerListenerEvent}
    (hkept : ∀ event ∈ events, ¬ Drops (some remote) event) :
    (machine.run manager events).Standing remote listenType account := by
  have hsteps := (machine.steps_iff_forall_mem _ manager events).mpr hkept
  have hboth : (machine.run manager events).WellFormed ∧
      (machine.run manager events).Standing remote listenType account := by
    refine @Machine.steps_invariant _ _ machine _
      (fun manager => manager.WellFormed ∧ manager.Standing remote listenType account)
      (fun before event hevent hheld => ?_) _ _ hsteps ⟨hformed, hstanding⟩
    exact ⟨step_wellFormed hheld.1 event, standing_step hheld.1 hheld.2 hevent⟩
  exact hboth.2

end Standing

theorem repeatsIdly (hformed : manager.WellFormed) : manager.RepeatsIdly := by
  intro callingUser attaches userId listenType listener hok between hkept again attachesAgain
    account repeated hsame haccount
  obtain ⟨remote, haccepts⟩ := (registerInnerListener_ok_iff_accepts _ _ _ _ _).mp hok
  rw [haccepts.1] at hkept
  have hregistered := registerInnerListener_wellFormed hformed callingUser attaches userId
    listenType (some listener)
  have hstanding : (manager.registerInnerListener callingUser attaches userId listenType
      (some listener)).2.Standing remote listenType (listenedAccount callingUser userId) := by
    unfold Standing
    rw [watched_registerInnerListener, registered_registerInnerListener]
    refine ⟨haccepts.2.imp_right fun hattaches => ⟨haccepts.1, hattaches⟩, ?_⟩
    exact Or.inr ⟨haccepts, rfl, rfl⟩
  obtain ⟨hwatched, hplace⟩ := standing_run hregistered hstanding hkept
  rw [← haccount] at hplace
  exact registerInnerListener_of_standing (hsame.trans haccepts.1) hwatched hplace attachesAgain

end Repetition

/-- In every state that can be reached each remote object stands once at most,
and repeating a successful registration changes nothing. -/
theorem registration_idempotent {manager : InnerListenerManager}
    (hreach : machine.Reachable empty manager) :
    (∀ remote, manager.DuplicateFree remote) ∧ manager.RepeatsIdly := by
  have hformed := reachable_wellFormed hreach
  have hattended := reachable_attended hreach
  exact ⟨duplicateFree hformed hattended, repeatsIdly hformed⟩

/-- Two listeners of one remote object, and one whose recipient is refused. -/
theorem registration_idempotent_of_two_listeners :
    let manager := machine.run empty
      [.register 100 true 100 ListenType.strongAuth (some ⟨1, some 7⟩),
        .register 100 true 100 ListenType.deviceLock (some ⟨2, some 7⟩),
        .register 100 false 100 ListenType.deviceLock (some ⟨3, some 8⟩),
        .unRegister ListenType.deviceLock (some ⟨1, some 7⟩)]
    (∀ remote, manager.DuplicateFree remote) ∧ manager.RepeatsIdly :=
  registration_idempotent ⟨_, admits _ _, rfl⟩

end Screenlock.InnerListenerManager
