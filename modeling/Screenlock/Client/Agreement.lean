import Screenlock.Client.Manager
import Screenlock.Service.InnerListeners

/-! # Whether a client and the service agree on listeners

The client changes its map before it knows the answer of the service, and keeps
the change whatever the answer is. The two sides stay in step exactly as long as
every request that is made is granted.
-/

namespace Screenlock.ClientManager

open Foundation ScreenLockSystemAbility InnerListenerManager

/-- The service holds the wrapper under the listener's type. -/
def Holds (manager : ClientManager) (wrapper : RemoteObject) (listener : ClientListener) : Prop :=
  ∃ userId, manager.service.innerListeners.Registered wrapper listener.listenType userId

/-- A listener is in the map exactly if the service holds its wrapper. -/
def Agrees (manager : ClientManager) : Prop :=
  ∀ listener wrapper, manager.innerListenerWrapperMap listener = some wrapper ↔
    (wrapper, listener) ∈ manager.wrappers ∧ manager.Holds wrapper listener

/-- Neither side's table has changed. -/
structure SameTables (before after : ClientManager) : Prop where
  innerListenerWrapperMap : after.innerListenerWrapperMap = before.innerListenerWrapperMap
  innerListeners : after.service.innerListeners = before.service.innerListeners

/-- A call that does not answer `E_SCREENLOCK_OK` changes neither table. -/
def FailsCleanly (offset : ErrOffset) (manager : ClientManager) (event : ListenerCall) : Prop :=
  (manager.perform offset event).1 ≠ ScreenLockError.ok.toInt offset →
    SameTables manager (manager.perform offset event).2

section Conditions

variable (manager : ClientManager) (call : ClientCall) (listener : ClientListener)

def HasProxy : Prop :=
  manager.screenlockManagerProxy = true ∨ call.passage.findsProxy = true

/-- The client asks the service to register the listener. -/
def RegisterAsks : Prop :=
  manager.HasProxy call ∧ call.makesWrapper = true ∧
    manager.innerListenerWrapperMap listener = none

def UnRegisterAsks : Prop :=
  manager.HasProxy call ∧ manager.innerListenerWrapperMap listener ≠ none

/-- The request reaches the service, and its caller may make it. -/
def Granted : Prop :=
  call.passage.Arrives ∧ call.passage.Readable ∧ Permitted call.caller listener.listenType

/-- Every request the call makes of the service is granted. -/
def AsksGranted (manager : ClientManager) : ListenerCall → Prop
  | .register call listener =>
      manager.RegisterAsks call listener → Granted call listener ∧ call.attaches = true
  | .unRegister call listener => manager.UnRegisterAsks call listener → Granted call listener

end Conditions

section Requests

variable {offset : ErrOffset} {call : ClientCall} {listener : ClientListener}
  {wrapper : RemoteObject} {service : ScreenLockSystemAbility}

theorem registerWithService_ok_iff :
    (registerWithService offset call listener wrapper service).1 =
        ScreenLockError.ok.toInt offset ↔
      Granted call listener ∧ (service.innerListeners.Watched wrapper ∨ call.attaches = true) := by
  unfold registerWithService Granted
  rw [Passage.sendRequest_ok_iff, registerInnerListener_ok_iff rfl]
  simp only [and_assoc]

theorem unRegisterWithService_ok_iff :
    (unRegisterWithService offset call listener wrapper service).1 =
        ScreenLockError.ok.toInt offset ↔ Granted call listener := by
  unfold unRegisterWithService Granted
  rw [Passage.sendRequest_ok_iff, unRegisterInnerListener_ok_iff rfl]

theorem registerWithService_enters (hformed : service.innerListeners.WellFormed) :
    Enters service.innerListeners
      (registerWithService offset call listener wrapper service).2.innerListeners
      ((registerWithService offset call listener wrapper service).1 =
        ScreenLockError.ok.toInt offset) wrapper listener.listenType
      (listenedAccount (call.env.userIdFromCallingUid call.caller) listener.userId) := by
  unfold registerWithService
  rw [Passage.sendRequest_service]
  refine Enters.congr ?_ Passage.sendRequest_ok_iff
  by_cases hreached : call.passage.Arrives ∧ call.passage.Readable
  · rw [if_pos hreached]
    refine Enters.congr (registerInnerListener_enters hformed rfl) ?_
    simp only [hreached.1, hreached.2, true_and]
  · rw [if_neg hreached]
    exact Enters.not_done hformed (fun hall => hreached ⟨hall.1, hall.2.1⟩) _

theorem unRegisterWithService_leaves (hformed : service.innerListeners.WellFormed) :
    Leaves service.innerListeners
      (unRegisterWithService offset call listener wrapper service).2.innerListeners
      ((unRegisterWithService offset call listener wrapper service).1 =
        ScreenLockError.ok.toInt offset) wrapper listener.listenType := by
  unfold unRegisterWithService
  rw [Passage.sendRequest_service]
  refine Leaves.congr ?_ Passage.sendRequest_ok_iff
  by_cases hreached : call.passage.Arrives ∧ call.passage.Readable
  · rw [if_pos hreached]
    refine Leaves.congr (unRegisterInnerListener_leaves hformed rfl) ?_
    simp only [hreached.1, hreached.2, true_and]
  · rw [if_neg hreached]
    exact Leaves.not_done hformed fun hall => hreached ⟨hall.1, hall.2.1⟩

end Requests

section Outcomes

variable (offset : ErrOffset) (manager : ClientManager) (call : ClientCall)
  (listener : ClientListener)

theorem getProxy_eq :
    manager.getProxy call = (manager.screenlockManagerProxy || call.passage.findsProxy,
      { manager with
        screenlockManagerProxy := manager.screenlockManagerProxy || call.passage.findsProxy }) := by
  unfold getProxy
  cases hproxy : manager.screenlockManagerProxy with
  | true => rw [if_pos rfl, Bool.true_or, ← hproxy]
  | false => rw [if_neg Bool.false_ne_true, Bool.false_or]

theorem hasProxy_iff :
    manager.HasProxy call ↔
      (manager.screenlockManagerProxy || call.passage.findsProxy) = true :=
  Bool.or_eq_true_iff.symm

/-- The state in which a call has got hold of a proxy, or failed to. -/
def asked : ClientManager :=
  { manager with
    screenlockManagerProxy := manager.screenlockManagerProxy || call.passage.findsProxy }

theorem toInt_ne_ok (code : ScreenLockError) (hcode : code ≠ .ok) :
    code.toInt offset ≠ ScreenLockError.ok.toInt offset :=
  fun heq => hcode ((ScreenLockError.toInt_eq_ok_iff offset code).mp heq)

/-- A registration changes no table, or asks the service after it has changed the map. -/
theorem registerListenerInner_cases :
    (¬ manager.RegisterAsks call listener ∧
      (manager.registerListenerInner offset call listener).1 ≠ ScreenLockError.ok.toInt offset ∧
      ((manager.registerListenerInner offset call listener).2 = manager.asked call ∨
        (manager.registerListenerInner offset call listener).2 =
          (manager.asked call).makeWrapper listener)) ∨
    (manager.RegisterAsks call listener ∧
      manager.registerListenerInner offset call listener =
        ((registerWithService offset call listener manager.nextWrapper manager.service).1,
          { (manager.asked call).makeWrapper listener with
            innerListenerWrapperMap := Function.update manager.innerListenerWrapperMap listener
              (some manager.nextWrapper)
            service := (registerWithService offset call listener manager.nextWrapper
              manager.service).2 })) := by
  have hnullptr := toInt_ne_ok offset .nullptr ScreenLockError.noConfusion
  have hinvalid := toInt_ne_ok offset .parametersInvalid ScreenLockError.noConfusion
  unfold registerListenerInner RegisterAsks
  rw [getProxy_eq, hasProxy_iff]
  dsimp only
  split
  · next hlost =>
      refine Or.inl ⟨fun hasks => ?_, hnullptr, Or.inl rfl⟩
      rw [hasks.1] at hlost
      cases hlost
  · next hfound =>
      rw [Bool.not_eq_false] at hfound
      split
      · next hnone =>
          refine Or.inl ⟨fun hasks => ?_, hnullptr, Or.inl rfl⟩
          rw [hasks.2.1] at hnone
          cases hnone
      · next hmakes =>
          rw [Bool.not_eq_false] at hmakes
          -- the map is looked at only after the wrapper has been made
          cases hmapped : manager.innerListenerWrapperMap listener with
          | some wrapper =>
              have hmade : ((manager.asked call).makeWrapper listener).innerListenerWrapperMap
                listener = some wrapper := hmapped
              refine Or.inl ⟨fun hasks => Option.some_ne_none _ hasks.2.2, ?_⟩
              unfold asked at hmade
              rw [hmade]
              exact ⟨hinvalid, Or.inr rfl⟩
          | none =>
              have hmade : ((manager.asked call).makeWrapper listener).innerListenerWrapperMap
                listener = none := hmapped
              refine Or.inr ⟨⟨hfound, hmakes, rfl⟩, ?_⟩
              unfold asked at hmade
              rw [hmade]
              rfl

/-- So does an unregistration, which asks before it changes the map. -/
theorem unRegisterListenerInner_cases :
    (¬ manager.UnRegisterAsks call listener ∧
      (manager.unRegisterListenerInner offset call listener).1 ≠ ScreenLockError.ok.toInt offset ∧
      (manager.unRegisterListenerInner offset call listener).2 = manager.asked call) ∨
    (manager.UnRegisterAsks call listener ∧
      ∃ wrapper, manager.innerListenerWrapperMap listener = some wrapper ∧
        manager.unRegisterListenerInner offset call listener =
          ((unRegisterWithService offset call listener wrapper manager.service).1,
            { manager.asked call with
              innerListenerWrapperMap := Function.update manager.innerListenerWrapperMap listener
                none
              service := (unRegisterWithService offset call listener wrapper
                manager.service).2 })) := by
  have hnullptr := toInt_ne_ok offset .nullptr ScreenLockError.noConfusion
  unfold unRegisterListenerInner UnRegisterAsks
  rw [getProxy_eq, hasProxy_iff]
  dsimp only
  split
  · next hlost =>
      refine Or.inl ⟨fun hasks => ?_, hnullptr, rfl⟩
      rw [hasks.1] at hlost
      cases hlost
  · next hfound =>
      rw [Bool.not_eq_false] at hfound
      cases hmapped : manager.innerListenerWrapperMap listener with
      | none => exact Or.inl ⟨fun hasks => hasks.2 rfl, hnullptr, rfl⟩
      | some wrapper => exact Or.inr ⟨⟨hfound, Option.some_ne_none _⟩, wrapper, rfl, rfl⟩

end Outcomes

/-- The client has made each wrapper once, for one listener; only such wrappers
are in its map, and the service holds them in one place at most. -/
structure Accounted (manager : ClientManager) : Prop where
  formed : manager.service.innerListeners.WellFormed
  unknown : ∀ remote, manager.nextWrapper ≤ remote →
    ¬ manager.service.innerListeners.Watched remote ∧
      ∀ kind userId, ¬ manager.service.innerListeners.Registered remote kind userId
  older : ∀ wrapper listener, (wrapper, listener) ∈ manager.wrappers →
    wrapper < manager.nextWrapper
  owner : ∀ wrapper first second, (wrapper, first) ∈ manager.wrappers →
    (wrapper, second) ∈ manager.wrappers → first = second
  mapped : ∀ listener wrapper, manager.innerListenerWrapperMap listener = some wrapper →
    (wrapper, listener) ∈ manager.wrappers
  placed : ∀ wrapper listener, (wrapper, listener) ∈ manager.wrappers →
    manager.service.innerListeners.Sole wrapper listener.listenType

section Accounts

variable {offset : ErrOffset} {manager : ClientManager} {call : ClientCall}
  {listener : ClientListener}

theorem Accounted.asked (haccounted : manager.Accounted) (call : ClientCall) :
    (manager.asked call).Accounted where
  formed := haccounted.formed
  unknown := haccounted.unknown
  older := haccounted.older
  owner := haccounted.owner
  mapped := haccounted.mapped
  placed := haccounted.placed

theorem mem_makeWrapper {wrapper : RemoteObject} {other : ClientListener} :
    (wrapper, other) ∈ (manager.makeWrapper listener).wrappers ↔
      (wrapper, other) ∈ manager.wrappers ∨ (wrapper = manager.nextWrapper ∧ other = listener) := by
  simp [makeWrapper]

theorem Accounted.makeWrapper (haccounted : manager.Accounted) (listener : ClientListener) :
    (manager.makeWrapper listener).Accounted where
  formed := haccounted.formed
  unknown remote hremote := haccounted.unknown remote (Nat.le_of_succ_le hremote)
  older wrapper other hmade := by
    rcases mem_makeWrapper.mp hmade with hold | ⟨rfl, _⟩
    · exact Nat.lt_succ_of_lt (haccounted.older wrapper other hold)
    · exact Nat.lt_succ_self _
  owner wrapper first second hfirst hsecond := by
    rcases mem_makeWrapper.mp hfirst with hold | ⟨rfl, rfl⟩ <;>
      rcases mem_makeWrapper.mp hsecond with hold' | ⟨heq, rfl⟩
    · exact haccounted.owner wrapper first second hold hold'
    · subst heq
      exact absurd (haccounted.older _ _ hold) (Nat.lt_irrefl _)
    · exact absurd (haccounted.older _ _ hold') (Nat.lt_irrefl _)
    · rfl
  mapped other wrapper hmapped :=
    mem_makeWrapper.mpr (Or.inl (haccounted.mapped other wrapper hmapped))
  placed wrapper other hmade := by
    rcases mem_makeWrapper.mp hmade with hold | ⟨rfl, _⟩
    · exact haccounted.placed wrapper other hold
    · intro kind userId hregistered
      exact absurd hregistered ((haccounted.unknown _ (Nat.le_refl _)).2 kind userId)

/-- The newest wrapper, made for the listener and on no side yet, enters both. -/
theorem Accounted.enters {made : ClientManager} (haccounted : made.Accounted)
    {wrapper : RemoteObject} {service : ScreenLockSystemAbility} {done : Prop} {account : UserId}
    (hmade : (wrapper, listener) ∈ made.wrappers)
    (hfresh : ∀ kind userId, ¬ made.service.innerListeners.Registered wrapper kind userId)
    (henters : Enters made.service.innerListeners service.innerListeners done wrapper
      listener.listenType account) :
    { made with
      innerListenerWrapperMap :=
        Function.update made.innerListenerWrapperMap listener (some wrapper)
      service := service }.Accounted where
  formed := henters.formed
  unknown remote hremote := by
    have hother : remote ≠ wrapper := by
      have holder := haccounted.older wrapper listener hmade
      rintro rfl
      exact absurd holder (Nat.not_lt.mpr hremote)
    obtain ⟨hwatched, hregistered⟩ := haccounted.unknown remote hremote
    constructor
    · rw [henters.watched]
      exact not_or.mpr ⟨hwatched, fun hdone => hother hdone.2⟩
    · intro kind userId
      rw [henters.registered]
      exact not_or.mpr ⟨hregistered kind userId, fun hdone => hother hdone.2.1⟩
  older := haccounted.older
  owner := haccounted.owner
  mapped other found hmapped := by
    by_cases hother : other = listener
    · subst hother
      simp only [Function.update_self, Option.some.injEq] at hmapped
      subst hmapped
      exact hmade
    · simp only [Function.update_of_ne hother] at hmapped
      exact haccounted.mapped other found hmapped
  placed found other hfound := by
    intro kind userId hregistered
    rcases (henters.registered _ _ _).mp hregistered with hold | ⟨hdone, rfl, rfl, rfl⟩
    · have hother : found ≠ wrapper := by
        rintro rfl
        exact hfresh kind userId hold
      obtain ⟨hkind, hsole⟩ := haccounted.placed found other hfound kind userId hold
      refine ⟨hkind, fun second hsecond => hsole second ?_⟩
      exact ((henters.registered _ _ _).mp hsecond).resolve_right fun hdone => hother hdone.2.1
    · obtain rfl := haccounted.owner found other listener hfound hmade
      refine ⟨rfl, fun second hsecond => ?_⟩
      rcases (henters.registered _ _ _).mp hsecond with hold | ⟨_, _, _, heq⟩
      · exact absurd hold (hfresh _ _)
      · exact heq

theorem Accounted.leaves (haccounted : manager.Accounted) {wrapper : RemoteObject}
    {service : ScreenLockSystemAbility} {done : Prop}
    (hleaves : Leaves manager.service.innerListeners service.innerListeners done wrapper
      listener.listenType) :
    { manager with
      innerListenerWrapperMap := Function.update manager.innerListenerWrapperMap listener none
      service := service }.Accounted where
  formed := hleaves.formed
  unknown remote hremote := by
    obtain ⟨hwatched, hregistered⟩ := haccounted.unknown remote hremote
    exact ⟨fun hafter => hwatched ((hleaves.watched _).mp hafter).1,
      fun kind userId hafter => hregistered kind userId ((hleaves.registered _ _ _).mp hafter).1⟩
  older := haccounted.older
  owner := haccounted.owner
  mapped other found hmapped := by
    by_cases hother : other = listener
    · subst hother
      simp only [Function.update_self] at hmapped
      cases hmapped
    · simp only [Function.update_of_ne hother] at hmapped
      exact haccounted.mapped other found hmapped
  placed found other hfound := by
    intro kind userId hregistered
    obtain ⟨hkind, hsole⟩ := haccounted.placed found other hfound kind userId
      ((hleaves.registered _ _ _).mp hregistered).1
    exact ⟨hkind, fun second hsecond => hsole second ((hleaves.registered _ _ _).mp hsecond).1⟩

/-- A wrapper on no side keeps both sides as they are. -/
theorem agrees_makeWrapper (haccounted : manager.Accounted) (hagrees : manager.Agrees)
    (listener : ClientListener) : (manager.makeWrapper listener).Agrees := by
  intro other found
  have hsame : (manager.makeWrapper listener).innerListenerWrapperMap other = some found ↔
      (found, other) ∈ manager.wrappers ∧ manager.Holds found other := hagrees other found
  rw [hsame, mem_makeWrapper]
  constructor
  · rintro ⟨hmade, hholds⟩
    exact ⟨Or.inl hmade, hholds⟩
  · rintro ⟨hmade | ⟨rfl, _⟩, hholds⟩
    · exact ⟨hmade, hholds⟩
    · obtain ⟨userId, hregistered⟩ := hholds
      exact absurd hregistered ((haccounted.unknown _ (Nat.le_refl _)).2 _ userId)

theorem agrees_enters {made : ClientManager} (haccounted : made.Accounted) (hagrees : made.Agrees)
    {wrapper : RemoteObject} {service : ScreenLockSystemAbility} {done : Prop} {account : UserId}
    (hmade : (wrapper, listener) ∈ made.wrappers)
    (hfresh : ∀ kind userId, ¬ made.service.innerListeners.Registered wrapper kind userId)
    (hnone : made.innerListenerWrapperMap listener = none)
    (henters : Enters made.service.innerListeners service.innerListeners done wrapper
      listener.listenType account) :
    { made with
      innerListenerWrapperMap :=
        Function.update made.innerListenerWrapperMap listener (some wrapper)
      service := service }.Agrees ↔ done := by
  constructor
  · -- the listener is in the map, so the service has to hold the new wrapper
    intro hafter
    obtain ⟨_, userId, hregistered⟩ := (hafter listener wrapper).mp (Function.update_self ..)
    exact (((henters.registered _ _ _).mp hregistered).resolve_left (hfresh _ _)).1
  · intro hdone other found
    by_cases hother : other = listener
    · subst hother
      simp only [Function.update_self, Option.some.injEq]
      constructor
      · rintro rfl
        exact ⟨hmade, account, (henters.registered _ _ _).mpr (Or.inr ⟨hdone, rfl, rfl, rfl⟩)⟩
      · rintro ⟨hfound, userId, hregistered⟩
        rcases (henters.registered _ _ _).mp hregistered with hold | ⟨_, heq, _⟩
        · -- what the service held before was in the map, and nothing was
          have hmapped := (hagrees other found).mpr ⟨hfound, userId, hold⟩
          rw [hnone] at hmapped
          cases hmapped
        · exact heq.symm
    · simp only [Function.update_of_ne hother]
      rw [hagrees other found]
      refine and_congr_right fun hfound => exists_congr fun userId => ?_
      have hapart : found ≠ wrapper := by
        rintro rfl
        exact hother (haccounted.owner found other listener hfound hmade)
      rw [henters.registered]
      exact (or_iff_left fun hnew => hapart hnew.2.1).symm

theorem agrees_leaves (haccounted : manager.Accounted) (hagrees : manager.Agrees)
    {wrapper : RemoteObject} {service : ScreenLockSystemAbility} {done : Prop}
    (hmapped : manager.innerListenerWrapperMap listener = some wrapper)
    (hleaves : Leaves manager.service.innerListeners service.innerListeners done wrapper
      listener.listenType) :
    { manager with
      innerListenerWrapperMap := Function.update manager.innerListenerWrapperMap listener none
      service := service }.Agrees ↔ done := by
  obtain ⟨hmade, userId, hheld⟩ := (hagrees listener wrapper).mp hmapped
  constructor
  · -- a wrapper the service keeps is in the map no more
    intro hafter
    by_contra hkept
    have hstill : service.innerListeners.Registered wrapper listener.listenType userId :=
      (hleaves.registered _ _ _).mpr ⟨hheld, fun hdone => hkept hdone.1⟩
    have hleft := (hafter listener wrapper).mpr ⟨hmade, userId, hstill⟩
    simp only [Function.update_self] at hleft
    cases hleft
  · intro hdone other found
    by_cases hother : other = listener
    · subst hother
      simp only [Function.update_self]
      refine iff_of_false (fun hnone => by cases hnone) ?_
      rintro ⟨hfound, account, hregistered⟩
      obtain ⟨hold, hkept⟩ := (hleaves.registered _ _ _).mp hregistered
      have hwas := (hagrees other found).mpr ⟨hfound, account, hold⟩
      obtain rfl := Option.some.inj (hmapped.symm.trans hwas)
      -- the wrapper stood in one place, the one that was emptied
      obtain ⟨first, hfirst⟩ := firstHolder_isSome _ _ hold
      have hone := (haccounted.placed wrapper other hmade _ _ hold).2 first
        (firstHolder_registered _ _ hfirst)
      exact hkept ⟨hdone, rfl, rfl, hone ▸ hfirst⟩
    · simp only [Function.update_of_ne hother]
      rw [hagrees other found]
      refine and_congr_right fun hfound => exists_congr fun account => ?_
      have hapart : found ≠ wrapper := by
        rintro rfl
        exact hother (haccounted.owner found other listener hfound hmade)
      rw [hleaves.registered]
      exact (and_iff_left fun hgone => hapart hgone.2.1).symm

end Accounts

section Calls

variable {offset : ErrOffset} {manager : ClientManager}

theorem Accounted.perform (haccounted : manager.Accounted) (event : ListenerCall) :
    (manager.perform offset event).2.Accounted := by
  cases event with
  | register call listener =>
      have hmade := (haccounted.asked call).makeWrapper listener
      rcases manager.registerListenerInner_cases offset call listener with
        ⟨_, _, heq | heq⟩ | ⟨_, heq⟩
      · rw [ClientManager.perform, heq]
        exact haccounted.asked call
      · rw [ClientManager.perform, heq]
        exact hmade
      · rw [ClientManager.perform, heq]
        exact hmade.enters (mem_makeWrapper.mpr (Or.inr ⟨rfl, rfl⟩))
          (haccounted.unknown _ (Nat.le_refl _)).2
          (registerWithService_enters haccounted.formed)
  | unRegister call listener =>
      rcases manager.unRegisterListenerInner_cases offset call listener with
        ⟨_, _, heq⟩ | ⟨_, wrapper, _, heq⟩
      · rw [ClientManager.perform, heq]
        exact haccounted.asked call
      · rw [ClientManager.perform, heq]
        exact (haccounted.asked call).leaves (unRegisterWithService_leaves haccounted.formed)

/-- One call keeps the two sides in step exactly if what it asks is granted. -/
theorem agrees_perform (haccounted : manager.Accounted) (hagrees : manager.Agrees)
    (event : ListenerCall) :
    (manager.perform offset event).2.Agrees ↔ manager.AsksGranted event := by
  cases event with
  | register call listener =>
      have hmade := (haccounted.asked call).makeWrapper listener
      have hkept : ((manager.asked call).makeWrapper listener).Agrees :=
        agrees_makeWrapper (haccounted.asked call) hagrees listener
      obtain ⟨hunwatched, hunknown⟩ := haccounted.unknown _ (Nat.le_refl _)
      rcases manager.registerListenerInner_cases offset call listener with
        ⟨hidle, _, heq | heq⟩ | ⟨hasks, heq⟩
      · rw [ClientManager.perform, heq]
        exact iff_of_true hagrees fun hasks => absurd hasks hidle
      · rw [ClientManager.perform, heq]
        exact iff_of_true hkept fun hasks => absurd hasks hidle
      · rw [ClientManager.perform, heq]
        have hstep := agrees_enters hmade hkept (mem_makeWrapper.mpr (Or.inr ⟨rfl, rfl⟩)) hunknown
          hasks.2.2 (@registerWithService_enters offset call _ _ _ haccounted.formed)
        have hok : (registerWithService offset call listener manager.nextWrapper
            manager.service).1 = ScreenLockError.ok.toInt offset ↔
              Granted call listener ∧ call.attaches = true :=
          registerWithService_ok_iff.trans (and_congr_right fun _ => or_iff_right hunwatched)
        refine hstep.trans (hok.trans ?_)
        exact ⟨fun hgranted _ => hgranted, fun hgranted => hgranted hasks⟩
  | unRegister call listener =>
      rcases manager.unRegisterListenerInner_cases offset call listener with
        ⟨hidle, _, heq⟩ | ⟨hasks, wrapper, hmapped, heq⟩
      · rw [ClientManager.perform, heq]
        exact iff_of_true hagrees fun hasks => absurd hasks hidle
      · rw [ClientManager.perform, heq]
        have hstep := agrees_leaves (haccounted.asked call) hagrees hmapped
          (@unRegisterWithService_leaves offset call _ _ _ haccounted.formed)
        refine hstep.trans (unRegisterWithService_ok_iff.trans ?_)
        exact ⟨fun hgranted _ => hgranted, fun hgranted => hgranted hasks⟩

/-- A call whose requests are granted answers otherwise only before it makes one. -/
theorem failsCleanly_of_granted {event : ListenerCall} (hgranted : manager.AsksGranted event) :
    manager.FailsCleanly offset event := by
  intro hfails
  cases event with
  | register call listener =>
      rcases manager.registerListenerInner_cases offset call listener with
        ⟨_, _, heq | heq⟩ | ⟨hasks, heq⟩
      · rw [ClientManager.perform, heq]
        exact ⟨rfl, rfl⟩
      · rw [ClientManager.perform, heq]
        exact ⟨rfl, rfl⟩
      · rw [ClientManager.perform, heq] at hfails
        obtain ⟨hgrant, hattaches⟩ := hgranted hasks
        exact absurd (registerWithService_ok_iff.mpr ⟨hgrant, Or.inr hattaches⟩) hfails
  | unRegister call listener =>
      rcases manager.unRegisterListenerInner_cases offset call listener with
        ⟨_, _, heq⟩ | ⟨hasks, wrapper, _, heq⟩
      · rw [ClientManager.perform, heq]
        exact ⟨rfl, rfl⟩
      · rw [ClientManager.perform, heq] at hfails
        exact absurd (unRegisterWithService_ok_iff.mpr (hgranted hasks)) hfails

end Calls

/-- A client that has made no wrapper yet, and a service that knows none of its. -/
def begin (service : ScreenLockSystemAbility) (nextWrapper : RemoteObject) : ClientManager where
  screenlockManagerProxy := false
  innerListenerWrapperMap _ := none
  wrappers := []
  nextWrapper := nextWrapper
  service := service

/-- The wrappers a client is going to make are new to the service. -/
def NewTo (nextWrapper : RemoteObject) (service : ScreenLockSystemAbility) : Prop :=
  InnerListenerManager.machine.Reachable .empty service.innerListeners ∧
    ∀ remote, nextWrapper ≤ remote → ¬ service.innerListeners.Watched remote ∧
      ∀ kind userId, ¬ service.innerListeners.Registered remote kind userId

section Runs

variable {offset : ErrOffset} {service : ScreenLockSystemAbility} {nextWrapper : RemoteObject}

theorem begin_accounted (hnew : NewTo nextWrapper service) :
    (begin service nextWrapper).Accounted where
  formed := reachable_wellFormed hnew.1
  unknown := hnew.2
  older _ _ hmade := absurd hmade List.not_mem_nil
  owner _ _ _ hmade := absurd hmade List.not_mem_nil
  mapped _ _ hmapped := by cases hmapped
  placed _ _ hmade := absurd hmade List.not_mem_nil

theorem begin_agrees : (begin service nextWrapper).Agrees := by
  intro listener wrapper
  exact iff_of_false (fun hmapped => by cases hmapped) fun hall => List.not_mem_nil hall.1

/-- The two sides agree at every point of a run and no failed call changes them,
exactly if every request the calls make is granted. -/
theorem agrees_throughout_iff (hnew : NewTo nextWrapper service) (events : List ListenerCall) :
    ((machine offset).Throughout Agrees (begin service nextWrapper) events ∧
        (machine offset).Steps (FailsCleanly offset) (begin service nextWrapper) events) ↔
      (machine offset).Steps AsksGranted (begin service nextWrapper) events := by
  have hadmits := (machine offset).admits_of_enabled (fun _ _ => trivial)
    (begin service nextWrapper) events
  have hagree := (machine offset).throughout_iff_steps Accounted
    (fun _ event _ haccounted => haccounted.perform event)
    (fun _ event _ haccounted hagrees => agrees_perform haccounted hagrees event)
    hadmits (begin_accounted hnew) begin_agrees
  rw [hagree]
  refine and_iff_left_of_imp fun hgranted => ?_
  exact (machine offset).steps_mono (fun _ _ hevent => failsCleanly_of_granted hevent) hgranted

theorem newTo_started (disk : Std.TreeMap String PreferencesValue) :
    NewTo nextWrapper (started disk) :=
  ⟨InnerListenerManager.machine.reachable_refl _,
    fun _ _ => ⟨List.not_mem_nil, fun _ _ => List.not_mem_nil⟩⟩

theorem granted_agrees_iff :
    ((machine (.ofSubsystem 41)).Throughout Agrees (begin (started ∅) 7)
          [.register (.ofCaller (.privileged 100)) ⟨1, .strongAuthListener, 100⟩,
            .unRegister (.ofCaller (.privileged 100)) ⟨1, .strongAuthListener, 100⟩] ∧
        (machine (.ofSubsystem 41)).Steps (FailsCleanly (.ofSubsystem 41)) (begin (started ∅) 7)
          [.register (.ofCaller (.privileged 100)) ⟨1, .strongAuthListener, 100⟩,
            .unRegister (.ofCaller (.privileged 100)) ⟨1, .strongAuthListener, 100⟩]) ↔
      (machine (.ofSubsystem 41)).Steps AsksGranted (begin (started ∅) 7)
        [.register (.ofCaller (.privileged 100)) ⟨1, .strongAuthListener, 100⟩,
          .unRegister (.ofCaller (.privileged 100)) ⟨1, .strongAuthListener, 100⟩] :=
  agrees_throughout_iff (newTo_started ∅) _

/-- An application without the permission is refused, and its listener stays in
the map for good. -/
theorem refused_registration_stays :
    ¬ ((machine (.ofSubsystem 41)).Throughout Agrees (begin (started ∅) 7)
          [.register (.ofCaller ⟨1, 20000000, .hap, true, []⟩)
            ⟨1, .strongAuthListener, 100⟩] ∧
        (machine (.ofSubsystem 41)).Steps (FailsCleanly (.ofSubsystem 41)) (begin (started ∅) 7)
          [.register (.ofCaller ⟨1, 20000000, .hap, true, []⟩)
            ⟨1, .strongAuthListener, 100⟩]) := by
  rintro ⟨hagrees, _⟩
  have hafter := hagrees _ (List.prefix_refl _)
  have hgranted := (agrees_perform (begin_accounted (newTo_started ∅)) begin_agrees _).mp hafter
  have hpermitted := (hgranted ⟨Or.inr rfl, rfl, rfl⟩).1.2.2
  revert hpermitted
  decide

end Runs

end Screenlock.ClientManager
