import Screenlock.Client.Agreement

/-! # Listeners across a restart of the service

When the service dies its tables are gone. `OnRemoteSaDied` gets a proxy of the
new instance and leaves the map of wrappers as it is, and the map makes the
client refuse to register the same listeners again.
-/

namespace Screenlock

open Foundation

/-- A client, and whether it has seen the service restart. -/
structure RestartingClient where
  manager : ClientManager
  restarted : Bool

inductive RestartEvent where
  | call (event : ListenerCall)
  /-- The service dies, and its new instance starts from this disk. -/
  | serviceDied (disk : Std.TreeMap String PreferencesValue)

namespace ClientManager

/-- `OnRemoteSaDied`, which finds the new instance of the service. The listener
of system events, which it tells of the restart, has no part in this. -/
def onRemoteSaDied (service : ScreenLockSystemAbility) (manager : ClientManager) : ClientManager :=
  { manager with
    service := service
    screenlockManagerProxy := true }

end ClientManager

namespace RestartingClient

open ClientManager ScreenLockSystemAbility InnerListenerManager

def machine (offset : ErrOffset) : Machine RestartingClient RestartEvent where
  enabled _ _ := True
  step client event := match event with
    | .call event => { client with manager := (client.manager.perform offset event).2 }
    | .serviceDied disk => ⟨client.manager.onRemoteSaDied (started disk), true⟩

/-- After a restart, the new instance holds each listener of the map, or a call
to register the listener would ask it to. -/
def Survives (client : RestartingClient) : Prop :=
  client.restarted = true → ∀ listener wrapper,
    client.manager.innerListenerWrapperMap listener = some wrapper →
      client.manager.Holds wrapper listener ∨ ∃ call, client.manager.RegisterAsks call listener

/-- The service dies while the client has no listener, and grants every request
to register one afterwards. -/
def RestartsEmpty (client : RestartingClient) : RestartEvent → Prop
  | .call (.register call listener) =>
      client.restarted = true → client.manager.RegisterAsks call listener →
        Granted call listener ∧ call.attaches = true
  | .call (.unRegister _ _) => True
  | .serviceDied _ => ∀ listener, client.manager.innerListenerWrapperMap listener = none

variable {offset : ErrOffset} {client : RestartingClient}

/-- The map itself makes the client refuse. -/
theorem Survives.holds (hsurvives : client.Survives) (hrestarted : client.restarted = true)
    {listener : ClientListener} {wrapper : RemoteObject}
    (hmapped : client.manager.innerListenerWrapperMap listener = some wrapper) :
    client.manager.Holds wrapper listener := by
  rcases hsurvives hrestarted listener wrapper hmapped with hholds | ⟨_, hasks⟩
  · exact hholds
  · have hnone := hmapped.symm.trans hasks.2.2
    cases hnone

theorem accounted_onRemoteSaDied {manager : ClientManager} (haccounted : manager.Accounted)
    (disk : Std.TreeMap String PreferencesValue) :
    (manager.onRemoteSaDied (started disk)).Accounted where
  formed := empty_wellFormed
  unknown _ _ := ⟨List.not_mem_nil, fun _ _ => List.not_mem_nil⟩
  older := haccounted.older
  owner := haccounted.owner
  mapped := haccounted.mapped
  placed _ _ _ _ _ hregistered := absurd hregistered List.not_mem_nil

theorem accounted_step (haccounted : client.manager.Accounted) (event : RestartEvent) :
    ((machine offset).step client event).manager.Accounted := by
  cases event with
  | call event => exact haccounted.perform event
  | serviceDied disk => exact accounted_onRemoteSaDied haccounted disk

theorem survives_serviceDied (disk : Std.TreeMap String PreferencesValue) :
    ((machine offset).step client (.serviceDied disk)).Survives ↔
      client.RestartsEmpty (.serviceDied disk) := by
  constructor
  · intro hafter listener
    cases hmapped : client.manager.innerListenerWrapperMap listener with
    | none => rfl
    | some wrapper =>
        obtain ⟨userId, hregistered⟩ := hafter.holds rfl hmapped
        exact absurd hregistered List.not_mem_nil
  · intro hempty _ listener wrapper hmapped
    have hnone := (hempty listener).symm.trans hmapped
    cases hnone

theorem survives_unRegister (haccounted : client.manager.Accounted) (hsurvives : client.Survives)
    (call : ClientCall) (listener : ClientListener) :
    ((machine offset).step client (.call (.unRegister call listener))).Survives := by
  intro hrestarted other found hmapped
  left
  have hstep : ((machine offset).step client (.call (.unRegister call listener))).manager =
      (client.manager.unRegisterListenerInner offset call listener).2 := rfl
  rw [hstep] at hmapped ⊢
  rcases client.manager.unRegisterListenerInner_cases offset call listener with
    ⟨_, _, heq⟩ | ⟨_, wrapper, hwas, heq⟩
  · rw [heq] at hmapped ⊢
    exact hsurvives.holds hrestarted hmapped
  · rw [heq] at hmapped ⊢
    have hother : other ≠ listener := by
      rintro rfl
      simp only [Function.update_self] at hmapped
      cases hmapped
    simp only [Function.update_of_ne hother] at hmapped
    have hapart : found ≠ wrapper := by
      rintro rfl
      exact hother (haccounted.owner found other listener (haccounted.mapped other found hmapped)
        (haccounted.mapped listener found hwas))
    obtain ⟨userId, hregistered⟩ := hsurvives.holds hrestarted hmapped
    refine ⟨userId, ?_⟩
    exact ((unRegisterWithService_leaves haccounted.formed).registered _ _ _).mpr
      ⟨hregistered, fun hgone => hapart hgone.2.1⟩

theorem survives_register (haccounted : client.manager.Accounted) (hsurvives : client.Survives)
    (call : ClientCall) (listener : ClientListener) :
    ((machine offset).step client (.call (.register call listener))).Survives ↔
      client.RestartsEmpty (.call (.register call listener)) := by
  obtain ⟨hunwatched, hunknown⟩ := haccounted.unknown _ (Nat.le_refl _)
  have hstep : (machine offset).step client (.call (.register call listener)) =
      { client with
        manager := (client.manager.registerListenerInner offset call listener).2 } := rfl
  rw [hstep]
  by_cases hrestarted : client.restarted = true
  · rcases client.manager.registerListenerInner_cases offset call listener with
      ⟨hidle, _, heq | heq⟩ | ⟨hasks, heq⟩
    · rw [heq]
      exact iff_of_true (fun _ other found hmapped => Or.inl (hsurvives.holds hrestarted hmapped))
        fun _ hasks => absurd hasks hidle
    · rw [heq]
      exact iff_of_true (fun _ other found hmapped => Or.inl (hsurvives.holds hrestarted hmapped))
        fun _ hasks => absurd hasks hidle
    · rw [heq]
      have henters := @registerWithService_enters offset call listener client.manager.nextWrapper
        _ haccounted.formed
      have hok : (registerWithService offset call listener client.manager.nextWrapper
          client.manager.service).1 = ScreenLockError.ok.toInt offset ↔
            Granted call listener ∧ call.attaches = true :=
        registerWithService_ok_iff.trans (and_congr_right fun _ => or_iff_right hunwatched)
      -- after a restart an entry of the map counts only if the service holds it
      constructor
      · intro hafter _ _
        obtain ⟨userId, hregistered⟩ := hafter.holds hrestarted (Function.update_self ..)
        rcases (henters.registered _ _ _).mp hregistered with hold | hdone
        · exact absurd hold (hunknown _ _)
        · exact hok.mp hdone.1
      · intro hgranted _ other found hmapped
        left
        by_cases hother : other = listener
        · subst hother
          simp only [Function.update_self, Option.some.injEq] at hmapped
          subst hmapped
          exact ⟨_, (henters.registered _ _ _).mpr
            (Or.inr ⟨hok.mpr (hgranted hrestarted hasks), rfl, rfl, rfl⟩)⟩
        · simp only [Function.update_of_ne hother] at hmapped
          obtain ⟨userId, hregistered⟩ := hsurvives.holds hrestarted hmapped
          exact ⟨userId, (henters.registered _ _ _).mpr (Or.inl hregistered)⟩
  · exact iff_of_true (fun hafter => absurd hafter hrestarted)
      fun hafter => absurd hafter hrestarted

theorem survives_step (haccounted : client.manager.Accounted) (hsurvives : client.Survives)
    (event : RestartEvent) :
    ((machine offset).step client event).Survives ↔ client.RestartsEmpty event := by
  cases event with
  | call event =>
      cases event with
      | register call listener => exact survives_register haccounted hsurvives call listener
      | unRegister call listener =>
          exact iff_of_true (survives_unRegister haccounted hsurvives call listener) trivial
  | serviceDied disk => exact survives_serviceDied disk

/-- The subscriptions of a client survive every restart exactly if there is none
when the service dies, and each one asked for after a restart is granted. -/
theorem survives_throughout_iff {service : ScreenLockSystemAbility} {nextWrapper : RemoteObject}
    (hnew : NewTo nextWrapper service) (events : List RestartEvent) :
    (machine offset).Throughout Survives ⟨begin service nextWrapper, false⟩ events ↔
      (machine offset).Steps RestartsEmpty ⟨begin service nextWrapper, false⟩ events := by
  refine (machine offset).throughout_iff_steps (fun client => client.manager.Accounted)
    (fun _ event _ haccounted => accounted_step haccounted event)
    (fun _ event _ haccounted hsurvives => survives_step haccounted hsurvives event)
    ((machine offset).admits_of_enabled (fun _ _ => trivial) _ _) (begin_accounted hnew) ?_
  intro hrestarted
  cases hrestarted

theorem restarted_empty_iff :
    (machine (.ofSubsystem 41)).Throughout Survives ⟨begin (started ∅) 7, false⟩
        [.serviceDied ∅, .call (.register (.ofCaller (.privileged 100))
          ⟨1, .deviceLockedListener, 100⟩)] ↔
      (machine (.ofSubsystem 41)).Steps RestartsEmpty ⟨begin (started ∅) 7, false⟩
        [.serviceDied ∅, .call (.register (.ofCaller (.privileged 100))
          ⟨1, .deviceLockedListener, 100⟩)] :=
  survives_throughout_iff (newTo_started ∅) _

/-- A registered listener is lost when the service restarts. -/
theorem listener_lost_by_restart :
    ¬ (machine (.ofSubsystem 41)).Throughout Survives ⟨begin (started ∅) 7, false⟩
      [.call (.register (.ofCaller (.privileged 100)) ⟨1, .deviceLockedListener, 100⟩),
        .serviceDied ∅] := by
  intro hsurvives
  have hafter := hsurvives _ (List.prefix_refl _)
  obtain ⟨userId, hregistered⟩ :=
    @Survives.holds _ hafter rfl ⟨1, .deviceLockedListener, 100⟩ 7 (by decide)
  exact absurd hregistered List.not_mem_nil

end RestartingClient

end Screenlock
