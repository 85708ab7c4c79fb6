import Screenlock.Client.Settlement

/-! # What becomes of promises

On its way a promise is neither lost nor doubled. Only the call that the service has
queued without a written reply, and that is therefore taken for a success at once, is
settled a second time.
-/

namespace Screenlock

open Foundation

namespace SettlingClient

section Runs

variable {offset : ErrOffset} {settling : SettlingClient}

/-- What is under way comes from the vectors of the service and from objects of the binding. -/
structure Sound (settling : SettlingClient) : Prop where
  aligned : settling.client.ability.waiting.Aligned
  known : ∀ callback ∈ settling.calls.map Prod.fst, settling.client.ability.waiting.Knows callback
  ours : ∀ work ∈ settling.works ++ settling.settled,
    settling.client.callbacks work.callback ≠ none

/-- What a transition of the client must keep. -/
structure Continues (before after : AsyncClient) : Prop where
  aligned : before.ability.waiting.Aligned → after.ability.waiting.Aligned
  known : before.ability.waiting.Aligned → ∀ callback, before.ability.waiting.Knows callback →
    after.ability.waiting.Knows callback
  kept : ∀ callback, before.callbacks callback ≠ none → after.callbacks callback ≠ none
  works : ∀ work ∈ after.onCallBacks.drop before.onCallBacks.length,
    after.callbacks work.callback ≠ none

theorem Sound.follow (hsound : settling.Sound) {after : AsyncClient}
    (hcontinues : Continues settling.client after) : (settling.follow after).Sound where
  aligned := hcontinues.aligned hsound.aligned
  known callback hmem := by
    rw [SettlingClient.follow, List.map_append] at hmem
    rcases List.mem_append.mp hmem with hold | hnew
    · exact hcontinues.known hsound.aligned callback (hsound.known callback hold)
    · exact WaitingListeners.knows_of_mem_callBacks hnew
  ours work hmem := by
    have hcases : work ∈ settling.works ++ settling.settled ∨
        work ∈ after.onCallBacks.drop settling.client.onCallBacks.length := by
      simp only [SettlingClient.follow, List.mem_append] at hmem ⊢
      tauto
    exact hcases.elim (fun hold => hcontinues.kept _ (hsound.ours work hold))
      (hcontinues.works work)

theorem continues_entered (client : AsyncClient) (event : ServiceEvent) :
    Continues client (client.entered event) where
  aligned haligned := client.ability.aligned_step event haligned
  known haligned _ hknows := hknows.step haligned event
  kept _ hkept := hkept
  works work hmem := by simp [AsyncClient.entered] at hmem

theorem continues_refl (client : AsyncClient) : Continues client client :=
  ⟨id, fun _ _ => id, fun _ => id, fun work hmem => by simp at hmem⟩

theorem continues_onCallBack (client : AsyncClient) (callback : ScreenLockCallback)
    (screenLockResult : Int) : Continues client (client.onCallBack callback screenLockResult) := by
  cases hobject : client.callbacks callback with
  | none =>
      unfold AsyncClient.onCallBack
      rw [hobject]
      exact continues_refl client
  | some object =>
      rw [AsyncClient.onCallBack_of_some hobject]
      refine ⟨id, fun _ _ => id, fun other hother => ?_, fun work hmem => ?_⟩
      · by_cases hsame : other = callback <;> simp [AsyncClient.keep, hsame, hother]
      · rw [List.drop_left, List.mem_singleton] at hmem
        rw [hmem]
        change Function.update client.callbacks callback _ callback ≠ none
        simp

theorem continues_asyncCallFunc (client : AsyncClient) (call : AsyncCall) :
    Continues client (client.asyncCallFunc offset call) := by
  by_cases hmakes : call.makesCallback = true
  · obtain ⟨object, hcallbacks⟩ := @AsyncClient.asyncCallFunc_callbacks offset call client hmakes
    obtain ⟨works, hshown, hown, hends⟩ :=
      @AsyncClient.asyncCallFunc_answers offset call client hmakes
    have hability : (client.asyncCallFunc offset call).ability = client.ability ∨
        (client.asyncCallFunc offset call).ability =
          client.ability.step (.call call.env call.caller call.request) := by
      rw [← call.serve_step]
      exact hends.imp And.left And.left
    refine ⟨fun haligned => ?_, fun haligned callback hknows => ?_, fun callback hkept => ?_,
      fun work hmem => ?_⟩
    · rcases hability with heq | heq <;> rw [heq]
      · exact haligned
      · exact client.ability.aligned_step _ haligned
    · rcases hability with heq | heq <;> rw [heq]
      · exact hknows
      · exact hknows.step haligned _
    · rw [hcallbacks]
      by_cases hsame : callback = call.callback <;> simp [hsame, hkept]
    · rw [hshown, List.drop_left] at hmem
      rw [hcallbacks, hown work hmem, Function.update_self]
      exact Option.some_ne_none _
  · rw [AsyncClient.asyncCallFunc_of_not_makes hmakes]
    exact continues_refl client

theorem sound_arrive (hsound : settling.Sound) (index : Nat) : (settling.arrive index).Sound := by
  unfold arrive
  split
  · exact hsound
  · next called screenLockResult hcall =>
      have hrest : ({ settling with calls := settling.calls.eraseIdx index } :
          SettlingClient).Sound :=
        ⟨hsound.aligned, fun callback hmem => hsound.known callback
          (List.map_subset _ List.eraseIdx_subset hmem), hsound.ours⟩
      refine hrest.follow ?_
      unfold AsyncClient.onCallBackRequest
      rw [if_neg (not_not.mpr rfl)]
      exact continues_onCallBack _ called screenLockResult

theorem sound_runWork (hsound : settling.Sound) (index : Nat) : (settling.runWork index).Sound := by
  unfold runWork
  split
  · exact hsound
  · next work hwork =>
      refine ⟨hsound.aligned, hsound.known, fun other hmem => hsound.ours other ?_⟩
      simp only [List.mem_append, List.mem_singleton] at hmem ⊢
      rcases hmem with hstill | hran | rfl
      · exact Or.inl (List.eraseIdx_subset hstill)
      · exact Or.inr hran
      · exact Or.inl (List.mem_of_getElem? hwork)

theorem sound_step (hsound : settling.Sound) (event : SettlingEvent) :
    ((machine offset).step settling event).Sound := by
  cases event with
  | call call => exact hsound.follow (continues_asyncCallFunc _ call)
  | service event => exact hsound.follow (continues_entered _ event)
  | arrive index => exact sound_arrive hsound index
  | forge callingUid callback screenLockResult =>
      refine hsound.follow ?_
      unfold AsyncClient.onCallBackRequest
      split
      · exact continues_refl _
      · exact continues_onCallBack _ callback screenLockResult
  | run index => exact sound_runWork hsound index

theorem callbacks_step {callback : ScreenLockCallback}
    (hours : settling.client.callbacks callback ≠ none) (event : SettlingEvent) :
    ((machine offset).step settling event).client.callbacks callback ≠ none := by
  cases event with
  | call call => exact (continues_asyncCallFunc settling.client call).kept _ hours
  | service event => exact hours
  | arrive index =>
      change (settling.arrive index).client.callbacks callback ≠ none
      unfold arrive
      split
      · exact hours
      · refine Continues.kept ?_ _ hours
        unfold follow AsyncClient.onCallBackRequest
        rw [if_neg (not_not.mpr rfl)]
        exact continues_onCallBack _ _ _
  | forge callingUid called screenLockResult =>
      refine Continues.kept ?_ _ hours
      change Continues settling.client (settling.client.onCallBackRequest _ _ _)
      unfold AsyncClient.onCallBackRequest
      split
      · exact continues_refl _
      · exact continues_onCallBack _ called screenLockResult
  | run index =>
      change (settling.runWork index).client.callbacks callback ≠ none
      unfold runWork
      split <;> exact hours

/-- Once it is made, a promise is neither lost nor doubled. -/
theorem count_step (hsound : settling.Sound) {callback : ScreenLockCallback}
    (hours : settling.client.callbacks callback ≠ none) {event : SettlingEvent}
    (henabled : (machine offset).enabled settling event) :
    ((machine offset).step settling event).count callback = settling.count callback := by
  cases event with
  | call call =>
      have hother : callback ≠ call.callback := by
        rintro rfl
        exact hours henabled.1
      rw [count_call hsound.aligned, if_neg hother, Nat.add_zero]
  | service event =>
      have hnone : callback ∉ ScreenLockSystemAbility.pushes event := fun hmem =>
        hours (henabled.2 callback (ScreenLockSystemAbility.passed_of_mem_pushes hmem))
      rw [count_service hsound.aligned, List.count_eq_zero.mpr hnone, Nat.add_zero]
  | arrive index => exact count_arrive hours index
  | forge callingUid called screenLockResult =>
      have hsame : settling.client.onCallBackRequest callingUid called screenLockResult =
          settling.client := if_pos henabled
      have hfollow := settling.count_follow callback settling.client
      change (settling.follow (settling.client.onCallBackRequest _ _ _)).count callback = _
      rw [hsame]
      simp only [WaitingListeners.callBacks_self, List.drop_length, List.map_nil,
        List.count_nil] at hfollow
      omega
  | run index => exact count_run callback index

theorem sound_begin (disk : Std.TreeMap String PreferencesValue) :
    (begin (ScreenLockSystemAbility.started disk)).Sound where
  aligned := rfl
  known callback hmem := by cases hmem
  ours work hmem := by cases hmem

theorem count_fresh (hsound : settling.Sound) {callback : ScreenLockCallback}
    (hnew : settling.client.callbacks callback = none)
    (hunknown : ¬ settling.client.ability.waiting.Knows callback) :
    settling.count callback = 0 := by
  have hworks : ∀ work ∈ settling.works ++ settling.settled, work.callback ≠ callback := by
    rintro work hwork rfl
    exact hsound.ours work hwork hnew
  have hsettled : callback ∉ settling.settlements := fun hmem => by
    obtain ⟨work, hwork, heq⟩ := List.mem_map.mp hmem
    exact hworks work (List.mem_append_right _ hwork) heq
  have hcoming : callback ∉ settling.coming := fun hmem => by
    simp only [coming, List.mem_append, or_assoc] at hmem
    rcases hmem with hwaits | hcalled | hqueued
    · exact hunknown ((WaitingListeners.knows_iff _).mpr (Or.inl hwaits))
    · exact hunknown (hsound.known callback hcalled)
    · obtain ⟨work, hwork, heq⟩ := List.mem_map.mp hqueued
      exact hworks work (List.mem_append_left _ hwork) heq
  rw [count, List.count_eq_zero.mpr hsettled, List.count_eq_zero.mpr hcoming]

/-- A task runs that calls back the listeners of the action. -/
def Completes (action : Action) : SettlingEvent → Prop
  | .service (.runLockTask _) => action = .lock
  | .service (.runUnlockTask _) => action ≠ .lock
  | _ => False

/-- The service as an event leaves it. -/
theorem ability_step (event : SettlingEvent) :
    ((machine offset).step settling event).client.ability = settling.client.ability ∨
      ∃ entry, ((machine offset).step settling event).client.ability =
          settling.client.ability.step entry ∧
        (event = .service entry ∨ ∃ call, event = .call call ∧ call.makesCallback = true ∧
          entry = .call call.env call.caller call.request) := by
  cases event with
  | call call =>
      by_cases hmakes : call.makesCallback = true
      · obtain ⟨works, -, -, hends⟩ :=
          @AsyncClient.asyncCallFunc_answers offset call settling.client hmakes
        rcases hends with ⟨hsame, -⟩ | ⟨hserved, -⟩
        · exact Or.inl hsame
        · rw [call.serve_step] at hserved
          exact Or.inr ⟨_, hserved, Or.inr ⟨call, rfl, hmakes, rfl⟩⟩
      · refine Or.inl (congrArg AsyncClient.ability ?_)
        exact AsyncClient.asyncCallFunc_of_not_makes hmakes
  | service event => exact Or.inr ⟨event, rfl, Or.inl rfl⟩
  | arrive index =>
      left
      change (settling.arrive index).client.ability = _
      unfold arrive
      split
      · rfl
      · exact AsyncClient.onCallBackRequest_ability _ _ _
  | forge callingUid called screenLockResult =>
      exact Or.inl (AsyncClient.onCallBackRequest_ability _ _ _)
  | run index =>
      left
      change (settling.runWork index).client.ability = _
      unfold runWork
      split <;> rfl

/-- Nothing of the binding comes to wait again. -/
theorem out_step (hsound : settling.Sound) {callback : ScreenLockCallback}
    (hours : settling.client.callbacks callback ≠ none) {event : SettlingEvent}
    (henabled : (machine offset).enabled settling event) {action : Action}
    (hout : callback ∉ settling.client.ability.waiting.awaitedIn action) :
    callback ∉ ((machine offset).step settling event).client.ability.waiting.awaitedIn action := by
  rcases @ability_step offset settling event with hsame | ⟨entry, hstep, hentry⟩
  · rw [hsame]
    exact hout
  · rw [hstep]
    intro hmem
    rcases ScreenLockSystemAbility.awaitedIn_step hsound.aligned hmem with hstill | hpushed
    · exact hout hstill
    · have hpassed := ScreenLockSystemAbility.passed_of_mem_pushes
        (ScreenLockSystemAbility.pushesIn_subset action entry hpushed)
      rcases hentry with rfl | ⟨call, rfl, -, rfl⟩
      · exact hours (henabled.2 callback hpassed)
      · refine hours (?_ : settling.client.callbacks callback = none)
        obtain rfl : call.callback = callback := by
          obtain ⟨action, _, _, _, _, _⟩ := call
          cases action <;> exact Option.some.inj hpassed
        exact henabled.1

theorem out_call (hsound : settling.Sound) {call : AsyncCall}
    (hunknown : ¬ settling.client.ability.waiting.Knows call.callback) {action : Action}
    (hother : action = .lock ↔ call.action ≠ .lock) :
    call.callback ∉
      ((machine offset).step settling (.call call)).client.ability.waiting.awaitedIn action := by
  have hout : call.callback ∉ settling.client.ability.waiting.awaitedIn action := fun hmem => by
    refine hunknown ((WaitingListeners.knows_iff _).mpr (Or.inl ?_))
    cases action with
    | lock => exact List.mem_append_left _ hmem
    | unlock | unlockScreen => exact List.mem_append_right _ hmem
  rcases @ability_step offset settling (.call call) with hsame | ⟨entry, hstep, hentry⟩
  · rw [hsame]
    exact hout
  · rw [hstep]
    intro hmem
    rcases ScreenLockSystemAbility.awaitedIn_step hsound.aligned hmem with hstill | hpushed
    · exact hout hstill
    · rcases hentry with hservice | ⟨_, hcall, -, rfl⟩
      · cases hservice
      · obtain rfl := SettlingEvent.call.inj hcall
        rw [ScreenLockSystemAbility.pushesIn_request hother] at hpushed
        cases hpushed

theorem out_completes {action : Action} {event : SettlingEvent}
    (henabled : (machine offset).enabled settling event) (hcompletes : Completes action event) :
    ((machine offset).step settling event).client.ability.waiting.awaitedIn action = [] := by
  cases event with
  | service event =>
      cases event with
      | runLockTask reportedAt =>
          obtain rfl : action = .lock := hcompletes
          exact ScreenLockSystemAbility.awaitedIn_runLockTask henabled.1
      | runUnlockTask reportedAt =>
          exact ScreenLockSystemAbility.awaitedIn_runUnlockTask hcompletes henabled.1
      | _ => cases hcompletes
  | _ => cases hcompletes

/-- What a run keeps for a promise that is made. -/
structure Made (callback : ScreenLockCallback) (settling : SettlingClient) : Prop where
  sound : settling.Sound
  ours : settling.client.callbacks callback ≠ none

theorem Made.step {callback : ScreenLockCallback} (hmade : Made callback settling)
    (event : SettlingEvent) : Made callback ((machine offset).step settling event) :=
  ⟨sound_step hmade.sound event, callbacks_step hmade.ours event⟩

theorem Made.run {callback : ScreenLockCallback} (hmade : Made callback settling)
    {events : List SettlingEvent} (hadmits : (machine offset).Admits settling events) :
    Made callback ((machine offset).run settling events) :=
  (machine offset).run_invariant (fun _ event _ hmade => hmade.step event) hadmits hmade

theorem Made.count_run {callback : ScreenLockCallback} (hmade : Made callback settling)
    {events : List SettlingEvent} (hadmits : (machine offset).Admits settling events) :
    ((machine offset).run settling events).count callback = settling.count callback := by
  have hkept := @Machine.run_invariant _ _ (machine offset)
    (fun later => Made callback later ∧ later.count callback = settling.count callback)
    (fun _ event henabled hboth => ⟨hboth.1.step event,
      (count_step hboth.1.sound hboth.1.ours henabled).trans hboth.2⟩) _ _ hadmits ⟨hmade, rfl⟩
  exact hkept.2

theorem Made.out_run {callback : ScreenLockCallback} (hmade : Made callback settling)
    {events : List SettlingEvent} (hadmits : (machine offset).Admits settling events)
    {action : Action} (hout : callback ∉ settling.client.ability.waiting.awaitedIn action) :
    callback ∉ ((machine offset).run settling events).client.ability.waiting.awaitedIn action := by
  have hkept := @Machine.run_invariant _ _ (machine offset)
    (fun later => Made callback later ∧
      callback ∉ later.client.ability.waiting.awaitedIn action)
    (fun _ event henabled hboth => ⟨hboth.1.step event,
      out_step hboth.1.sound hboth.1.ours henabled hboth.2⟩) _ _ hadmits ⟨hmade, hout⟩
  exact hkept.2

theorem made_call {call : AsyncCall} (hsound : settling.Sound)
    (hmakes : call.makesCallback = true) :
    Made call.callback ((machine offset).step settling (.call call)) := by
  refine ⟨sound_step hsound _, ?_⟩
  obtain ⟨object, hcallbacks⟩ :=
    @AsyncClient.asyncCallFunc_callbacks offset call settling.client hmakes
  change (settling.client.asyncCallFunc offset call).callbacks call.callback ≠ none
  rw [hcallbacks, Function.update_self]
  exact Option.some_ne_none object

/-- A callback that has been made before a task of its action ran does not wait after it. -/
theorem Made.not_awaited {callback : ScreenLockCallback} (hmade : Made callback settling)
    {events : List SettlingEvent} (hadmits : (machine offset).Admits settling events)
    {action : Action}
    (hother : ∀ other, (other = .lock ↔ action ≠ .lock) →
      callback ∉ settling.client.ability.waiting.awaitedIn other)
    (hran : ∃ event ∈ events, Completes action event) :
    callback ∉ ((machine offset).run settling events).client.ability.waiting.awaited := by
  have hown : callback ∉
      ((machine offset).run settling events).client.ability.waiting.awaitedIn action := by
    obtain ⟨event, hmem, hcompletes⟩ := hran
    obtain ⟨first, rest, rfl⟩ := List.append_of_mem hmem
    obtain ⟨hfirst, henabled, hrest⟩ := ((machine offset).steps_append _ _ _ _).mp hadmits
    rw [Machine.run_append, Machine.run_cons]
    refine ((hmade.run hfirst).step event).out_run hrest ?_
    rw [out_completes henabled hcompletes]
    exact List.not_mem_nil
  intro hmem
  rcases List.mem_append.mp hmem with hlock | hunlock
  · cases action with
    | lock => exact hown hlock
    | unlock | unlockScreen =>
        exact hmade.out_run hadmits (hother .lock (by decide)) hlock
  · cases action with
    | lock => exact hmade.out_run hadmits (hother .unlock (by decide)) hunlock
    | unlock | unlockScreen => exact hown hunlock

/-- Each promise is settled once: until it is, one thing is on its way to it, and nothing
after that. The promise of a call that the service has queued without a written reply is
settled twice. Once a task has run it is not the service that anybody waits for. -/
theorem promises_settled {disk : Std.TreeMap String PreferencesValue}
    {before after : List SettlingEvent} {call : AsyncCall} (hmakes : call.makesCallback = true)
    (hadmits : (machine offset).Admits (begin (ScreenLockSystemAbility.started disk))
      (before ++ .call call :: after)) :
    let asked := (machine offset).run (begin (ScreenLockSystemAbility.started disk)) before
    let final := (machine offset).run (begin (ScreenLockSystemAbility.started disk))
      (before ++ .call call :: after)
    final.settlements.count call.callback + final.coming.count call.callback =
        asked.client.owed call ∧
      ((∃ event ∈ after, Completes call.action event) →
        call.callback ∉ final.client.ability.waiting.awaited) := by
  intro asked final
  obtain ⟨hbefore, henabled, hafter⟩ := ((machine offset).steps_append _ _ _ _).mp hadmits
  have hsound : asked.Sound := @Machine.run_invariant _ _ (machine offset) Sound
    (fun _ event _ hsound => sound_step hsound event) _ _ hbefore (sound_begin disk)
  have hmade : Made call.callback ((machine offset).step asked (.call call)) :=
    made_call hsound hmakes
  have hfinal : final = (machine offset).run ((machine offset).step asked (.call call)) after :=
    Machine.run_append _ _ _ _
  rw [hfinal]
  refine ⟨?_, fun hran => ?_⟩
  · have hcount := hmade.count_run hafter
    rw [count_call hsound.aligned, if_pos rfl, count_fresh hsound henabled.1 henabled.2,
      Nat.zero_add] at hcount
    exact hcount
  · exact hmade.not_awaited hafter (fun _ hother => out_call hsound henabled.2 hother) hran

/-- The lock screen reports, the service calls back, and the application is told. -/
def reported : List SettlingEvent :=
  [.service (.call (.single 100) (.privileged 100)
      (.sendScreenLockEvent lockScreenResult ScreenChange.screenSucc)),
    .service (.runLockTask 1), .arrive 0, .run 0]

theorem reported_admits :
    (machine (.ofSubsystem 41)).Admits (begin (.started ∅))
      ([] ++ .call (AsyncClient.lockCall true) :: reported) := by
  refine ⟨⟨rfl, AsyncClient.started_not_knows⟩, ⟨trivial, ?_⟩, ⟨⟨0, by decide⟩, ?_⟩,
    Nat.zero_lt_succ _, Nat.zero_lt_succ _, trivial⟩
  · intro callback hpassed
    cases hpassed
  · intro callback hpassed
    cases hpassed

theorem lockCall_settled :
    let final := (machine (.ofSubsystem 41)).run (begin (.started ∅))
      ([] ++ .call (AsyncClient.lockCall true) :: reported)
    final.settlements.count 7 + final.coming.count 7 = 1 ∧
      7 ∉ final.client.ability.waiting.awaited := by
  obtain ⟨hcount, hwaits⟩ := promises_settled rfl reported_admits
  exact ⟨hcount.trans (by decide), hwaits ⟨.service (.runLockTask 1), by simp [reported], rfl⟩⟩

end Runs

end SettlingClient

end Screenlock
