import Mathlib.Data.List.Perm.Basic
import Screenlock.Client.CallBacks

/-! # The way of a promise

A lock or unlock call of an application leaves a promise behind. What settles it has
to come a long way: it waits in the service for a result, is called back over IPC, is
queued as work for the event loop, and is run there. Calls and works overtake each
other.
-/

namespace Screenlock

open Foundation

/-- The service does anything else. -/
def AsyncClient.entered (event : ServiceEvent) (client : AsyncClient) : AsyncClient :=
  { client with ability := client.ability.step event }

/-- The binding and the service, with what is on its way from the one to the other. -/
structure SettlingClient where
  client : AsyncClient
  /-- The calls of `OnCallBack` that the service has made and that have not arrived. -/
  calls : List (ScreenLockCallback × Int)
  /-- The works in the event loop. -/
  works : List ScreenlockOnCallBack
  /-- The works that were run: each has settled its promise or called its function. -/
  settled : List ScreenlockOnCallBack

inductive SettlingEvent where
  | call (call : AsyncCall)
  | service (event : ServiceEvent)
  /-- A call of `OnCallBack` arrives. -/
  | arrive (index : Nat)
  /-- Another process sends such a request. -/
  | forge (callingUid : Int) (callback : ScreenLockCallback) (screenLockResult : Int)
  /-- The event loop runs a work. -/
  | run (index : Nat)

namespace SettlingClient

/-- What the new client has called back and queued joins what is under way. -/
def follow (after : AsyncClient) (settling : SettlingClient) : SettlingClient :=
  { settling with
    client := after
    calls := settling.calls ++ settling.client.ability.waiting.callBacks after.ability.waiting
    works := settling.works ++ after.onCallBacks.drop settling.client.onCallBacks.length }

def arrive (index : Nat) (settling : SettlingClient) : SettlingClient :=
  match settling.calls[index]? with
  | none => settling
  | some (callback, screenLockResult) =>
      { settling with calls := settling.calls.eraseIdx index }.follow
        (settling.client.onCallBackRequest AsyncClient.foundationUid callback screenLockResult)

def runWork (index : Nat) (settling : SettlingClient) : SettlingClient :=
  match settling.works[index]? with
  | none => settling
  | some work =>
      { settling with
        works := settling.works.eraseIdx index
        settled := settling.settled ++ [work] }

/-- An application that has made no call yet. -/
def begin (ability : ScreenLockSystemAbility) : SettlingClient :=
  ⟨AsyncClient.begin ability, [], [], []⟩

/-- Calls and entries into the service come as they do without the way between the two. -/
def machine (offset : ErrOffset) : Machine SettlingClient SettlingEvent where
  enabled settling event := match event with
    | .call call => (AsyncClient.machine offset).enabled settling.client (.call call)
    | .service event => (AsyncClient.machine offset).enabled settling.client (.service event)
    | .arrive index => index < settling.calls.length
    | .forge callingUid _ _ => callingUid ≠ AsyncClient.foundationUid
    | .run index => index < settling.works.length
  step settling event := match event with
    | .call call => settling.follow (settling.client.asyncCallFunc offset call)
    | .service event => settling.follow (settling.client.entered event)
    | .arrive index => settling.arrive index
    | .forge callingUid callback screenLockResult =>
        settling.follow (settling.client.onCallBackRequest callingUid callback screenLockResult)
    | .run index => settling.runWork index

/-- The promises that something is on its way to. -/
def coming (settling : SettlingClient) : List ScreenLockCallback :=
  settling.client.ability.waiting.awaited ++ settling.calls.map Prod.fst ++
    settling.works.map ScreenlockOnCallBack.callback

/-- The promises that were settled, as often as they were. -/
def settlements (settling : SettlingClient) : List ScreenLockCallback :=
  settling.settled.map ScreenlockOnCallBack.callback

end SettlingClient

namespace AsyncClient

variable {offset : ErrOffset} {call : AsyncCall} {client : AsyncClient}

instance : Decidable (client.Reaches call) := inferInstanceAs (Decidable (_ ∧ _ ∧ _))

theorem ask_answer :
    ((client.ask offset call).1, (client.ask offset call).2.ability) =
      if (client.screenlockManagerProxy || call.exchange.findsProxy) = false then
        (ScreenLockError.nullptr.toInt offset, client.ability)
      else if call.action = .lock then call.exchange.lock offset call.serve client.ability
      else call.exchange.unlock offset call.serve client.ability := by
  unfold ask
  dsimp only
  split
  · rfl
  · cases call.action <;> rfl

/-- The answer to a request that gets to the stub. -/
theorem ask_of_reaches
    (hreaches : (client.screenlockManagerProxy || call.exchange.findsProxy) = true ∧
      call.exchange.Arrives) :
    ((client.ask offset call).1, (client.ask offset call).2.ability) =
      (if call.exchange.Delivers then (call.serve client.ability).1.toInt offset else 0,
        if call.exchange.Readable then (call.serve client.ability).2 else client.ability) := by
  obtain ⟨hfound, harrives⟩ := hreaches
  rw [ask_answer, if_neg (by simp [hfound]), Exchange.lock_of_arrives harrives, ite_self,
    Exchange.unlock_of_arrives harrives]

theorem ask_of_not_reaches
    (hlost : ¬((client.screenlockManagerProxy || call.exchange.findsProxy) = true ∧
      call.exchange.Arrives)) :
    ∃ code, Converted code ∧
      ((client.ask offset call).1, (client.ask offset call).2.ability) =
        (code.toInt offset, client.ability) := by
  rw [ask_answer]
  split
  · exact ⟨.nullptr, by decide, rfl⟩
  · next hfound =>
      have harrives : ¬ call.exchange.Arrives := fun harrives =>
        hlost ⟨(Bool.not_eq_false _).mp hfound, harrives⟩
      split
      · exact Exchange.lock_of_not_arrives harrives
      · exact Exchange.unlock_of_not_arrives harrives

theorem ask_callbacks : (client.ask offset call).2.callbacks = client.callbacks := by
  unfold ask
  dsimp only
  split <;> rfl

theorem onCallBack_of_some {callback : ScreenLockCallback} {object : BindingCallback}
    (hobject : client.callbacks callback = some object) (screenLockResult : Int) :
    client.onCallBack callback screenLockResult =
      { client.keep callback (object.onCallBack callback screenLockResult).2 with
        onCallBacks :=
          client.onCallBacks ++ [(object.onCallBack callback screenLockResult).1] } := by
  unfold onCallBack
  rw [hobject]

theorem onCallBackRequest_ability (callingUid : Int) (callback : ScreenLockCallback)
    (screenLockResult : Int) :
    (client.onCallBackRequest callingUid callback screenLockResult).ability = client.ability := by
  unfold onCallBackRequest onCallBack
  split
  · rfl
  · split <;> rfl

theorem keep_onCallBack_callbacks (callback : ScreenLockCallback) (object : BindingCallback)
    (screenLockResult : Int) :
    ((client.keep callback object).onCallBack callback screenLockResult).callbacks =
      Function.update client.callbacks callback
        (some (object.onCallBack callback screenLockResult).2) := by
  rw [onCallBack_of_some (Function.update_self _ _ _)]
  exact Function.update_idem _ _ _

theorem asyncCallFunc_callbacks (hmakes : call.makesCallback = true) :
    ∃ object, (client.asyncCallFunc offset call).callbacks =
      Function.update client.callbacks call.callback (some object) := by
  have hasked := @ask_callbacks offset call (client.keep call.callback ⟨call.action, {}⟩)
  unfold asyncCallFunc
  rw [if_neg (by simp [hmakes])]
  dsimp only
  split
  · rw [keep_onCallBack_callbacks, hasked]
    exact ⟨_, Function.update_idem _ _ _⟩
  · exact ⟨_, hasked⟩

/-- The service has queued the callback and could not write that it has. -/
def AnswersTwice (client : AsyncClient) (call : AsyncCall) : Prop :=
  client.Reaches call ∧ call.exchange.Readable ∧ call.exchange.writesReply = false ∧
    (call.serve client.ability).1 = .ok

instance : Decidable (client.AnswersTwice call) :=
  inferInstanceAs (Decidable (_ ∧ _ ∧ _ ∧ _))

/-- How often the promise of the call is to be settled. Without an object there is nothing
that could settle it. -/
def owed (client : AsyncClient) (call : AsyncCall) : Nat :=
  if call.makesCallback = false then 0 else if client.AnswersTwice call then 2 else 1

/-- A call hands its own answer to the event loop if that is not an acceptance. -/
theorem asyncCallFunc_shown (hmakes : call.makesCallback = true) :
    (client.asyncCallFunc offset call).ability = (client.ask offset call).2.ability ∧
      (client.asyncCallFunc offset call).onCallBacks = client.onCallBacks ++
        if (client.ask offset call).1 = ScreenLockError.ok.toInt offset then []
        else [told offset call (client.ask offset call).1] := by
  have hsame : (((client.keep call.callback ⟨call.action, {}⟩).ask offset call).1,
      ((client.keep call.callback ⟨call.action, {}⟩).ask offset call).2.ability) =
        ((client.ask offset call).1, (client.ask offset call).2.ability) := by
    rw [ask_answer, ask_answer]
    rfl
  obtain ⟨hstatus, hability⟩ := Prod.mk.inj hsame
  rw [← hstatus, ← hability]
  obtain ⟨status, after, -, hask⟩ :=
    @ask_reply offset call (client.keep call.callback ⟨call.action, {}⟩)
  unfold asyncCallFunc
  rw [if_neg (by simp [hmakes])]
  dsimp only
  rw [hask]
  by_cases hok : status = ScreenLockError.ok.toInt offset
  · rw [if_neg (not_not.mpr hok), if_pos hok, List.append_nil]
    exact ⟨rfl, rfl⟩
  · rw [if_pos hok, if_neg hok, onCallBack_of_some (Function.update_self _ _ _)]
    exact ⟨rfl, rfl⟩

/-- How often a call answers itself, and whether the service takes it. -/
theorem asyncCallFunc_answers (hmakes : call.makesCallback = true) :
    ∃ works, (client.asyncCallFunc offset call).onCallBacks = client.onCallBacks ++ works ∧
      (∀ work ∈ works, work.callback = call.callback) ∧
      ((client.asyncCallFunc offset call).ability = client.ability ∧
          works.length = client.owed call ∨
        (client.asyncCallFunc offset call).ability = (call.serve client.ability).2 ∧
          works.length + (if (call.serve client.ability).1 = .ok then 1 else 0) =
            client.owed call) := by
  obtain ⟨hability, hshown⟩ := @asyncCallFunc_shown offset call client hmakes
  refine ⟨_, hshown, ?_, ?_⟩
  · intro work hwork
    split at hwork
    · cases hwork
    · rw [List.mem_singleton.mp hwork]
      rfl
  · rw [hability]
    have hreaches : client.Reaches call ↔
        (client.screenlockManagerProxy || call.exchange.findsProxy) = true ∧
          call.exchange.Arrives := by simp only [Reaches, hmakes, true_and]
    have howed : client.owed call = if client.AnswersTwice call then 2 else 1 :=
      if_neg (by simp [hmakes])
    have hzero := (ScreenLockError.toInt_pos offset .ok).ne
    by_cases hasked : client.Reaches call
    · obtain ⟨hstatus, hafter⟩ := Prod.mk.inj (@ask_of_reaches offset call client
        (hreaches.mp hasked))
      rw [hstatus, hafter, howed]
      by_cases hreads : call.exchange.Readable
      · right
        by_cases hwrites : call.exchange.writesReply = true
        · simp only [AnswersTwice, Exchange.Delivers, hreads, hwrites, and_self, if_true,
            ScreenLockError.toInt_eq_ok_iff, Bool.true_eq_false, false_and, and_false, if_false,
            true_and]
          split <;> rfl
        · simp only [AnswersTwice, Exchange.Delivers, hasked, hreads, hwrites, hzero, and_false,
            if_true, if_false, Bool.false_eq_true, true_and, List.length_singleton]
          split <;> rfl
      · left
        simp [AnswersTwice, Exchange.Delivers, hreads, hzero]
    · obtain ⟨code, hcode, heq⟩ := @ask_of_not_reaches offset call client
        fun hall => hasked (hreaches.mpr hall)
      obtain ⟨hstatus, hafter⟩ := Prod.mk.inj heq
      have hrefused : code ≠ .ok := by
        rintro rfl
        revert hcode
        decide
      left
      rw [hstatus, hafter, howed]
      simp [AnswersTwice, hasked, hrefused, ScreenLockError.toInt_eq_ok_iff]

end AsyncClient

namespace SettlingClient

section Counting

variable {offset : ErrOffset} {settling : SettlingClient}

/-- How often the promise was settled and is still to be settled. -/
def count (callback : ScreenLockCallback) (settling : SettlingClient) : Nat :=
  settling.settlements.count callback + settling.coming.count callback

theorem count_follow (callback : ScreenLockCallback) (after : AsyncClient) :
    (settling.follow after).count callback +
        settling.client.ability.waiting.awaited.count callback =
      settling.count callback + after.ability.waiting.awaited.count callback +
        ((settling.client.ability.waiting.callBacks after.ability.waiting).map Prod.fst).count
          callback +
        ((after.onCallBacks.drop settling.client.onCallBacks.length).map
          ScreenlockOnCallBack.callback).count callback := by
  simp only [count, settlements, coming, follow, List.map_append, List.count_append]
  omega

theorem count_service (haligned : settling.client.ability.waiting.Aligned) (event : ServiceEvent)
    (callback : ScreenLockCallback) :
    ((machine offset).step settling (.service event)).count callback =
      settling.count callback +
        (ScreenLockSystemAbility.pushes event).count callback := by
  have hfollow := settling.count_follow callback (settling.client.entered event)
  have hconserves := List.Perm.count_eq
    (ScreenLockSystemAbility.step_conserves haligned event) callback
  simp only [AsyncClient.entered, List.count_append, List.drop_length, List.map_nil,
    List.count_nil] at hfollow hconserves
  change (settling.follow (settling.client.entered event)).count callback = _
  simp only [AsyncClient.entered]
  omega

theorem count_call (haligned : settling.client.ability.waiting.Aligned) (call : AsyncCall)
    (callback : ScreenLockCallback) :
    ((machine offset).step settling (.call call)).count callback =
      settling.count callback +
        if callback = call.callback then settling.client.owed call else 0 := by
  change (settling.follow (settling.client.asyncCallFunc offset call)).count callback = _
  by_cases hmakes : call.makesCallback = true
  · obtain ⟨works, hshown, hown, hends⟩ :=
      @AsyncClient.asyncCallFunc_answers offset call settling.client hmakes
    have hfollow := settling.count_follow callback (settling.client.asyncCallFunc offset call)
    have hworks : (works.map ScreenlockOnCallBack.callback).count callback =
        if callback = call.callback then works.length else 0 := by
      rw [List.map_congr_left hown, List.map_const', List.count_replicate]
      exact if_congr (beq_iff_eq.trans eq_comm) rfl rfl
    rw [hshown, List.drop_left, hworks] at hfollow
    rcases hends with ⟨hability, hlength⟩ | ⟨hability, hlength⟩
    · rw [hability, WaitingListeners.callBacks_self] at hfollow
      simp only [List.map_nil, List.count_nil, hlength] at hfollow
      omega
    · have hconserves := List.Perm.count_eq (ScreenLockSystemAbility.step_conserves haligned
        (.call call.env call.caller call.request)) callback
      rw [List.count_append, List.count_append, ← call.serve_step,
        ScreenLockSystemAbility.pushes_request call settling.client.ability] at hconserves
      rw [hability] at hfollow
      by_cases hcallback : callback = call.callback
      · rw [if_pos hcallback] at hfollow ⊢
        have htaken : (if (call.serve settling.client.ability).1 = .ok then [call.callback]
            else []).count callback =
              if (call.serve settling.client.ability).1 = .ok then 1 else 0 := by
          rw [hcallback]
          split <;> simp
        omega
      · rw [if_neg hcallback] at hfollow ⊢
        have htaken : (if (call.serve settling.client.ability).1 = .ok then [call.callback]
            else []).count callback = 0 := by
          split <;> simp [Ne.symm hcallback]
        omega
  · have hsame : settling.client.asyncCallFunc offset call = settling.client :=
      AsyncClient.asyncCallFunc_of_not_makes hmakes
    have howed : settling.client.owed call = 0 := if_pos (by simpa using hmakes)
    have hfollow := settling.count_follow callback settling.client
    rw [hsame, howed, ite_self]
    simp only [WaitingListeners.callBacks_self, List.drop_length, List.map_nil,
      List.count_nil] at hfollow
    omega

theorem count_onCallBack {callback called : ScreenLockCallback}
    (hours : settling.client.callbacks callback ≠ none) (screenLockResult : Int) :
    (settling.follow (settling.client.onCallBack called screenLockResult)).count callback =
      settling.count callback + [called].count callback := by
  cases hobject : settling.client.callbacks called with
  | none =>
      have hsame : settling.client.onCallBack called screenLockResult = settling.client := by
        unfold AsyncClient.onCallBack
        rw [hobject]
      have hother : called ≠ callback := by
        rintro rfl
        exact hours hobject
      have hfollow := settling.count_follow callback settling.client
      rw [hsame, List.count_singleton, if_neg (by simpa using hother)]
      simp only [WaitingListeners.callBacks_self, List.drop_length, List.map_nil,
        List.count_nil] at hfollow
      omega
  | some object =>
      have hfollow := settling.count_follow callback
        (settling.client.onCallBack called screenLockResult)
      rw [AsyncClient.onCallBack_of_some hobject] at hfollow ⊢
      simp only [AsyncClient.keep, WaitingListeners.callBacks_self, List.drop_left, List.map_nil,
        List.count_nil, List.map_cons] at hfollow ⊢
      have hwork : (object.onCallBack called screenLockResult).1.callback = called := rfl
      rw [hwork] at hfollow
      omega

theorem count_arrive {callback : ScreenLockCallback}
    (hours : settling.client.callbacks callback ≠ none) (index : Nat) :
    (settling.arrive index).count callback = settling.count callback := by
  unfold arrive
  split
  · rfl
  · next called screenLockResult hcall =>
      obtain ⟨hlt, heq⟩ := List.getElem?_eq_some_iff.mp hcall
      have hperm := (List.getElem_cons_eraseIdx_perm hlt).map Prod.fst
      have hcount := hperm.count_eq callback
      rw [heq] at hcount
      unfold AsyncClient.onCallBackRequest
      rw [if_neg (not_not.mpr rfl)]
      have harrived := @count_onCallBack { settling with calls := settling.calls.eraseIdx index }
        callback called hours screenLockResult
      rw [harrived]
      simp only [count, settlements, coming, List.map_cons, List.count_append, List.count_cons,
        List.count_nil] at hcount ⊢
      omega

theorem count_run (callback : ScreenLockCallback) (index : Nat) :
    (settling.runWork index).count callback = settling.count callback := by
  unfold runWork
  split
  · rfl
  · next work hwork =>
      obtain ⟨hlt, heq⟩ := List.getElem?_eq_some_iff.mp hwork
      have hperm := (List.getElem_cons_eraseIdx_perm hlt).map ScreenlockOnCallBack.callback
      have hcount := hperm.count_eq callback
      rw [heq] at hcount
      simp only [count, settlements, coming, List.map_append, List.count_append, List.map_cons,
        List.map_nil, List.count_cons, List.count_nil] at hcount ⊢
      omega

end Counting

end SettlingClient

end Screenlock
