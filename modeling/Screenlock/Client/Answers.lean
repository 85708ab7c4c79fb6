import Screenlock.Client.AsyncCall
import Screenlock.Foundation.KeyedList
import Screenlock.Service.Schedule

/-! # What an application is shown of its calls

Success is shown for a result of 0. The service passes it to a callback it has
queued, and the binding takes it for the status of a call whose reply is empty:
the stub drops the error of its handler, the proxy reads 0 from nothing, and 0
is not `E_SCREENLOCK_OK`. No other status is 0.
-/

namespace Screenlock

open Foundation

/-- The application sees neither an error nor a `false`. -/
def ScreenlockOnCallBack.ShowsSuccess (work : ScreenlockOnCallBack) : Prop :=
  work.uvWorkOnCallBack.error = none ∧ work.uvWorkOnCallBack.data ≠ some false

theorem ScreenlockOnCallBack.showsSuccess_iff (work : ScreenlockOnCallBack) :
    work.ShowsSuccess ↔ work.screenLockResult = ScreenChange.screenSucc := by
  unfold ShowsSuccess uvWorkOnCallBack
  by_cases hsuccess : work.screenLockResult = ScreenChange.screenSucc
  · simp [hsuccess]
  · by_cases hscreen : work.action = .unlockScreen <;> simp [hsuccess, hscreen]

section Errors

/-- The code is one the binding has an error for. -/
def Converted (code : ScreenLockError) : Prop :=
  code ∈ errorCodeConversion.map Prod.fst

instance (code : ScreenLockError) : Decidable (Converted code) :=
  inferInstanceAs (Decidable (code ∈ _))

/-- Every code that is converted has a text as well. -/
theorem getErrorInfo_converted (offset : ErrOffset) {code : ScreenLockError}
    (hconverted : Converted code) (errorInfo : ErrorInfo) :
    ∃ jsCode message, (jsCode, message) ∈ errorInfoMap ∧
      getErrorInfo offset (code.toInt offset) errorInfo = ⟨jsCode, message⟩ := by
  have hsome : ((errorCodeConversion.lookup code).bind fun jsCode =>
      errorInfoMap.lookup jsCode).isSome := by
    revert hconverted
    cases code <;> decide
  obtain ⟨message, hboth⟩ := Option.isSome_iff_exists.mp hsome
  obtain ⟨jsCode, hcode, hmessage⟩ := Option.bind_eq_some_iff.mp hboth
  refine ⟨jsCode, message, ?_, ?_⟩
  · obtain ⟨before, after, heq, _⟩ := List.lookup_eq_some_iff.mp hmessage
    rw [heq]
    exact List.mem_append_right _ List.mem_cons_self
  · unfold getErrorInfo getErrorMessage
    rw [KeyedList.lookup_map_key (ScreenLockError.toInt_injective offset), hcode]
    simp only [hmessage, Option.getD_some]

end Errors

section Replies

variable {σ : Type*} {exchange : Exchange} {offset : ErrOffset}
  {method : σ → ScreenLockError × σ} {service : σ}

/-- The stub reads what has arrived, and writes its answer. -/
def Exchange.Delivers (exchange : Exchange) : Prop :=
  exchange.Readable ∧ exchange.writesReply = true

instance : Decidable exchange.Delivers := inferInstanceAs (Decidable (_ ∧ _))

theorem Exchange.unlock_of_arrives (harrives : exchange.Arrives) :
    exchange.unlock offset method service =
      (if exchange.Delivers then (method service).1.toInt offset else 0,
        if exchange.Readable then (method service).2 else service) := by
  unfold unlock
  rw [Passage.transact_of_arrives _ harrives]
  unfold onRemoteRequest Passage.onRemoteRequest Delivers
  by_cases hreadable : exchange.Readable
  · by_cases hwrites : exchange.writesReply = true <;> simp [hreadable, hwrites, Passage.readInt32]
  · simp [hreadable, Passage.readInt32]

theorem Exchange.unlock_of_not_arrives (hlost : ¬ exchange.Arrives) :
    ∃ code, Converted code ∧
      exchange.unlock offset method service = (code.toInt offset, service) := by
  obtain ⟨code, hcode, heq⟩ := @Passage.transact_of_not_arrives _ _ offset service
    (exchange.onRemoteRequest offset method service) hlost
  refine ⟨code, ?_, heq⟩
  rcases hcode with rfl | rfl <;> decide

/-- `Lock` differs in the code for an interface token that is not written. -/
theorem Exchange.lock_of_arrives (harrives : exchange.Arrives) :
    exchange.lock offset method service = exchange.unlock offset method service :=
  if_neg (by simp [harrives.1])

theorem Exchange.lock_of_not_arrives (hlost : ¬ exchange.Arrives) :
    ∃ code, Converted code ∧
      exchange.lock offset method service = (code.toInt offset, service) := by
  by_cases htoken : exchange.writesInterfaceToken = false
  · exact ⟨.writeParcelError, by decide, if_pos htoken⟩
  · obtain ⟨code, hcode, heq⟩ := @unlock_of_not_arrives _ _ offset method service hlost
    exact ⟨code, hcode, (if_neg htoken).trans heq⟩

end Replies

section Service

variable (call : AsyncCall) (ability : ScreenLockSystemAbility)

theorem AsyncCall.serve_step :
    (call.serve ability).2 = ability.step (.call call.env call.caller call.request) := by
  obtain ⟨action, _, _, _, _, _⟩ := call
  cases action <;> rfl

/-- The service queues the callback or refuses with a code the binding knows. -/
theorem AsyncCall.serve_code : (call.serve ability).1 = .ok ∨ Converted (call.serve ability).1 := by
  obtain ⟨action, callback, _, _, env, caller⟩ := call
  have hsystem : Converted .notSystemApp := by decide
  have hpermission : Converted .noPermission := by decide
  have hunlock : (ability.readied.unlockScreen env caller callback).1 = .ok ∨
      Converted (ability.readied.unlockScreen env caller callback).1 := by
    have hfocus : Converted .notFocusApp := by decide
    unfold ScreenLockSystemAbility.unlockScreen
    split
    · exact Or.inr hfocus
    · exact Or.inl rfl
  cases action with
  | lock =>
      dsimp only [serve, ScreenLockSystemAbility.lock]
      split
      · exact Or.inr hsystem
      · split
        · exact Or.inr hpermission
        · exact Or.inl rfl
  | unlock =>
      dsimp only [serve, ScreenLockSystemAbility.unlock]
      split
      · exact Or.inr hsystem
      · exact hunlock
  | unlockScreen => exact hunlock

end Service

namespace WaitingListeners

variable {callback : ScreenLockCallback} {value : Int} {pushedAt ranAt : Nat}

theorem CalledBack.knows {waiting : WaitingListeners}
    (hcalled : waiting.CalledBack callback value pushedAt ranAt) : waiting.Knows callback := by
  rcases hcalled with ⟨done, hdone, hentry, _⟩ | ⟨called, hcalled, hentry, _⟩
  · exact Or.inr (Or.inl ⟨done, hdone, hentry⟩)
  · exact Or.inr (Or.inr (Or.inr ⟨called, hcalled, hentry⟩))

variable {ability : ScreenLockSystemAbility}

theorem CalledBack.step (hcalled : ability.waiting.CalledBack callback value pushedAt ranAt)
    (event : ServiceEvent) :
    (ability.step event).waiting.CalledBack callback value pushedAt ranAt := by
  rcases hcalled with ⟨done, hdone, hsays⟩ | ⟨called, hcalled, hsays⟩
  · exact Or.inl ⟨done, (ability.lockCalled_prefix event).subset hdone, hsays⟩
  · exact Or.inr ⟨called, (ability.unlockCalled_prefix event).subset hcalled, hsays⟩

theorem calledBack_call (env : Environment) (caller : Caller) (request : Request) :
    (ability.step (.call env caller request)).waiting.CalledBack callback value pushedAt ranAt ↔
      ability.waiting.CalledBack callback value pushedAt ranAt := by
  have hunlock := ability.step_unlockCalled (.call env caller request)
  unfold CalledBack
  rw [ability.call_lockCalled, hunlock]

/-- A callback is called back after it was queued. -/
theorem CalledBack.queued_before {disk : Std.TreeMap String PreferencesValue}
    (hreach : ScreenLockSystemAbility.machine.Reachable (.started disk) ability)
    (hcalled : ability.waiting.CalledBack callback value pushedAt ranAt) : pushedAt < ranAt := by
  obtain ⟨events, hadmits, rfl⟩ := hreach
  rcases hcalled with ⟨done, hdone, _, _, rfl, rfl⟩ | ⟨called, hcalled, _, _, rfl, rfl⟩
  · exact ((ScreenLockSystemAbility.mem_lockCalled_iff hadmits done).mp hdone).2.2.1
  · exact ((ScreenLockSystemAbility.mem_unlockCompleted_iff hadmits _).mp
      ⟨called, hcalled, rfl⟩).2.2.1

end WaitingListeners

namespace AsyncClient

/-- A success the application is shown is one the service has called back with,
after it had queued the callback. -/
def Vouched (waiting : WaitingListeners) (work : ScreenlockOnCallBack) : Prop :=
  work.ShowsSuccess → ∃ pushedAt ranAt, pushedAt < ranAt ∧
    waiting.CalledBack work.callback ScreenChange.screenSucc pushedAt ranAt

def Honest (client : AsyncClient) : Prop :=
  ∀ work ∈ client.onCallBacks, Vouched client.ability.waiting work

/-- The request of a call gets to the stub. -/
def Reaches (client : AsyncClient) (call : AsyncCall) : Prop :=
  call.makesCallback = true ∧
    (client.screenlockManagerProxy || call.exchange.findsProxy) = true ∧ call.exchange.Arrives

/-- The stub can read the request that gets to it, and its answer is written. -/
def Answered (client : AsyncClient) : AsyncEvent → Prop
  | .call call => client.Reaches call → call.exchange.Delivers
  | _ => True

/-- How a call ends: its status, and the service after it. -/
inductive Reply (offset : ErrOffset) (call : AsyncCall) (proxy : Bool)
    (ability : ScreenLockSystemAbility) : Int → ScreenLockSystemAbility → Prop where
  | lost {code : ScreenLockError}
      (hlost : ¬ ((proxy || call.exchange.findsProxy) = true ∧ call.exchange.Arrives))
      (hcode : Converted code) : Reply offset call proxy ability (code.toInt offset) ability
  | answered (hdelivers : call.exchange.Delivers) :
      Reply offset call proxy ability ((call.serve ability).1.toInt offset) (call.serve ability).2
  | empty {after : ScreenLockSystemAbility}
      (hreaches : (proxy || call.exchange.findsProxy) = true ∧ call.exchange.Arrives)
      (hempty : ¬ call.exchange.Delivers)
      (hafter : after = ability ∨ after = (call.serve ability).2) :
      Reply offset call proxy ability 0 after

variable {offset : ErrOffset} {call : AsyncCall} {client : AsyncClient}

theorem ask_reply :
    ∃ status after, Reply offset call client.screenlockManagerProxy client.ability status after ∧
      client.ask offset call = (status, { client with
        screenlockManagerProxy := client.screenlockManagerProxy || call.exchange.findsProxy
        ability := after }) := by
  by_cases hfound : (client.screenlockManagerProxy || call.exchange.findsProxy) = true
  · have hask : client.ask offset call =
        (if call.action = .lock then call.exchange.lock offset call.serve client.ability
          else call.exchange.unlock offset call.serve client.ability).map id fun ability =>
            { client with
              screenlockManagerProxy := client.screenlockManagerProxy || call.exchange.findsProxy
              ability := ability } := by
      unfold ask
      dsimp only
      rw [if_neg (by simp [hfound])]
      cases call.action <;> rfl
    by_cases harrives : call.exchange.Arrives
    · rw [hask, Exchange.lock_of_arrives harrives, ite_self, Exchange.unlock_of_arrives harrives]
      refine ⟨_, _, ?_, rfl⟩
      by_cases hdelivers : call.exchange.Delivers
      · rw [if_pos hdelivers, if_pos hdelivers.1]
        exact .answered hdelivers
      · -- the reply is empty, whether or not the service has been asked
        rw [if_neg hdelivers]
        refine .empty ⟨hfound, harrives⟩ hdelivers ?_
        split
        · exact Or.inr rfl
        · exact Or.inl rfl
    · have hlost : ∃ code, Converted code ∧
          (if call.action = .lock then call.exchange.lock offset call.serve client.ability
            else call.exchange.unlock offset call.serve client.ability) =
              (code.toInt offset, client.ability) := by
        split
        · exact Exchange.lock_of_not_arrives harrives
        · exact Exchange.unlock_of_not_arrives harrives
      obtain ⟨code, hcode, heq⟩ := hlost
      rw [hask, heq]
      exact ⟨_, _, .lost (fun hreaches => harrives hreaches.2) hcode, rfl⟩
  · have hlost : client.ask offset call = (ScreenLockError.nullptr.toInt offset, { client with
        screenlockManagerProxy := client.screenlockManagerProxy || call.exchange.findsProxy
        ability := client.ability }) := by
      unfold ask
      dsimp only
      rw [if_pos (by simpa using hfound)]
    rw [hlost]
    exact ⟨_, _, .lost (fun hreaches => hfound hreaches.1) (by decide), rfl⟩

section Told

/-- The work by which a call tells a status other than `E_SCREENLOCK_OK`. -/
def told (offset : ErrOffset) (call : AsyncCall) (status : Int) : ScreenlockOnCallBack :=
  (BindingCallback.onCallBack call.callback status
    ⟨call.action, getErrorInfo offset status { errorCode_ := (status % 2 ^ 32).toNat }⟩).1

theorem asyncCallFunc_of_not_makes (hmakes : ¬ call.makesCallback = true) :
    client.asyncCallFunc offset call = client :=
  if_pos (Bool.eq_false_iff.mpr hmakes)

theorem asyncCallFunc_reply (hmakes : call.makesCallback = true) :
    ∃ status after, Reply offset call client.screenlockManagerProxy client.ability status after ∧
      (client.asyncCallFunc offset call).ability = after ∧
      (client.asyncCallFunc offset call).onCallBacks =
        if status = ScreenLockError.ok.toInt offset then client.onCallBacks
        else client.onCallBacks ++ [told offset call status] := by
  obtain ⟨status, after, hreply, hask⟩ :=
    @ask_reply offset call (client.keep call.callback ⟨call.action, {}⟩)
  refine ⟨status, after, hreply, ?_⟩
  unfold asyncCallFunc
  rw [if_neg (by simp [hmakes])]
  dsimp only
  rw [hask]
  by_cases hok : status = ScreenLockError.ok.toInt offset
  · rw [if_neg (not_not.mpr hok), if_pos hok]
    exact ⟨rfl, rfl⟩
  · rw [if_pos hok, if_neg hok]
    unfold onCallBack keep
    simp only [Function.update_self]
    exact ⟨trivial, rfl⟩

theorem not_showsSuccess_told {code : ScreenLockError} :
    ¬ (told offset call (code.toInt offset)).ShowsSuccess := by
  rw [ScreenlockOnCallBack.showsSuccess_iff]
  exact (ScreenLockError.toInt_pos offset code).ne'

/-- A request that is refused or lost is shown as an error of the tables. -/
theorem told_refused {code : ScreenLockError} (hconverted : Converted code) :
    ∃ jsCode message, (jsCode, message) ∈ errorInfoMap ∧
      (told offset call (code.toInt offset)).uvWorkOnCallBack.error = some ⟨jsCode, message⟩ := by
  obtain ⟨jsCode, message, hentry, heq⟩ := getErrorInfo_converted offset hconverted
    { errorCode_ := (code.toInt offset % 2 ^ 32).toNat }
  refine ⟨jsCode, message, hentry, ?_⟩
  -- no converted code is one of the small results with a text of their own
  have hlarge : 3 ≤ code.ctorIdx := by
    revert hconverted
    cases code <;> decide
  have hpositive := offset.positive
  have htoInt := ScreenLockError.toInt_eq_add offset code
  have hsuccess : code.toInt offset ≠ 0 := by omega
  have hfail : code.toInt offset ≠ 1 := by omega
  have hcancel : code.toInt offset ≠ 2 := by omega
  unfold told BindingCallback.onCallBack ScreenlockOnCallBack.uvWorkOnCallBack
  simpa [hsuccess, hfail, hcancel] using heq

end Told

section Steps

theorem Vouched.mono {waiting later : WaitingListeners} {work : ScreenlockOnCallBack}
    (hvouched : Vouched waiting work)
    (hgrows : ∀ pushedAt ranAt,
      waiting.CalledBack work.callback ScreenChange.screenSucc pushedAt ranAt →
        later.CalledBack work.callback ScreenChange.screenSucc pushedAt ranAt) :
    Vouched later work := by
  intro hsuccess
  obtain ⟨pushedAt, ranAt, hlt, hcalled⟩ := hvouched hsuccess
  exact ⟨pushedAt, ranAt, hlt, hgrows pushedAt ranAt hcalled⟩

/-- Serving a request calls nobody back. -/
theorem calledBack_reply {proxy : Bool} {ability after : ScreenLockSystemAbility} {status : Int}
    (hreply : Reply offset call proxy ability status after) {callback : ScreenLockCallback}
    {value : Int} {pushedAt ranAt : Nat} :
    after.waiting.CalledBack callback value pushedAt ranAt ↔
      ability.waiting.CalledBack callback value pushedAt ranAt := by
  have hserve : (call.serve ability).2.waiting.CalledBack callback value pushedAt ranAt ↔
      ability.waiting.CalledBack callback value pushedAt ranAt := by
    rw [call.serve_step ability]
    exact WaitingListeners.calledBack_call call.env call.caller call.request
  cases hreply with
  | lost => exact Iff.rfl
  | answered => exact hserve
  | empty _ _ hafter =>
      rcases hafter with rfl | rfl
      · exact Iff.rfl
      · exact hserve

/-- A call is told honestly unless the stub answers it with an empty reply. -/
theorem honest_call (hhonest : client.Honest)
    (hfresh : ¬ client.ability.waiting.Knows call.callback) :
    (client.asyncCallFunc offset call).Honest ↔ client.Answered (.call call) := by
  by_cases hmakes : call.makesCallback = true
  · obtain ⟨status, after, hreply, hability, hshown⟩ :=
      @asyncCallFunc_reply offset call client hmakes
    have hcalls : ∀ callback value pushedAt ranAt,
        after.waiting.CalledBack callback value pushedAt ranAt ↔
          client.ability.waiting.CalledBack callback value pushedAt ranAt :=
      fun _ _ _ _ => calledBack_reply hreply
    have hbefore : ∀ work ∈ client.onCallBacks, Vouched after.waiting work :=
      fun work hwork => (hhonest work hwork).mono fun _ _ => (hcalls _ _ _ _).mpr
    have hkept : ∀ code : ScreenLockError, status = code.toInt offset →
        (client.asyncCallFunc offset call).Honest := by
      rintro code rfl work hwork
      rw [hability]
      rw [hshown] at hwork
      split at hwork
      · exact hbefore work hwork
      · rcases List.mem_append.mp hwork with hold | hnew
        · exact hbefore work hold
        · rw [List.mem_singleton.mp hnew]
          exact fun hsuccess => absurd hsuccess not_showsSuccess_told
    cases hreply with
    | lost hlost =>
        exact iff_of_true (hkept _ rfl) fun hreaches => absurd hreaches.2 hlost
    | answered hdelivers => exact iff_of_true (hkept _ rfl) fun _ => hdelivers
    | empty hreaches hempty hafter =>
        -- the status is 0, and nobody has called the new callback back
        refine iff_of_false (fun hafterwards => ?_) fun hanswered =>
          hempty (hanswered ⟨hmakes, hreaches⟩)
        rw [if_neg (ScreenLockError.toInt_pos offset .ok).ne] at hshown
        have htold : told offset call 0 ∈ (client.asyncCallFunc offset call).onCallBacks := by
          rw [hshown]
          exact List.mem_append_right _ List.mem_cons_self
        obtain ⟨pushedAt, ranAt, _, hcalled⟩ := hafterwards _ htold
          ((ScreenlockOnCallBack.showsSuccess_iff _).mpr rfl)
        rw [hability, hcalls] at hcalled
        exact hfresh hcalled.knows
  · rw [asyncCallFunc_of_not_makes hmakes]
    exact iff_of_true hhonest fun hreaches => absurd hreaches.1 hmakes

/-- Where the stub answers, a call shows nothing but an error of the tables. -/
theorem shown_of_answered (hanswered : client.Answered (.call call)) :
    ∀ work ∈ (client.asyncCallFunc offset call).onCallBacks, work ∈ client.onCallBacks ∨
      ∃ jsCode message, (jsCode, message) ∈ errorInfoMap ∧
        work.uvWorkOnCallBack.error = some ⟨jsCode, message⟩ := by
  intro work hwork
  by_cases hmakes : call.makesCallback = true
  · obtain ⟨status, after, hreply, _, hshown⟩ := @asyncCallFunc_reply offset call client hmakes
    rw [hshown] at hwork
    split at hwork
    · exact Or.inl hwork
    · next hrefused =>
        rcases List.mem_append.mp hwork with hold | hnew
        · exact Or.inl hold
        · rw [List.mem_singleton.mp hnew]
          cases hreply with
          | lost _ hcode => exact Or.inr (told_refused hcode)
          | answered =>
              rcases call.serve_code client.ability with hok | hcode
              · exact absurd (congrArg _ hok) hrefused
              · exact Or.inr (told_refused hcode)
          | empty hreaches hempty => exact absurd (hanswered ⟨hmakes, hreaches⟩) hempty
  · rw [asyncCallFunc_of_not_makes hmakes] at hwork
    exact Or.inl hwork

theorem honest_service (hhonest : client.Honest) (event : ServiceEvent) :
    { client with ability := client.ability.step event }.Honest :=
  fun work hwork => (hhonest work hwork).mono fun _ _ hcalled => hcalled.step event

/-- What the service passes to a callback may be shown. -/
theorem honest_onCallBackRequest {disk : Std.TreeMap String PreferencesValue}
    (hreach : ScreenLockSystemAbility.machine.Reachable (.started disk) client.ability)
    (hhonest : client.Honest) {callingUid : Int} {callback : ScreenLockCallback}
    {screenLockResult : Int}
    (hcalled : callingUid = foundationUid → ∃ pushedAt ranAt,
      client.ability.waiting.CalledBack callback screenLockResult pushedAt ranAt) :
    (client.onCallBackRequest callingUid callback screenLockResult).Honest := by
  unfold onCallBackRequest
  split
  · exact hhonest
  · next hfoundation =>
      obtain ⟨pushedAt, ranAt, hcalled⟩ := hcalled (not_not.mp hfoundation)
      unfold onCallBack
      split
      · exact hhonest
      · intro work hwork
        rcases List.mem_append.mp hwork with hold | hnew
        · exact hhonest work hold
        · rw [List.mem_singleton.mp hnew]
          intro hsuccess
          have hresult : screenLockResult = ScreenChange.screenSucc :=
            (ScreenlockOnCallBack.showsSuccess_iff _).mp hsuccess
          subst hresult
          exact ⟨pushedAt, ranAt, hcalled.queued_before hreach, hcalled⟩

end Steps

section Runs

variable {disk : Std.TreeMap String PreferencesValue} {ability : ScreenLockSystemAbility}

theorem reachable_step
    (hreach : ScreenLockSystemAbility.machine.Reachable (.started disk) client.ability)
    {event : AsyncEvent} (henabled : (machine offset).enabled client event) :
    ScreenLockSystemAbility.machine.Reachable (.started disk)
      ((machine offset).step client event).ability := by
  cases event with
  | call call =>
      have hserve : ScreenLockSystemAbility.machine.Reachable (.started disk)
          (call.serve client.ability).2 := by
        rw [call.serve_step]
        exact hreach.step trivial
      change ScreenLockSystemAbility.machine.Reachable _ (client.asyncCallFunc offset call).ability
      by_cases hmakes : call.makesCallback = true
      · obtain ⟨status, after, hreply, hability, _⟩ :=
          @asyncCallFunc_reply offset call client hmakes
        rw [hability]
        cases hreply with
        | lost => exact hreach
        | answered => exact hserve
        | empty _ _ hafter =>
            rcases hafter with rfl | rfl
            · exact hreach
            · exact hserve
      · rw [asyncCallFunc_of_not_makes hmakes]
        exact hreach
  | service event => exact hreach.step henabled.1
  | onCallBackRequest callingUid callback screenLockResult =>
      have hsame : (client.onCallBackRequest callingUid callback screenLockResult).ability =
          client.ability := by
        unfold onCallBackRequest onCallBack
        split
        · rfl
        · split <;> rfl
      change ScreenLockSystemAbility.machine.Reachable _
        (client.onCallBackRequest callingUid callback screenLockResult).ability
      rw [hsame]
      exact hreach

theorem honest_step
    (hreach : ScreenLockSystemAbility.machine.Reachable (.started disk) client.ability)
    (hhonest : client.Honest) {event : AsyncEvent}
    (henabled : (machine offset).enabled client event) :
    ((machine offset).step client event).Honest ↔ client.Answered event := by
  cases event with
  | call call => exact honest_call hhonest henabled.2
  | service event => exact iff_of_true (honest_service hhonest event) trivial
  | onCallBackRequest callingUid callback screenLockResult =>
      exact iff_of_true (honest_onCallBackRequest hreach hhonest henabled) trivial

/-- An application that has made no call yet. -/
def begin (ability : ScreenLockSystemAbility) : AsyncClient where
  screenlockManagerProxy := false
  callbacks _ := none
  onCallBacks := []
  ability := ability

/-- No success is shown without one of the service, exactly if the stub answers
every request that gets to it. -/
theorem honest_throughout_iff
    (hreach : ScreenLockSystemAbility.machine.Reachable (.started disk) ability)
    {events : List AsyncEvent} (hadmits : (machine offset).Admits (begin ability) events) :
    (machine offset).Throughout Honest (begin ability) events ↔
      (machine offset).Steps Answered (begin ability) events := by
  refine (machine offset).throughout_iff_steps
    (fun client => ScreenLockSystemAbility.machine.Reachable (.started disk) client.ability)
    (fun _ _ henabled hreach => reachable_step hreach henabled)
    (fun _ _ henabled hreach hhonest => honest_step hreach hhonest henabled) hadmits hreach ?_
  intro work hwork
  cases hwork

/-- A call of a caller that holds both permissions, on a way without a failure. -/
def lockCall (reads : Bool) : AsyncCall where
  action := .lock
  callback := 7
  makesCallback := true
  exchange := ⟨{ Passage.clear with readsRemoteObject := reads }, true⟩
  env := .single 100
  caller := .privileged 100

/-- The application locks, the lock screen reports, and the service calls back. -/
def lockRun : List AsyncEvent :=
  [.call (lockCall true),
    .service (.call (.single 100) (.privileged 100)
      (.sendScreenLockEvent lockScreenResult ScreenChange.screenSucc)),
    .service (.runLockTask 1),
    .onCallBackRequest foundationUid 7 ScreenChange.screenSucc]

theorem started_not_knows {callback : ScreenLockCallback} :
    ¬ (ScreenLockSystemAbility.started disk).waiting.Knows callback := by
  simp [WaitingListeners.Knows, ScreenLockSystemAbility.started, WaitingListeners.empty]

theorem lockRun_admits : (machine (.ofSubsystem 41)).Admits (begin (.started ∅)) lockRun := by
  refine ⟨⟨rfl, started_not_knows⟩, ⟨trivial, ?_⟩, ⟨⟨0, by decide⟩, ?_⟩,
    fun _ => ⟨0, 2, Or.inl ⟨⟨7, 0, 0, 1, 2⟩, by decide, by decide⟩⟩, trivial⟩
  · intro callback hpassed
    cases hpassed
  · intro callback hpassed
    cases hpassed

theorem lockRun_honest_iff :
    (machine (.ofSubsystem 41)).Throughout Honest (begin (.started ∅)) lockRun ↔
      (machine (.ofSubsystem 41)).Steps Answered (begin (.started ∅)) lockRun :=
  honest_throughout_iff (ScreenLockSystemAbility.machine.reachable_refl _) lockRun_admits

/-- The stub cannot read the callback of a request to lock; the application is
shown a success, and nothing was asked of the lock screen. -/
theorem unread_request_shown_as_success :
    (machine (.ofSubsystem 41)).Admits (begin (.started ∅)) [.call (lockCall false)] ∧
      ¬ (machine (.ofSubsystem 41)).Throughout Honest (begin (.started ∅))
        [.call (lockCall false)] := by
  have henabled : (machine (.ofSubsystem 41)).enabled (begin (.started ∅))
      (.call (lockCall false)) := ⟨rfl, started_not_knows⟩
  refine ⟨⟨henabled, trivial⟩, fun hhonest => ?_⟩
  have hbefore := hhonest [] List.nil_prefix
  have hafter := hhonest _ (List.prefix_refl _)
  have hreach := ScreenLockSystemAbility.machine.reachable_refl (.started ∅)
  have hanswered := (honest_step hreach hbefore henabled).mp hafter
  have hdelivers := hanswered ⟨rfl, rfl, by decide⟩
  revert hdelivers
  decide

end Runs

end AsyncClient

end Screenlock
