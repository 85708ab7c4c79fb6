import Mathlib.Data.Fintype.Basic
import Screenlock.Foundation.History
import Screenlock.InnerListener.Delivery
import Screenlock.StrongAuth.Flags

/-! # Flags stored in one order and announced in another

Any number of threads may be in `SetStrongAuthStat` for one account. A call that
makes a record announces it under `strongAuthTimerMutex`; a call that changes one
releases the mutex first, and others may store and announce before it goes on.
-/

namespace Screenlock

open Foundation

/-- How far a call of `SetStrongAuthStat` has come. -/
inductive CallStage where
  | called
  /-- The flag is stored and the mutex released; the change is not announced. -/
  | stored
  | returned
  deriving DecidableEq, Repr

/-- What a call does in one piece: the section under the mutex, and what comes
after its release. -/
inductive CallMove (ι : Type*) where
  | locked (call : ι)
  | announce (call : ι)
  deriving DecidableEq

namespace StrongAuthManger

variable (env : Environment) (userId : UserId) (reasonFlag : Int) (manager : StrongAuthManger)

/-- `SetStrongAuthStat` as far as it holds `strongAuthTimerMutex`. -/
def setStrongAuthStatLocked : CallStage × StrongAuthManger :=
  match manager.strongAuthStateInfo[userId]? with
  | none =>
      (.returned,
        (manager.storeFlag userId reasonFlag).notifyStrongAuthChange env userId reasonFlag)
  | some oldFlag =>
      if oldFlag = StrongAuthReasonFlags.afterBoot ∧ reasonFlag ≠ StrongAuthReasonFlags.none then
        (.returned, manager)
      else (.stored, manager.storeFlag userId reasonFlag)

/-- Without another call in between, the two pieces are the whole function. -/
theorem setStrongAuthStat_eq_locked :
    manager.setStrongAuthStat env userId reasonFlag =
      let (stage, after) := manager.setStrongAuthStatLocked env userId reasonFlag
      if stage = .stored then after.notifyStrongAuthChange env userId reasonFlag else after := by
  unfold setStrongAuthStat setStrongAuthStatLocked
  cases manager.strongAuthStateInfo[userId]? with
  | none => rfl
  | some oldFlag =>
      dsimp only
      split <;> rfl

/-- The three ways through the section: a new record announced at once, a
refusal, or a change that is announced later. -/
theorem setStrongAuthStatLocked_cases :
    (manager.strongAuthStateInfo[userId]? = none ∧
      manager.setStrongAuthStatLocked env userId reasonFlag = (.returned,
        (manager.storeFlag userId reasonFlag).notifyStrongAuthChange env userId reasonFlag)) ∨
    (manager.strongAuthStateInfo[userId]? ≠ none ∧
      manager.setStrongAuthStatLocked env userId reasonFlag = (.returned, manager)) ∨
    (manager.strongAuthStateInfo[userId]? ≠ none ∧
      manager.setStrongAuthStatLocked env userId reasonFlag =
        (.stored, manager.storeFlag userId reasonFlag)) := by
  unfold setStrongAuthStatLocked
  cases hrecord : manager.strongAuthStateInfo[userId]? with
  | none => exact Or.inl ⟨rfl, rfl⟩
  | some oldFlag =>
      dsimp only
      split
      · exact Or.inr (Or.inl ⟨Option.some_ne_none _, rfl⟩)
      · exact Or.inr (Or.inr ⟨Option.some_ne_none _, rfl⟩)

end StrongAuthManger

/-- Calls of `SetStrongAuthStat` for one account, each with its flag. -/
structure FlagCalls (ι : Type*) where
  env : Environment
  userId : UserId
  reasonFlag : ι → Int

structure FlagRace (ι : Type*) where
  manager : StrongAuthManger
  stage : ι → CallStage

namespace FlagCalls

variable {ι : Type*} [DecidableEq ι] (calls : FlagCalls ι)

def machine : Machine (FlagRace ι) (CallMove ι) where
  enabled race move := match move with
    | .locked call => race.stage call = .called
    | .announce call => race.stage call = .stored
  step race move := match move with
    | .locked call =>
        let (stage, manager) := race.manager.setStrongAuthStatLocked calls.env calls.userId
          (calls.reasonFlag call)
        ⟨manager, Function.update race.stage call stage⟩
    | .announce call =>
        ⟨race.manager.notifyStrongAuthChange calls.env calls.userId (calls.reasonFlag call),
          Function.update race.stage call .returned⟩

instance (race : FlagRace ι) : (move : CallMove ι) → Decidable (calls.machine.enabled race move)
  | .locked call => inferInstanceAs (Decidable (race.stage call = .called))
  | .announce call => inferInstanceAs (Decidable (race.stage call = .stored))

/-- Every call is ahead, and nothing is announced yet. -/
def start (manager : StrongAuthManger) : FlagRace ι :=
  ⟨{ manager with changes := [] }, fun _ => .called⟩

def Finished (race : FlagRace ι) : Prop :=
  ∀ call, race.stage call = .returned

instance [Fintype ι] (race : FlagRace ι) : Decidable (Finished race) :=
  inferInstanceAs (Decidable (∀ call, race.stage call = .returned))

/-- What the account's record holds. -/
def flag (race : FlagRace ι) : Option Int :=
  race.manager.strongAuthStateInfo[calls.userId]?

/-- What a listener's remote object has been handed, in order. -/
def told (innerListeners : InnerListenerManager) (remote : RemoteObject) (race : FlagRace ι) :
    List (UserId × Int) :=
  race.manager.changes.flatMap fun (userId, reasonFlag) =>
    innerListeners.delivered userId reasonFlag ListenType.strongAuth remote

/-- What the listener goes by: the last flag it was handed, and before that the
flag that was on record when the calls began. -/
def believed (innerListeners : InnerListenerManager) (remote : RemoteObject)
    (begun race : FlagRace ι) : Option Int :=
  ((told innerListeners remote race).getLast?.map Prod.snd).or (calls.flag begun)

def IsAnnounce : CallMove ι → Prop
  | .locked _ => False
  | .announce _ => True

/-- The last change to be announced after the release of the mutex is still on
record when it is announced. -/
def LastAnnouncedInTime (race : FlagRace ι) (moves : List (CallMove ι)) : Prop :=
  ∀ before call after, moves = before ++ .announce call :: after →
    (∀ later ∈ after, ¬ IsAnnounce later) →
      calls.flag (calls.machine.run race before) = some (calls.reasonFlag call)

section Deliveries

variable {innerListeners : InnerListenerManager} {remote : RemoteObject}

theorem getLast?_delivered {userId : UserId}
    (hlistens : innerListeners.Interested userId ListenType.strongAuth remote) (state : Int) :
    (innerListeners.delivered userId state ListenType.strongAuth remote).getLast? =
      some (userId, state) := by
  have hmem : (userId, state) ∈
      innerListeners.delivered userId state ListenType.strongAuth remote := by
    have hregistered : some remote ∈ (innerListeners.onStateChanged userId
        ListenType.strongAuth).map InnerListener.asObject := by
      rw [InnerListenerManager.onStateChanged, List.map_append, List.mem_append]
      exact hlistens
    obtain ⟨listener, hlistener, hobject⟩ := List.mem_map.mp hregistered
    exact List.mem_filterMap.mpr ⟨listener, hlistener, if_pos hobject⟩
  have hall : ∀ change ∈ innerListeners.delivered userId state ListenType.strongAuth remote,
      change = (userId, state) := by
    intro change hchange
    obtain ⟨listener, _, hgiven⟩ := List.mem_filterMap.mp hchange
    split at hgiven
    · exact (Option.some.inj hgiven).symm
    · cases hgiven
  have hsome := List.getLast?_eq_some_getLast (List.ne_nil_of_mem hmem)
  rw [hsome, hall _ (List.getLast_mem _)]

omit [DecidableEq ι] in
theorem believed_congr {begun race after : FlagRace ι} (hmanager : after.manager = race.manager) :
    calls.believed innerListeners remote begun after =
      calls.believed innerListeners remote begun race := by
  unfold believed told
  rw [hmanager]

omit [DecidableEq ι] in
/-- An announcement settles what the listener goes by. -/
theorem believed_announced {manager : StrongAuthManger} {begun after : FlagRace ι}
    {reasonFlag : Int} (hverified : calls.env.isOsAccountUnlocked calls.userId = true)
    (hlistens : innerListeners.Interested calls.userId ListenType.strongAuth remote)
    (hmanager : after.manager =
      manager.notifyStrongAuthChange calls.env calls.userId reasonFlag) :
    calls.believed innerListeners remote begun after = some reasonFlag := by
  have hchanges : (manager.notifyStrongAuthChange calls.env calls.userId reasonFlag).changes =
      manager.changes ++ [(calls.userId, reasonFlag)] := by
    unfold StrongAuthManger.notifyStrongAuthChange
    rw [hverified]
    split <;> rfl
  unfold believed told
  rw [hmanager, hchanges, List.flatMap_append, List.getLast?_append, List.flatMap_singleton,
    getLast?_delivered hlistens]
  rfl

end Deliveries

section Quiet

variable {calls} {innerListeners : InnerListenerManager} {remote : RemoteObject}

/-- While nothing is announced, a call that has stored its flag stays where it is. -/
theorem stored_of_quiet {race : FlagRace ι} {moves : List (CallMove ι)} {call : ι}
    (hadmits : calls.machine.Admits race moves) (hquiet : ∀ move ∈ moves, ¬ IsAnnounce move)
    (hstored : race.stage call = .stored) :
    (calls.machine.run race moves).stage call = .stored := by
  induction moves generalizing race with
  | nil => exact hstored
  | cons move rest ih =>
      obtain ⟨hfirst, hrest⟩ := List.forall_mem_cons.mp hquiet
      refine ih hadmits.2 hrest ?_
      cases move with
      | locked other =>
          have henabled : race.stage other = .called := hadmits.1
          have hother : call ≠ other := by
            rintro rfl
            rw [hstored] at henabled
            cases henabled
          exact (Function.update_of_ne hother _ _).trans hstored
      | announce other => exact absurd trivial hfirst

/-- In a stretch without announcements, at whose end every call has returned, a
call makes a new record or leaves the manager alone. -/
theorem locked_quiet {race : FlagRace ι} {rest : List (CallMove ι)} {call : ι}
    (hadmits : calls.machine.Admits (calls.machine.step race (.locked call)) rest)
    (hquiet : ∀ move ∈ rest, ¬ IsAnnounce move)
    (hfinished : Finished (calls.machine.run (calls.machine.step race (.locked call)) rest)) :
    (calls.flag race = none ∧ (calls.machine.step race (.locked call)).manager =
        (race.manager.storeFlag calls.userId (calls.reasonFlag call)).notifyStrongAuthChange
          calls.env calls.userId (calls.reasonFlag call)) ∨
      (calls.flag race ≠ none ∧
        (calls.machine.step race (.locked call)).manager = race.manager) := by
  rcases race.manager.setStrongAuthStatLocked_cases calls.env calls.userId
    (calls.reasonFlag call) with ⟨hnone, heq⟩ | ⟨hsome, heq⟩ | ⟨_, heq⟩
  · exact Or.inl ⟨hnone, congrArg Prod.snd heq⟩
  · exact Or.inr ⟨hsome, congrArg Prod.snd heq⟩
  · -- a changed flag would have to be announced before the call returns
    have hstored : (calls.machine.step race (.locked call)).stage call = .stored :=
      (Function.update_self ..).trans (congrArg Prod.fst heq)
    have hlast := stored_of_quiet hadmits hquiet hstored
    rw [hfinished call] at hlast
    cases hlast

theorem quiet_keeps {race : FlagRace ι} {moves : List (CallMove ι)}
    (hadmits : calls.machine.Admits race moves) (hquiet : ∀ move ∈ moves, ¬ IsAnnounce move)
    (hfinished : Finished (calls.machine.run race moves)) (hrecord : calls.flag race ≠ none) :
    (calls.machine.run race moves).manager = race.manager := by
  induction moves generalizing race with
  | nil => rfl
  | cons move rest ih =>
      obtain ⟨hfirst, hrest⟩ := List.forall_mem_cons.mp hquiet
      cases move with
      | announce call => exact absurd trivial hfirst
      | locked call =>
          rcases locked_quiet hadmits.2 hrest hfinished with ⟨hnone, _⟩ | ⟨_, hstep⟩
          · exact absurd hnone hrecord
          · have hkept : calls.flag (calls.machine.step race (.locked call)) ≠ none := by
              unfold flag
              rw [hstep]
              exact hrecord
            exact (ih hadmits.2 hrest hfinished hkept).trans hstep

theorem quiet_believed {begun race : FlagRace ι} {moves : List (CallMove ι)}
    (hverified : calls.env.isOsAccountUnlocked calls.userId = true)
    (hlistens : innerListeners.Interested calls.userId ListenType.strongAuth remote)
    (hadmits : calls.machine.Admits race moves) (hquiet : ∀ move ∈ moves, ¬ IsAnnounce move)
    (hfinished : Finished (calls.machine.run race moves))
    (hbelieved : calls.believed innerListeners remote begun race = calls.flag race) :
    calls.believed innerListeners remote begun (calls.machine.run race moves) =
      calls.flag (calls.machine.run race moves) := by
  induction moves generalizing race with
  | nil => exact hbelieved
  | cons move rest ih =>
      obtain ⟨hfirst, hrest⟩ := List.forall_mem_cons.mp hquiet
      cases move with
      | announce call => exact absurd trivial hfirst
      | locked call =>
          refine ih hadmits.2 hrest hfinished ?_
          -- a new record is announced under the mutex, so both change together
          rcases locked_quiet hadmits.2 hrest hfinished with ⟨_, hstep⟩ | ⟨_, hstep⟩
          · rw [calls.believed_announced hverified hlistens hstep]
            unfold flag
            rw [hstep, StrongAuthManger.notifyStrongAuthChange_stateInfo,
              StrongAuthManger.storeFlag_get, if_pos rfl]
          · rw [calls.believed_congr hstep, hbelieved]
            exact congrArg (fun manager => manager.strongAuthStateInfo[calls.userId]?) hstep.symm

end Quiet

section Records

variable {calls} {race : FlagRace ι}

theorem flag_announce (call : ι) :
    calls.flag (calls.machine.step race (.announce call)) = calls.flag race := by
  unfold flag
  exact congrArg (fun info : Std.TreeMap UserId Int => info[calls.userId]?)
    (StrongAuthManger.notifyStrongAuthChange_stateInfo ..)

theorem flag_locked (call : ι) :
    calls.flag (calls.machine.step race (.locked call)) ≠ none := by
  have hmanager : (calls.machine.step race (.locked call)).manager =
      (race.manager.setStrongAuthStatLocked calls.env calls.userId (calls.reasonFlag call)).2 := rfl
  unfold flag
  rw [hmanager]
  rcases race.manager.setStrongAuthStatLocked_cases calls.env calls.userId
    (calls.reasonFlag call) with ⟨_, heq⟩ | ⟨hsome, heq⟩ | ⟨_, heq⟩
  · rw [heq, StrongAuthManger.notifyStrongAuthChange_stateInfo, StrongAuthManger.storeFlag_get,
      if_pos rfl]
    exact Option.some_ne_none _
  · rw [heq]
    exact hsome
  · rw [heq, StrongAuthManger.storeFlag_get, if_pos rfl]
    exact Option.some_ne_none _

/-- Whoever still has to announce a flag has left a record. -/
def StoredOnRecord (calls : FlagCalls ι) (race : FlagRace ι) : Prop :=
  (∃ call, race.stage call = .stored) → calls.flag race ≠ none

theorem storedOnRecord_step (move : CallMove ι) (hheld : StoredOnRecord calls race) :
    StoredOnRecord calls (calls.machine.step race move) := by
  cases move with
  | locked call => exact fun _ => flag_locked call
  | announce call =>
      rintro ⟨waiting, hwaiting⟩
      rw [flag_announce]
      by_cases hother : waiting = call
      · subst hother
        have hreturned : (calls.machine.step race (.announce waiting)).stage waiting =
          .returned := Function.update_self ..
        rw [hreturned] at hwaiting
        cases hwaiting
      · have hkept : (calls.machine.step race (.announce call)).stage waiting =
          race.stage waiting := Function.update_of_ne hother ..
        exact hheld ⟨waiting, hkept ▸ hwaiting⟩

/-- A call that has stored its flag has left a record. -/
theorem record_of_stored {manager : StrongAuthManger} {moves : List (CallMove ι)} {call : ι}
    (hadmits : calls.machine.Admits (start manager) moves)
    (hstored : (calls.machine.run (start manager) moves).stage call = .stored) :
    calls.flag (calls.machine.run (start manager) moves) ≠ none := by
  have hstart : StoredOnRecord calls (start manager) := by
    rintro ⟨waiting, hwaiting⟩
    cases hwaiting
  exact calls.machine.run_invariant (fun _ move _ hheld => storedOnRecord_step move hheld) hadmits
    hstart ⟨call, hstored⟩

end Records

section Outcome

variable {calls} {manager : StrongAuthManger} {innerListeners : InnerListenerManager}
  {remote : RemoteObject} {moves : List (CallMove ι)}

/-- The last announcement is what the listener goes by, and it comes after the
last change of the record. -/
theorem outcome_of_last {before after : List (CallMove ι)} {call : ι}
    (hverified : calls.env.isOsAccountUnlocked calls.userId = true)
    (hlistens : innerListeners.Interested calls.userId ListenType.strongAuth remote)
    (hadmits : calls.machine.Admits (start manager) (before ++ .announce call :: after))
    (hfinished : Finished (calls.machine.run (start manager) (before ++ .announce call :: after)))
    (hquiet : ∀ later ∈ after, ¬ IsAnnounce later) :
    calls.believed innerListeners remote (start manager)
        (calls.machine.run (start manager) (before ++ .announce call :: after)) =
        some (calls.reasonFlag call) ∧
      calls.flag (calls.machine.run (start manager) (before ++ .announce call :: after)) =
        calls.flag (calls.machine.run (start manager) before) := by
  obtain ⟨hbefore, hannounce, hafter⟩ := (calls.machine.steps_append _ _ _ _).mp hadmits
  rw [calls.machine.run_append, calls.machine.run_cons] at hfinished ⊢
  have hrecord : calls.flag (calls.machine.step (calls.machine.run (start manager) before)
      (.announce call)) ≠ none := by
    rw [flag_announce]
    exact record_of_stored hbefore hannounce
  have hkept := quiet_keeps hafter hquiet hfinished hrecord
  -- with a record there, a later change would be announced as well
  constructor
  · rw [calls.believed_congr hkept]
    exact calls.believed_announced hverified hlistens rfl
  · unfold flag
    rw [hkept]
    exact flag_announce call

/-- When all calls have returned, a listener goes by the flag on record exactly
if the last change to be announced was announced while it was on record. -/
theorem believed_eq_flag_iff (hverified : calls.env.isOsAccountUnlocked calls.userId = true)
    (hlistens : innerListeners.Interested calls.userId ListenType.strongAuth remote)
    (hadmits : calls.machine.Admits (start manager) moves)
    (hfinished : Finished (calls.machine.run (start manager) moves)) :
    calls.believed innerListeners remote (start manager)
        (calls.machine.run (start manager) moves) =
        calls.flag (calls.machine.run (start manager) moves) ↔
      calls.LastAnnouncedInTime (start manager) moves := by
  constructor
  · rintro htrue before call after rfl hquiet
    obtain ⟨hbelieved, hflag⟩ := outcome_of_last hverified hlistens hadmits hfinished hquiet
    rw [← hflag, ← htrue, hbelieved]
  · intro hintime
    rcases none_or_last IsAnnounce moves with hquiet | ⟨before, move, after, rfl, hmove, hquiet⟩
    · exact quiet_believed hverified hlistens hadmits hquiet hfinished rfl
    · cases move with
      | locked call => exact hmove.elim
      | announce call =>
          obtain ⟨hbelieved, hflag⟩ := outcome_of_last hverified hlistens hadmits hfinished hquiet
          rw [hbelieved, hflag, hintime before call after rfl hquiet]

end Outcome

section Overtaking

/-- A listener for account 100. -/
def oneListener : InnerListenerManager :=
  (InnerListenerManager.empty.registerInnerListener 100 true 100 ListenType.strongAuth
    (some ⟨1, some 7⟩)).2

/-- The account has a record that requires nothing. -/
def unrequired : StrongAuthManger :=
  StrongAuthManger.empty.storeFlag 100 StrongAuthReasonFlags.none

/-- A request of the lock screen and the callback of the timer. -/
def requestAndTimeout : FlagCalls Bool where
  env := .single 100
  userId := 100
  reasonFlag call :=
    if call then StrongAuthReasonFlags.activeRequest else StrongAuthReasonFlags.afterTimeout

theorem oneByOne_believed_iff :
    requestAndTimeout.believed oneListener 7 (start unrequired)
        (requestAndTimeout.machine.run (start unrequired)
          [.locked true, .announce true, .locked false, .announce false]) =
        requestAndTimeout.flag (requestAndTimeout.machine.run (start unrequired)
          [.locked true, .announce true, .locked false, .announce false]) ↔
      requestAndTimeout.LastAnnouncedInTime (start unrequired)
        [.locked true, .announce true, .locked false, .announce false] :=
  believed_eq_flag_iff (by decide) (by decide) (by decide) (by decide)

/-- The request stores first and announces last: the listener goes by the request
while the record holds the timeout. -/
theorem overtaken_announcement :
    oneListener.Interested 100 ListenType.strongAuth 7 ∧
      requestAndTimeout.machine.Admits (start unrequired)
        [.locked true, .locked false, .announce false, .announce true] ∧
      Finished (requestAndTimeout.machine.run (start unrequired)
        [.locked true, .locked false, .announce false, .announce true]) ∧
      requestAndTimeout.believed oneListener 7 (start unrequired)
          (requestAndTimeout.machine.run (start unrequired)
            [.locked true, .locked false, .announce false, .announce true]) ≠
        requestAndTimeout.flag (requestAndTimeout.machine.run (start unrequired)
          [.locked true, .locked false, .announce false, .announce true]) := by
  decide

end Overtaking

end FlagCalls

end Screenlock
