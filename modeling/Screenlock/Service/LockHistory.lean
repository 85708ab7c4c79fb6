import Mathlib.Data.List.DropRight
import Screenlock.Service.AccountRecords

/-! # The lock state as a function of an account's own history

What `IsLockedWithUserId` answers for an account is read off the events since
the account was last removed: its activations, and the successful reports of
callers that belong to it. Nothing else changes the answer.
-/

namespace Screenlock.ScreenLockSystemAbility

open Foundation

/-- The events after the last removal of the account. -/
def sinceRemoval (userId : UserId) (events : List ServiceEvent) : List ServiceEvent :=
  events.rtakeWhile fun event => !removes userId event

/-- The lock state the account's own history makes, if it makes one. -/
def lockHistory (userId : UserId) (events : List ServiceEvent) : Option Bool :=
  let own := sinceRemoval userId events
  let reports := own.filterMap (reported userId)
  if own.any (activates userId) = false ∧ reports = [] then none
  else some (reports.getLast?.getD true)

/-- What the account's own history answers. -/
def lockAnswer (userId : UserId) (events : List ServiceEvent) : ScreenLockError × Option Bool :=
  match lockHistory userId events with
  | none => (.userIdInvalid, some true)
  | some isLocked => (.ok, some isLocked)

section Runs

variable {userId : UserId} {disk : Std.TreeMap String PreferencesValue}

/-- An event that neither activates nor removes the account, and is no successful
report of one of its callers. -/
def ConcernsOthers (userId : UserId) (event : ServiceEvent) : Prop :=
  removes userId event = false ∧ activates userId event = false ∧ reported userId event = none

theorem isLockedWithUserId_step (ability : ScreenLockSystemAbility) {event : ServiceEvent}
    (hothers : ConcernsOthers userId event) (caller : Caller) :
    isLockedWithUserId caller userId (ability.step event) =
      isLockedWithUserId caller userId ability := by
  obtain ⟨hremoves, hactivates, hreported⟩ := hothers
  have hsame := @isScreenlockedMap_step userId ability event
  simp only [hremoves, hactivates, hreported, Bool.false_eq_true, if_false, Option.none_or]
    at hsame
  unfold isLockedWithUserId
  rw [hsame]

/-- One more event extends the history. -/
theorem lockHistory_concat (events : List ServiceEvent) (event : ServiceEvent) :
    lockHistory userId (events ++ [event]) =
      if removes userId event then none
      else if activates userId event then some ((lockHistory userId events).getD true)
      else (reported userId event).or (lockHistory userId events) := by
  unfold lockHistory sinceRemoval
  cases hremoves : removes userId event with
  | true => simp [hremoves]
  | false =>
      generalize hown : events.rtakeWhile (fun earlier => !removes userId earlier) = own
      have hgrows : (events ++ [event]).rtakeWhile (fun earlier => !removes userId earlier) =
          own ++ [event] := by
        rw [List.rtakeWhile_concat_pos _ _ _ (by simp [hremoves]), hown]
      rw [hgrows]
      cases hactivates : activates userId event with
      | true =>
          -- an activation tells no lock state; it only puts the account on record
          have hreported : reported userId event = none := by
            cases event with
            | notify env notification => rfl
            | _ => cases hactivates
          by_cases hreports : own.filterMap (reported userId) = []
          · simp only [List.any_append, hreports, List.filterMap_append]
            cases own.any (activates userId) <;> simp [hactivates, hreported]
          · simp [hactivates, hreported, hreports]
      | false =>
          cases hreported : reported userId event with
          | none => simp [hactivates, hreported]
          | some isLocked => simp [hactivates, hreported]

/-- The recorded lock state after any run is the one the account's history makes. -/
theorem isScreenlockedMap_run (events : List ServiceEvent) :
    (machine.run (started disk) events).isScreenlockedMap[userId]? =
      lockHistory userId events := by
  induction events using List.reverseRecOn with
  | nil => rfl
  | append_singleton past event ih =>
      rw [machine.run_concat, lockHistory_concat, ← ih]
      exact isScreenlockedMap_step _ event

/-- From the start of the service on, `IsLockedWithUserId` answers a permitted
caller what the account's own history says, and an event that concerns others
leaves the answer as it is. -/
theorem isLockedWithUserId_run (disk : Std.TreeMap String PreferencesValue)
    (events : List ServiceEvent) (caller : Caller) (userId : UserId) :
    (isLockedWithUserId caller userId (machine.run (started disk) events) =
        if caller.checkSystemPermission then (.notSystemApp, none)
        else lockAnswer userId events) ∧
      ∀ event, ConcernsOthers userId event →
        isLockedWithUserId caller userId (machine.run (started disk) (events ++ [event])) =
          isLockedWithUserId caller userId (machine.run (started disk) events) := by
  constructor
  · unfold isLockedWithUserId lockAnswer
    rw [isScreenlockedMap_run]
    split
    · rfl
    · cases lockHistory userId events <;> rfl
  · intro event hothers
    rw [machine.run_concat]
    exact isLockedWithUserId_step _ hothers caller

end Runs

end Screenlock.ScreenLockSystemAbility
